import BroadcastGraphics.Proofs.SessionIndex
import BroadcastGraphics.Proofs.StageContent
import BroadcastGraphics.Service.Answer

/-!
# Handlers of the service and what they keep

The outcome of a handler is read off together with the service that it leaves behind.  Most handlers
leave the stage alone and work in the session, whose index stays sound.
-/

namespace BroadcastGraphics
namespace Service

variable {α β : Type}

/-- The outcome of a handler, with the service that it leaves behind. -/
def resultOf (handler : Handler α) (service : Service) : Except Response α × Service :=
  handler.run.run service

@[simp] theorem resultOf_pure
    (value : α)
    (service : Service) :
    resultOf (pure value) service = (.ok value, service) := rfl

@[simp] theorem resultOf_throw
    (response : Response)
    (service : Service) :
    resultOf (throw response : Handler α) service = (.error response, service) := rfl

@[simp] theorem resultOf_get
    (service : Service) :
    resultOf get service = (.ok service, service) := rfl

@[simp] theorem resultOf_set
    (next service : Service) :
    resultOf (set next) service = (.ok ⟨⟩, next) := rfl

/-- A refusal ends a sequence of handlers, and what was done before it stays done. -/
theorem resultOf_bind
    (first : Handler α)
    (next : α -> Handler β)
    (service : Service) :
    resultOf (first >>= next) service =
      match resultOf first service with
      | (.ok value, after) => resultOf (next value) after
      | (.error response, after) => (.error response, after) := by
  simp only [resultOf, ExceptT.run_bind, StateT.run_bind]
  rcases handled : first.run.run service with ⟨_ | _, _⟩ <;> rfl

/-- What is done in the session does not touch the rest of the service. -/
theorem resultOf_act
    (answer : Fault -> Response)
    (action : Session.Action α)
    (service : Service) :
    resultOf (act answer action) service =
      ((Session.resultOf action service.session).1.mapError answer,
        { service with session := (Session.resultOf action service.session).2 }) := by
  rcases ran : Session.resultOf action service.session with ⟨outcome, after⟩
  have run : action.run.run service.session = (outcome, after) := ran
  unfold act
  simp only [resultOf_bind, resultOf_get, run, resultOf_set]
  cases outcome <;> rfl

@[simp] theorem resultOf_onStage
    (change : Stage -> Stage × α)
    (service : Service) :
    resultOf (onStage change) service =
      (.ok (change service.stage).2, { service with stage := (change service.stage).1 }) := rfl

/-! ## Answers -/

/-- What is sent for the outcome of a handler. -/
def sentFor (outcome : Except Response Response) : Response :=
  (match outcome with
    | .ok response => response
    | .error response => response).sendable

/-- A request that is led to a route is answered by what comes of following it. -/
theorem answer_of_led
    {service : Service}
    {request : Request}
    {route : Route}
    (led : Table.get? (routesAt request.path) request.method = some route) :
    service.answer request = ((resultOf (follow request route) service).2,
      sentFor (resultOf (follow request route) service).1) := by
  unfold answer
  dsimp only
  cases routes : routesAt request.path with
  | nil =>
    rw [routes] at led
    cases led
  | cons first rest =>
    rw [routes] at led
    rw [led, List.isEmpty_cons]
    rfl

/-! ## Properties that handlers keep -/

/-- A handler keeps a property of services, also when it refuses. -/
def Keeps
    (Holds : Service -> Prop)
    (handler : Handler α) : Prop :=
  ∀ service, Holds service -> Holds (resultOf handler service).2

section Keeps

variable {Holds : Service -> Prop}

theorem keeps_pure (value : α) : Keeps Holds (pure value) :=
  fun _ holds => holds

theorem keeps_throw (response : Response) : Keeps Holds (throw response : Handler α) :=
  fun _ holds => holds

/-- What holds after the first of two handlers holds after both if the second one keeps it. -/
theorem holds_bind
    {first : Handler α}
    {next : α -> Handler β}
    {service : Service}
    (afterFirst : Holds (resultOf first service).2)
    (nextKeeps : ∀ value, Keeps Holds (next value)) :
    Holds (resultOf (first >>= next) service).2 := by
  rw [resultOf_bind]
  rcases result : resultOf first service with ⟨response | value, after⟩
  · rw [result] at afterFirst
    exact afterFirst
  · rw [result] at afterFirst
    exact nextKeeps value after afterFirst

theorem keeps_bind
    {first : Handler α}
    {next : α -> Handler β}
    (firstKeeps : Keeps Holds first)
    (nextKeeps : ∀ value, Keeps Holds (next value)) :
    Keeps Holds (first >>= next) :=
  fun service holds => holds_bind (firstKeeps service holds) nextKeeps

/-- After reading the service, what follows may use that it has the property. -/
theorem keeps_get_bind
    {next : Service -> Handler β}
    (nextKeeps : ∀ service, Holds service -> Holds (resultOf (next service) service).2) :
    Keeps Holds (get >>= next) :=
  nextKeeps

theorem keeps_accept
    (body : Option Json)
    (result : Checked α) : Keeps Holds (accept body result) := by
  cases result with
  | accepted value => exact keeps_pure value
  | refused issues => exact keeps_throw _

theorem keeps_templateNumbered
    (number : Nat) : Keeps Holds (templateNumbered number) :=
  keeps_get_bind fun _ holds => holds

theorem keeps_shown
    (status number : Nat) : Keeps Holds (shown status number) := by
  refine keeps_bind (keeps_templateNumbered number) fun template => ?_
  rcases template.map Template.written with _ | _ | _
  · exact keeps_pure _
  · exact keeps_throw _
  · exact keeps_pure _

theorem keeps_readBody
    (request : Request) : Keeps Holds (readBody request) := by
  unfold readBody
  split
  · exact keeps_pure _
  · split
    · exact keeps_pure _
    · exact keeps_throw _
    · exact keeps_throw _

theorem keeps_authorize
    (request : Request) : Keeps Holds (authorize request) := by
  unfold authorize
  split
  · exact keeps_throw _
  · refine keeps_get_bind fun service holds => ?_
    split
    · exact holds
    · split
      · exact holds
      · exact holds

end Keeps

/-- The stage is as it was, and the index of the session is sound. -/
structure Backstage (stage : Stage) (service : Service) : Prop where
  stage : service.stage = stage
  indexed : service.session.Indexed

section Backstage

variable {stage : Stage}

theorem keeps_act
    {action : Session.Action α}
    (answer : Fault -> Response)
    (kept : Session.Keeps Session.Indexed action) :
    Keeps (Backstage stage) (act answer action) := by
  intro service holds
  rw [resultOf_act]
  exact ⟨holds.stage, kept _ holds.indexed⟩

/-- Looking up a template refuses, or it finds one that is held; in both cases nothing changes. -/
theorem resultOf_require_bind
    (id : String)
    (next : Nat × Template -> Handler β)
    (service : Service) :
    (∃ response, resultOf (attempt (Session.require id) >>= next) service =
        (.error response, service)) ∨
      ∃ number template, service.session.number? id = some number ∧
        service.session.template? number = some template ∧
        resultOf (attempt (Session.require id) >>= next) service =
          resultOf (next (number, template)) service := by
  rw [resultOf_bind, attempt, resultOf_act]
  rcases Session.resultOf_require id service.session with missing | ⟨number, template, held, present,
    found⟩
  · rw [missing]
    exact Or.inl ⟨_, rfl⟩
  · rw [found]
    exact Or.inr ⟨number, template, held, present, rfl⟩

theorem keeps_require_bind
    {Holds : Service -> Prop}
    (id : String)
    {next : Nat × Template -> Handler β}
    (nextKeeps : ∀ found, Keeps Holds (next found)) :
    Keeps Holds (attempt (Session.require id) >>= next) := by
  intro service holds
  rcases resultOf_require_bind id next service with ⟨response, refused⟩ | ⟨_, _, _, _, found⟩
  · rw [refused]
    exact holds
  · rw [found]
    exact nextKeeps _ service holds

/-- After looking up a template, an edit of it may be committed. -/
theorem keeps_require_commit
    (id : String)
    (answer : Fault -> Response)
    {change : Template -> Edit α}
    (carries : ∀ template, ∃ request, (change template).Carries template request)
    {next : α -> Handler β}
    (nextKeeps : ∀ value, Keeps (Backstage stage) (next value)) :
    Keeps (Backstage stage) (do
      let (number, template) <- attempt (Session.require id)
      next (<- act answer (Session.commit number (change template)))) := by
  intro service holds
  rcases resultOf_require_bind id (fun found =>
    act answer (Session.commit found.1 (change found.2)) >>= next) service with
    ⟨response, refused⟩ | ⟨number, template, held, present, found⟩
  · exact refused ▸ holds
  · refine found ▸ holds_bind ?_ nextKeeps
    rw [resultOf_act]
    obtain ⟨request, carried⟩ := carries template
    exact ⟨holds.stage, holds.indexed.committed present carried⟩

/-! ## Routes behind the stage -/

theorem keeps_createTemplate
    (body : Option Json) : Keeps (Backstage stage) (createTemplate body) := by
  refine keeps_bind (keeps_accept _ _) fun wanted => ?_
  refine keeps_bind (keeps_act _ ?_) fun number => keeps_shown 201 number
  exact Session.maintained_indexed.keeps_create Session.arising_valid _ _ _ _

theorem keeps_showTemplate
    (id : String) : Keeps (Backstage stage) (showTemplate id) := by
  refine keeps_bind (keeps_act _ ?_) fun written => keeps_pure _
  exact Session.keeps_require_bind id fun holds _ => Session.keeps_lift _ _ holds

theorem keeps_duplicateTemplate
    (id : String)
    (body : Option Json) : Keeps (Backstage stage) (duplicateTemplate id body) := by
  refine keeps_bind (keeps_accept _ _) fun wanted => ?_
  refine keeps_bind (keeps_act _ ?_) fun number => keeps_shown 201 number
  exact Session.maintained_indexed.keeps_duplicate Session.arising_valid _ _ _

theorem keeps_selectTemplate
    (id : String) : Keeps (Backstage stage) (selectTemplate id) := by
  refine keeps_bind (keeps_act _ (Session.maintained_indexed.selected id)) fun held => ?_
  split
  · exact keeps_pure _
  · exact keeps_throw _

theorem keeps_addProperty
    (id : String)
    (body : Option Json) : Keeps (Backstage stage) (addProperty id body) := by
  refine keeps_bind (keeps_accept _ _) fun wanted => ?_
  refine keeps_bind (keeps_act _ ?_) fun answer => keeps_pure _
  exact Session.maintained_indexed.keeps_edit id fun template =>
    ⟨_, (template.addProperty_performs _ _ _ _).carries⟩

theorem keeps_removeProperty
    (id name : String) : Keeps (Backstage stage) (removeProperty id name) := by
  refine keeps_require_commit id Response.broken
    (fun template => ⟨_, (template.removeProperty_performs name).carries⟩) fun found => ?_
  split
  · exact keeps_pure _
  · exact keeps_throw _

theorem keeps_updateManifest
    (id : String)
    (body : Option Json) : Keeps (Backstage stage) (updateManifest id body) := by
  refine keeps_bind (keeps_accept _ _) fun updates => ?_
  refine keeps_bind (keeps_act _ ?_) fun answer => keeps_pure _
  exact Session.maintained_indexed.keeps_edit id fun template =>
    ⟨_, (template.updateManifest_performs _ true).carries⟩

theorem keeps_sendComponent
    (id : String) : Keeps (Backstage stage) (sendComponent id) :=
  keeps_require_commit id Response.broken
    (fun template => ⟨.readComponent, template.readComponent_carries _⟩) fun _ => keeps_pure _

theorem keeps_exportDate
    {Holds : Service -> Prop}
    (request : Request) : Keeps Holds (exportDate request) :=
  keeps_get_bind fun _ holds => holds

theorem keeps_exportTemplate
    (request : Request)
    (id : String) : Keeps (Backstage stage) (exportTemplate request id) := by
  refine keeps_bind (keeps_exportDate request) fun date => ?_
  split
  · exact keeps_bind (keeps_act _ (Session.maintained_indexed.keeps_exportFiles id))
      fun _ => keeps_pure _
  · exact keeps_bind (keeps_act _ (Session.maintained_indexed.keeps_exportAs .bundle id date))
      fun _ => keeps_pure _
  · exact keeps_bind (keeps_act _ (Session.maintained_indexed.keeps_exportAs .editor id date))
      fun _ => keeps_pure _
  · exact keeps_throw _

theorem keeps_exportToDisk
    (id : String) : Keeps (Backstage stage) (exportToDisk id) := by
  refine keeps_bind (keeps_act _ (Session.maintained_indexed.keeps_exportFiles id)) fun files => ?_
  refine keeps_get_bind fun service holds => ?_
  cases service.config.exportDirectory id with
  | error fault => exact holds
  | ok directory =>
    -- only the disk has changed, whatever has been written to it
    refine @holds_bind _ _ (Backstage stage) _ _ _ ⟨holds.stage, holds.indexed⟩ fun _ => ?_
    split
    · exact keeps_pure _
    · exact keeps_throw _

theorem keeps_exportBundle
    (request : Request)
    (body : Option Json) : Keeps (Backstage stage) (exportBundle request body) := by
  refine keeps_bind (keeps_accept _ _) fun wanted => ?_
  refine keeps_bind (keeps_exportDate request) fun date => ?_
  exact keeps_bind (keeps_act _ (Session.keeps_exportMany _ _ _)) fun _ => keeps_pure _

theorem keeps_importPolicyFor
    (wanted : ImportRequest) : Keeps (Backstage stage) (importPolicyFor wanted) := by
  unfold importPolicyFor
  split
  · exact keeps_pure _
  · refine keeps_get_bind fun service holds => ?_
    cases service.config.policyInForce with
    | ok policy => exact holds
    | error fault => exact holds

theorem keeps_importTemplates
    (body : Option Json) : Keeps (Backstage stage) (importTemplates body) := by
  refine keeps_bind (keeps_accept _ _) fun wanted => ?_
  refine keeps_bind (keeps_importPolicyFor wanted) fun policy => ?_
  refine keeps_bind (keeps_act _ ?_) fun numbers => ?_
  rotate_left
  · exact keeps_get_bind fun service holds => holds
  unfold importAction
  split
  · exact Session.maintained_indexed.keeps_importDocument Session.arising_valid _ _
  · refine Session.keeps_bind ?_ fun _ => Session.keeps_pure _
    exact Session.maintained_indexed.keeps_importTemplate Session.arising_valid _ _
  · exact Session.keeps_throw _

theorem keeps_auditTemplate
    (id : String) : Keeps (Backstage stage) (auditTemplate id) := by
  refine keeps_require_bind id fun found => ?_
  exact keeps_bind (keeps_act _ (Session.keeps_lift _)) fun _ => keeps_pure _

theorem keeps_showPreview
    (id : String) : Keeps (Backstage stage) (showPreview id) := by
  refine keeps_get_bind fun service holds => ?_
  split
  · exact holds
  · exact holds

end Backstage

end Service
end BroadcastGraphics
