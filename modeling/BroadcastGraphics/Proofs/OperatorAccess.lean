import BroadcastGraphics.Proofs.PreviewSync
import BroadcastGraphics.Proofs.SessionRestart

/-!
# What takes an operator

Requests without the token of the operator can look at templates, drive their previews and have their
component source made.  Whatever is durable about the service stays as it is: the templates and the
order in which they are held, the current one, all that is stored, and the files on the disk.  The
routes that would change such things refuse before they begin.
-/

namespace BroadcastGraphics

/-! ## What is durable -/

theorem Template.bare_readComponent
    (template : Template) : template.readComponent.template.bare = template.bare := by
  unfold readComponent
  cases template.component <;> rfl

theorem Template.announced_readComponent
    (template : Template) : template.readComponent.announced = false := by
  unfold readComponent
  cases template.component <;> rfl

namespace Session

/-- The session without component source, which can be made again. -/
def durable (session : Session) : Session :=
  { session with templates := session.templates.map Template.bare }

/-- The durable part of the session is a given one. -/
def Retains (kept session : Session) : Prop :=
  session.durable = kept

/-- Reading the component source of a template changes nothing durable. -/
theorem retains_readComponent
    {kept session : Session}
    {number : Nat}
    {template : Template}
    (present : session.template? number = some template)
    (retains : Retains kept session) :
    Retains kept (resultOf (commit number template.readComponent) session).2 := by
  rw [resultOf_commit_of_quiet template.announced_readComponent]
  have same : (session.withTemplate number template.readComponent.template).durable =
      session.durable :=
    congrArg (fun templates => { session with templates := templates })
      (map_set_of_same present template.bare_readComponent)
  exact same.trans retains

end Session

namespace Service

/-- The service without previews and component source. -/
def durable (service : Service) : Service :=
  { service with session := service.session.durable, stage := {} }

/-- The durable part of the service is a given one. -/
def Retains (kept service : Service) : Prop :=
  service.durable = kept

section Retains

variable {α β : Type} {kept : Service}

/-- Work in the session that changes nothing durable about it changes nothing durable. -/
theorem holds_act
    {service : Service}
    {action : Session.Action α}
    (retains : Retains kept service)
    (answer : Fault -> Response)
    (worked : Session.Retains kept.session (Session.resultOf action service.session).2) :
    Retains kept (resultOf (act answer action) service).2 := by
  rw [resultOf_act]
  have before : service.session.durable = kept.session := congrArg Service.session retains
  have after : (Session.resultOf action service.session).2.durable = kept.session := worked
  unfold Retains at retains ⊢
  rw [← retains, durable, durable, before]
  exact congrArg (fun session => { service with session := session, stage := {} }) after

theorem retains_act
    {action : Session.Action α}
    (answer : Fault -> Response)
    (keeps : Session.Keeps (Session.Retains kept.session) action) :
    Keeps (Retains kept) (act answer action) :=
  fun service retains =>
    holds_act retains answer (keeps service.session (congrArg Service.session retains))

theorem retains_onStage
    (change : Stage -> Stage × α) : Keeps (Retains kept) (onStage change) :=
  fun _ retains => retains

theorem retains_onStageOr
    (change : Stage -> Except Fault (Stage × α)) : Keeps (Retains kept) (onStageOr change) := by
  refine keeps_get_bind fun service retains => ?_
  split <;> exact retains

/-! ## Routes that are open to everybody -/

theorem retains_showTemplate
    (id : String) : Keeps (Retains kept) (showTemplate id) := by
  refine keeps_bind (retains_act _ ?_) fun written => keeps_pure _
  exact Session.keeps_require_bind id fun retains _ => Session.keeps_lift _ _ retains

theorem retains_sendComponent
    (id : String) : Keeps (Retains kept) (sendComponent id) := by
  intro service retains
  unfold sendComponent
  rcases resultOf_require_bind id _ service with
    ⟨response, refused⟩ | ⟨number, template, _, present, found⟩
  · exact refused ▸ retains
  · rw [found]
    refine holds_bind (holds_act retains _ ?_) fun _ => keeps_pure _
    exact Session.retains_readComponent present (congrArg Service.session retains)

theorem retains_exportTemplate
    (request : Request)
    (id : String) : Keeps (Retains kept) (exportTemplate request id) := by
  refine keeps_bind (keeps_exportDate request) fun date => ?_
  split
  · refine keeps_bind (retains_act _ ?_) fun _ => keeps_pure _
    exact Session.keeps_exportFiles Session.retains_readComponent id
  · refine keeps_bind (retains_act _ ?_) fun _ => keeps_pure _
    exact Session.keeps_exportAs Session.retains_readComponent .bundle id date
  · refine keeps_bind (retains_act _ ?_) fun _ => keeps_pure _
    exact Session.keeps_exportAs Session.retains_readComponent .editor id date
  · exact keeps_throw _

theorem retains_exportBundle
    (request : Request)
    (body : Option Json) : Keeps (Retains kept) (exportBundle request body) := by
  refine keeps_bind (keeps_accept _ _) fun wanted => ?_
  refine keeps_bind (keeps_exportDate request) fun date => ?_
  exact keeps_bind (retains_act _ (Session.keeps_exportMany _ _ _)) fun _ => keeps_pure _

theorem retains_auditTemplate
    (id : String) : Keeps (Retains kept) (auditTemplate id) := by
  refine keeps_require_bind id fun found => ?_
  exact keeps_bind (retains_act _ (Session.keeps_lift _)) fun _ => keeps_pure _

theorem retains_showPreview
    (id : String) : Keeps (Retains kept) (showPreview id) := by
  refine keeps_get_bind fun service retains => ?_
  split <;> exact retains

theorem retains_driveMounted
    (id : String)
    (wanted : PreviewRequest)
    (command : PreviewCommand) : Keeps (Retains kept) (driveMounted id wanted command) := by
  refine keeps_bind (retains_onStageOr _) fun completion => ?_
  have answers : Keeps (Retains kept) (do
      if wanted.wait then onStage fun stage => (stage.waitFor completion, ())
      showOutcome id completion) := by
    dsimp only
    split
    · exact keeps_bind (retains_onStage _) fun _ => keeps_showOutcome id completion
    · exact keeps_showOutcome id completion
  cases completion with
  | failed fault => exact keeps_throw _
  | settled outcome => exact answers
  | waiting waiter => exact answers

theorem retains_drivePreview
    (id command : String)
    (body : Option Json) : Keeps (Retains kept) (drivePreview id command body) := by
  refine keeps_bind (keeps_accept _ _) fun wanted => ?_
  obtain ⟨command, wanted⟩ := wanted
  refine keeps_require_bind id fun found => ?_
  dsimp only
  split
  · exact keeps_bind (retains_onStage _) fun _ => keeps_pure _
  · exact keeps_bind (retains_onStage _) fun _ => retains_driveMounted id wanted command

/-- A route that needs no operator changes nothing durable. -/
theorem retains_handle
    (request : Request)
    (body : Option Json)
    {route : Route}
    (isOpen : route.isGuarded = false) : Keeps (Retains kept) (handle request body route) := by
  cases route with
  | health => exact keeps_get_bind fun _ retains => retains
  | templates => exact keeps_get_bind fun _ retains => retains
  | template id => exact retains_showTemplate id
  | component id => exact retains_sendComponent id
  | exportOne id => exact retains_exportTemplate request id
  | exportMany => exact retains_exportBundle request body
  | audit id => exact retains_auditTemplate id
  | preview id => exact retains_showPreview id
  | previewCommand id command => exact retains_drivePreview id command body
  | _ => cases isOpen

end Retains

/-! ## Requests without the token of the operator -/

/-- The request does not carry the token of the operator. -/
def Foreign (service : Service) (request : Request) : Prop :=
  ∀ token, request.token? = some token ->
    service.config.adminToken service.environment ≠ .ok (.str token)

section Foreign

variable {service : Service} {request : Request} {route : Route}

/-- Whatever keeps a body from being read is answered by an error. -/
theorem resultOf_readBody
    (request : Request)
    (service : Service) :
    (∃ response, 400 ≤ response.status ∧
        resultOf (readBody request) service = (.error response, service)) ∨
      ∃ body, resultOf (readBody request) service = (.ok body, service) := by
  unfold readBody
  split
  · exact Or.inr ⟨none, rfl⟩
  · split
    · exact Or.inr ⟨_, rfl⟩
    · exact Or.inl ⟨_, Nat.le_of_ble_eq_true rfl, rfl⟩
    · exact Or.inl ⟨.unreadableBody, Nat.le_refl 400, rfl⟩

/-- A request without the token of the operator does not pass. -/
theorem Foreign.resultOf_authorize
    (foreign : service.Foreign request) :
    ∃ response, 400 ≤ response.status ∧
      resultOf (authorize request) service = (.error response, service) := by
  unfold authorize
  cases given : request.token? with
  | none => exact ⟨.notAuthenticated, Nat.le_of_ble_eq_true rfl, rfl⟩
  | some token =>
    dsimp only
    rw [resultOf_bind, resultOf_get]
    dsimp only
    cases expected : service.config.adminToken service.environment with
    | error fault => exact ⟨.broken fault, Nat.le_of_ble_eq_true rfl, rfl⟩
    | ok admin =>
      have other : Json.str token ≠ admin := fun same =>
        foreign token given (expected.trans (congrArg Except.ok same.symm))
      dsimp only
      rw [if_neg other]
      exact ⟨.wrongToken, Nat.le_of_ble_eq_true rfl, rfl⟩

/-- A guarded route is not followed for such a request. -/
theorem Foreign.resultOf_follow
    (foreign : service.Foreign request)
    (guarded : route.isGuarded = true) :
    ∃ response, 400 ≤ response.status ∧
      resultOf (follow request route) service = (.error response, service) := by
  obtain ⟨response, error, refused⟩ := foreign.resultOf_authorize
  have stopped (body : Option Json) :
      resultOf (do authorize request; handle request body route) service =
        (.error response, service) := by
    rw [resultOf_bind, refused]
  simp only [follow, guarded, if_true]
  split
  · rw [resultOf_bind]
    rcases resultOf_readBody request service with ⟨earlier, errorToo, unread⟩ | ⟨body, read⟩
    · rw [unread]
      exact ⟨earlier, errorToo, rfl⟩
    · rw [read]
      exact ⟨response, error, stopped body⟩
  · exact ⟨response, error, stopped none⟩

theorem Response.le_status_sendable
    {response : Response}
    (error : 400 ≤ response.status) : 400 ≤ response.sendable.status := by
  unfold sendable
  split
  · exact Nat.le_of_ble_eq_true rfl
  · exact error

/-- Such a request is answered by an error on a guarded route. -/
theorem Foreign.error_of_guarded
    (foreign : service.Foreign request)
    (led : Table.get? (routesAt request.path) request.method = some route)
    (guarded : route.isGuarded = true) : 400 ≤ (service.answer request).2.status := by
  obtain ⟨response, error, refused⟩ := foreign.resultOf_follow guarded
  rw [answer_of_led led, refused]
  exact Response.le_status_sendable error

/-- Such a request changes nothing durable. -/
theorem Foreign.durable_answer
    (foreign : service.Foreign request) : (service.answer request).1.durable = service.durable := by
  rcases answer_cases request with ⟨_, same⟩ | ⟨route, _, followed⟩
  · rw [same]
  · rw [followed]
    cases guarded : route.isGuarded with
    | true =>
      obtain ⟨response, _, refused⟩ := foreign.resultOf_follow guarded
      rw [refused]
    | false =>
      have everybody (body : Option Json) : Keeps (Retains service.durable)
          (handle request body route) := retains_handle request body guarded
      have follows : Keeps (Retains service.durable) (follow request route) := by
        simp only [follow, guarded, Bool.false_eq_true, if_false]
        split
        · exact keeps_bind (keeps_readBody request) everybody
        · exact everybody none
      exact follows service rfl

end Foreign

/-- The token that is asked for is durable. -/
theorem Foreign.congr
    {service after : Service}
    {request : Request}
    (foreign : service.Foreign request)
    (same : after.durable = service.durable) : after.Foreign request := by
  have config : after.durable.config = service.durable.config := by rw [same]
  have environment : after.durable.environment = service.durable.environment := by rw [same]
  intro token given
  exact config ▸ environment ▸ foreign token given

theorem durable_answerAll
    {service : Service}
    {requests : List Request}
    (foreign : ∀ request ∈ requests, service.Foreign request) :
    (answerAll requests service).durable = service.durable := by
  induction requests generalizing service with
  | nil => rfl
  | cons request rest ih =>
    have first := (foreign request List.mem_cons_self).durable_answer
    have later : (answerAll rest (service.answer request).1).durable =
        (service.answer request).1.durable :=
      ih fun other member => (foreign other (List.mem_cons_of_mem _ member)).congr first
    exact later.trans first

/-- Requests without the token of the operator change neither the templates that are held, their
order and the current one, nor what is stored and what is on the disk, and each of them that is led
to a guarded route is answered by an error. -/
theorem durable_without_token
    {service : Service}
    {requests : List Request}
    (foreign : ∀ request ∈ requests, service.Foreign request) :
    (answerAll requests service).durable = service.durable ∧
      ∀ seen request rest route, requests = seen ++ request :: rest ->
        Table.get? (routesAt request.path) request.method = some route ->
        route.isGuarded = true ->
        400 ≤ ((answerAll seen service).answer request).2.status := by
  refine ⟨durable_answerAll foreign, fun seen request rest route split led guarded => ?_⟩
  subst split
  have before : (answerAll seen service).durable = service.durable :=
    durable_answerAll fun other member => foreign other (List.mem_append_left _ member)
  have here := foreign request (List.mem_append_right _ List.mem_cons_self)
  exact (here.congr before).error_of_guarded led guarded

/-- A wrong token does not delete a template whose preview plays. -/
theorem durable_under_wrong_token :
    let template : Template := ⟨{ id := "a", name := "A" }, [], none, none, 1⟩
    let service : Service :=
      { session := { templates := [template], index := [("a", 0)], current := some "a" },
        config := ⟨[("security", .obj [("default_token", .str "secret")])]⟩, today := "" }
    let deletion : Request :=
      { method := "DELETE", path := "/api/v1/templates/a", authorization := some "BEARER guess" }
    let seen : List Request :=
      [{ path := "/api/v1/templates/a/artifact" },
        { method := "POST", path := "/api/v1/templates/a/preview/play" }]
    let requests : List Request := seen ++ [deletion]
    (∀ request ∈ requests, service.Foreign request) ∧
      (answerAll requests service).session.index = [("a", 0)] ∧
      (answerAll requests service).stage.isMounted "a" = true ∧
      400 ≤ ((answerAll seen service).answer deletion).2.status := by
  intro template service deletion seen requests
  have foreign : ∀ request ∈ requests, service.Foreign request := by
    have token : deletion.token? = some "guess" := by decide +kernel
    have expected : service.config.adminToken service.environment ≠ .ok (.str "guess") := by
      decide +kernel
    simp only [requests, seen, List.cons_append, List.nil_append, List.forall_mem_cons]
    refine ⟨fun _ given => (nomatch given), fun _ given => (nomatch given), fun other given => ?_,
      fun _ member => nomatch member⟩
    rw [← Option.some.inj (token.symm.trans given)]
    exact expected
  obtain ⟨same, refused⟩ := durable_without_token foreign
  have led : Table.get? (routesAt deletion.path) deletion.method = some (.deleteTemplate "a") := by
    decide +kernel
  exact ⟨foreign, congrArg (fun service : Service => service.session.index) same, by decide +kernel,
    refused seen deletion [] _ rfl led rfl⟩

end Service
end BroadcastGraphics
