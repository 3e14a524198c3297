import BroadcastGraphics.Proofs.ElementNames
import BroadcastGraphics.Proofs.JsonReading
import BroadcastGraphics.Proofs.ServiceAction
import Mathlib.Data.List.Induction

/-!
# Previews and the session

The previews are in step with the session when every one of them belongs to a template that is held
and is made of its elements and settings.  The requests that edit elements or settings, and those that
delete a template, tend to its preview at their very end.  All other requests, and those that are
refused after they have changed a template, leave the previews as they are: so the previews stay in
step exactly as long as no such request changes what a mounted template is made of.
-/

namespace BroadcastGraphics

/-- What the template held under an id is made of. -/
def Session.content? (session : Session) (id : String) :
    Option (List Element × AnimationSettings) :=
  (session.held? id).map Template.content

namespace Service

/-- Every template with a preview is held, and its graphic is made of its elements and settings. -/
def InStep (service : Service) : Prop :=
  ∀ id, service.stage.isMounted id = true -> ∃ template playback,
    service.session.held? id = some template ∧ service.stage.playback? id = some playback ∧
      playback.elements = template.elements ∧ playback.settings = template.effectiveAnimation

/-- The route leads to an edit of the elements or settings of the template with an id, or to its
deletion. -/
def Route.tends (id : String) : Route -> Bool
  | .deleteTemplate other => other == id
  | .addElement other => other == id
  | .updateElement other _ => other == id
  | .removeElement other _ => other == id
  | .updateAnimation other => other == id
  | _ => false

/-- The request edits the elements or settings of the template with an id, or deletes it, and is not
refused. -/
def Tends (service : Service) (request : Request) (id : String) : Prop :=
  ∃ route response, Table.get? (routesAt request.path) request.method = some route ∧
    route.tends id = true ∧ (resultOf (follow request route) service).1 = .ok response

/-- The request changes what a template with a preview is made of only if it tends to the preview. -/
def KeepsPace (service : Service) (request : Request) : Prop :=
  ∀ id, service.stage.isMounted id = true ->
    (service.answer request).1.session.content? id = service.session.content? id ∨
      Tends service request id

/-- The service after some requests. -/
def answerAll (requests : List Request) (service : Service) : Service :=
  requests.foldl (fun service request => (service.answer request).1) service

/-! ## What a request does to previews -/

/-- The index of the session and the stage are sound. -/
structure Orderly (service : Service) : Prop where
  indexed : service.session.Indexed
  sound : service.stage.Sound

/-- Where there is a preview, it is made of what the template is made of that is held. -/
theorem Orderly.inStep_iff
    {service : Service}
    (orderly : Orderly service) :
    InStep service ↔ ∀ id content, service.stage.content? id = some content ->
      service.session.content? id = some content := by
  constructor
  · intro inStep id content found
    obtain ⟨template, playback, held, mounted, elements, settings⟩ :=
      inStep id ((orderly.sound.isMounted_iff id).2 ⟨content, found⟩)
    rw [Stage.content?, mounted, Option.map_some, Option.some.injEq] at found
    rw [Session.content?, held, Option.map_some, ← found, Playback.content, elements, settings]
    rfl
  · intro follows id mounted
    obtain ⟨content, found⟩ := (orderly.sound.isMounted_iff id).1 mounted
    have here := follows id content found
    obtain ⟨playback, isPlayback, rfl⟩ := Option.map_eq_some_iff.1 found
    obtain ⟨template, held, same⟩ := Option.map_eq_some_iff.1 here
    obtain ⟨elements, settings⟩ := Prod.mk.inj same
    exact ⟨template, playback, held, isPlayback, elements.symm, settings.symm⟩

/-- What has become of the previews when a route has been followed: each is as it was, taken down, or
made of what its template is made of now. -/
structure Tended (route : Route) (before : Service)
    (result : Except Response Response × Service) : Prop where
  orderly : Orderly result.2
  previews : ∀ id, result.2.stage.content? id = before.stage.content? id ∨
    result.2.stage.content? id = none ∨
    result.2.stage.content? id = result.2.session.content? id
  tended : ∀ id, route.tends id = true -> (∃ response, result.1 = .ok response) ->
    result.2.stage.content? id = none ∨
      result.2.stage.content? id = result.2.session.content? id
  untended : ∀ id, before.stage.isMounted id = true ->
    (route.tends id = true ∧ ∃ response, result.1 = .ok response) ∨
      result.2.stage.content? id = before.stage.content? id ∨
      result.2.session.content? id = before.session.content? id

section Tended

variable {route : Route} {before : Service} {result : Except Response Response × Service}

/-- Where the stage is left alone, the route does not tend to a preview or is refused. -/
theorem tended_of_sameStage
    (indexed : result.2.session.Indexed)
    (sound : before.stage.Sound)
    (sameStage : result.2.stage = before.stage)
    (idle : (∀ id, route.tends id = false) ∨ ∃ response, result.1 = .error response) :
    Tended route before result := by
  refine ⟨⟨indexed, sameStage ▸ sound⟩, fun id => Or.inl (by rw [sameStage]), ?_,
    fun id _ => Or.inr (Or.inl (by rw [sameStage]))⟩
  intro id tends ⟨response, done⟩
  rcases idle with never | ⟨refusal, refused⟩
  · rw [never id] at tends
    cases tends
  · rw [refused] at done
    cases done

/-- The stage after the preview of a template, if there is one, took over its content. -/
def synced (stage : Stage) (template : Template) : Stage :=
  if stage.isMounted template.id then (stage.refresh template).1 else stage

theorem content?_synced
    {stage : Stage}
    (sound : stage.Sound)
    (template : Template)
    (id : String) :
    (synced stage template).content? id =
      if template.id = id ∧ stage.isMounted id = true then some template.content
      else stage.content? id := by
  unfold synced
  by_cases mounted : stage.isMounted template.id = true
  · rw [if_pos mounted, Stage.content?_refresh sound mounted]
    by_cases here : template.id = id
    · rw [if_pos here, if_pos ⟨here, here ▸ mounted⟩]
    · rw [if_neg here, if_neg fun both => here both.1]
  · rw [if_neg mounted, if_neg]
    rintro ⟨rfl, isMounted⟩
    exact mounted isMounted

theorem sound_synced
    {stage : Stage}
    (sound : stage.Sound)
    (template : Template) : (synced stage template).Sound := by
  unfold synced
  split
  · rename_i mounted
    exact sound.refresh mounted
  · exact sound

/-- An edit that is not refused has given the new content to the preview, if there is one. -/
theorem tended_of_synced
    {id : String}
    {template : Template}
    (tends : ∀ other, route.tends other = (id == other))
    (indexed : result.2.session.Indexed)
    (sound : before.stage.Sound)
    (held : result.2.session.held? id = some template)
    (sameId : template.id = id)
    (sync : result.2.stage = synced before.stage template)
    (done : ∃ response, result.1 = .ok response) : Tended route before result := by
  have content (other : String) : result.2.stage.content? other =
      if id = other ∧ before.stage.isMounted other = true then some template.content
      else before.stage.content? other := by
    rw [sync, content?_synced sound, sameId]
  have heldContent : result.2.session.content? id = some template.content := by
    rw [Session.content?, held]
    rfl
  have here : result.2.stage.content? id = none ∨
      result.2.stage.content? id = result.2.session.content? id := by
    by_cases mounted : before.stage.isMounted id = true
    · right
      rw [content, if_pos ⟨rfl, mounted⟩, heldContent]
    · left
      rw [content, if_neg fun both => mounted both.2]
      cases found : before.stage.content? id with
      | none => rfl
      | some given => exact absurd ((sound.isMounted_iff id).2 ⟨given, found⟩) mounted
  refine ⟨⟨indexed, sync ▸ sound_synced sound template⟩, fun other => ?_, fun other isTended _ => ?_,
    fun other _ => ?_⟩
  · by_cases same : id = other
    · exact Or.inr (same ▸ here)
    · rw [content, if_neg fun both => same both.1]
      exact Or.inl rfl
  · rw [tends, beq_iff_eq] at isTended
    exact isTended ▸ here
  · by_cases same : id = other
    · exact Or.inl ⟨(tends other).trans (beq_iff_eq.2 same), done⟩
    · rw [content, if_neg fun both => same both.1]
      exact Or.inr (Or.inl rfl)

/-- A deletion that is not refused has taken the preview down. -/
theorem tended_of_unmounted
    {id : String}
    (tends : ∀ other, route.tends other = (id == other))
    (indexed : result.2.session.Indexed)
    (sound : before.stage.Sound)
    (unmounted : result.2.stage = (before.stage.unmount id).1)
    (done : ∃ response, result.1 = .ok response) : Tended route before result := by
  have content (other : String) : result.2.stage.content? other =
      if id = other then none else before.stage.content? other := by
    rw [unmounted, Stage.content?_unmount]
  refine ⟨⟨indexed, unmounted ▸ sound.unmount id⟩, fun other => ?_, fun other isTended _ => ?_,
    fun other _ => ?_⟩
  · rw [content]
    split
    · exact Or.inr (Or.inl rfl)
    · exact Or.inl rfl
  · rw [tends, beq_iff_eq] at isTended
    rw [content, if_pos isTended]
    exact Or.inl rfl
  · by_cases same : id = other
    · exact Or.inl ⟨(tends other).trans (beq_iff_eq.2 same), done⟩
    · rw [content, if_neg same]
      exact Or.inr (Or.inl rfl)

/-- A command for a preview leaves the session alone; the stage is as it was but for the preview of a
template, which may have been mounted or taken down. -/
theorem tended_of_driven
    (indexed : before.session.Indexed)
    (idle : ∀ id, route.tends id = false)
    (sameSession : result.2.session = before.session)
    (sound : result.2.stage.Sound)
    (previews : ∀ id, result.2.stage.content? id = before.stage.content? id ∨
      result.2.stage.content? id = none ∨
      result.2.stage.content? id = before.session.content? id) : Tended route before result := by
  refine ⟨⟨sameSession ▸ indexed, sound⟩, ?_, fun id tends => ?_, fun id _ => ?_⟩
  · rw [sameSession]
    exact previews
  · rw [idle id] at tends
    cases tends
  · rw [sameSession]
    exact Or.inr (Or.inr rfl)

end Tended

/-! ## Editing what a preview is made of -/

section Editing

variable {α β : Type} {service : Service} {id : String} {number : Nat}

/-- A check of a body refuses without doing anything, or what follows is done with its value. -/
theorem resultOf_accept_bind
    (body : Option Json)
    (checked : Checked α)
    (next : α -> Handler β)
    (service : Service) :
    (∃ response, resultOf (accept body checked >>= next) service = (.error response, service)) ∨
      ∃ value, checked = .accepted value ∧
        resultOf (accept body checked >>= next) service = resultOf (next value) service := by
  cases checked with
  | accepted value => exact Or.inr ⟨value, rfl, rfl⟩
  | refused issues => exact Or.inl ⟨_, rfl⟩

/-- The session after an edit: its index is sound, and the template is held as before, the way the
edit leaves it. -/
structure Edited (id : String) (number : Nat) (template : Template) (session : Session) :
    Prop where
  indexed : session.Indexed
  held : session.number? id = some number
  present : session.template? number = some template

theorem Edited.held?_eq
    {template : Template}
    {session : Session}
    (edited : Edited id number template session) : session.held? id = some template := by
  rw [Session.held?, edited.held]
  exact edited.present

/-- An edit that leaves the id alone is refused, or what follows is done with its answer and the
edited template in place. -/
theorem resultOf_commit_bind
    (service : Service)
    {template : Template}
    {edit : Edit α}
    {request : Template.Call}
    (before : Edited id number template service.session)
    (carries : edit.Carries template request)
    (notManifest : ∀ updates, request ≠ .updateManifest updates)
    (answer : Fault -> Response)
    (next : α -> Handler β) :
    ∃ session, Edited id number edit.template session ∧
      ((∃ response, resultOf (act answer (Session.commit number edit) >>= next) service =
          (.error response, { service with session := session })) ∨
        ∃ value, edit.outcome = .ok value ∧
          resultOf (act answer (Session.commit number edit) >>= next) service =
            resultOf (next value) { service with session := session }) := by
  obtain ⟨sameIndex, present, answered⟩ :=
    before.indexed.commit_in_place before.present carries (carries.id_eq notManifest)
  refine ⟨(Session.resultOf (Session.commit number edit) service.session).2,
    ⟨before.indexed.committed before.present carries, ?_, present⟩, ?_⟩
  · rw [Session.number?, sameIndex]
    exact before.held
  · rw [resultOf_bind, resultOf_act]
    cases outcome : (Session.resultOf (Session.commit number edit) service.session).1 with
    | error fault => exact Or.inl ⟨_, rfl⟩
    | ok value => exact Or.inr ⟨value, answered value outcome, rfl⟩

/-- The same for an edit of the template that is held under an id, which may be missing. -/
theorem resultOf_edit_bind
    {change : Template -> Edit α}
    {request : Template.Call}
    (indexed : service.session.Indexed)
    (id : String)
    (carries : ∀ template, (change template).Carries template request)
    (notManifest : ∀ updates, request ≠ .updateManifest updates)
    (next : α × Nat -> Handler β) :
    (∃ response session, session.Indexed ∧
        resultOf (attempt (Session.edit id change) >>= next) service =
          (.error response, { service with session := session })) ∨
      ∃ number template value session, Edited id number (change template).template session ∧
        (change template).outcome = .ok value ∧
        resultOf (attempt (Session.edit id change) >>= next) service =
          resultOf (next (value, number)) { service with session := session } := by
  rw [resultOf_bind, attempt, resultOf_act]
  rcases Session.resultOf_edit id change service.session with
    ⟨fault, missing⟩ | ⟨number, template, held, present, committed⟩
  · rw [missing]
    exact Or.inl ⟨_, service.session, indexed, rfl⟩
  · rw [committed]
    obtain ⟨sameIndex, presentAfter, answered⟩ := indexed.commit_in_place present
      (carries template) ((carries template).id_eq notManifest)
    have indexedAfter := indexed.committed present (carries template)
    cases outcome : (Session.resultOf (Session.commit number (change template))
      service.session).1 with
    | error fault => exact Or.inl ⟨_, _, indexedAfter, rfl⟩
    | ok value =>
      refine Or.inr ⟨number, template, value, _, ⟨indexedAfter, ?_, presentAfter⟩,
        answered value outcome, rfl⟩
      rw [Session.number?, sameIndex]
      exact held

theorem resultOf_templateNumbered_bind
    (number : Nat)
    (next : Option Template -> Handler β)
    (service : Service) :
    resultOf (templateNumbered number >>= next) service =
      resultOf (next (service.session.template? number)) service := rfl

theorem resultOf_syncPreview_bind
    (service : Service)
    {template : Template}
    (edited : Edited id number template service.session)
    (next : Unit -> Handler β) :
    resultOf (syncPreview number >>= next) service =
      resultOf (next ()) { service with stage := synced service.stage template } := by
  have sync : resultOf (syncPreview number) service =
      (.ok (), { service with stage := synced service.stage template }) := by
    simp only [syncPreview, templateNumbered, resultOf_bind, resultOf_get, resultOf_pure,
      edited.present, resultOf_onStage]
    rfl
  rw [resultOf_bind, sync]

/-- Show the element under an id after the preview has taken over what its template is made of. -/
def showElement (number : Nat) (target : String) : Handler Response := do
  syncPreview number
  match (<- templateNumbered number).bind fun template => template.element? target with
  | some changed => pure (.content 200 changed.toJson)
  | none => throw (.broken .noMembers)

theorem resultOf_showElement
    (service : Service)
    {template : Template}
    {session : Session}
    (edited : Edited id number template session)
    {target : String}
    {shown : Element}
    (present : template.element? target = some shown) :
    resultOf (showElement number target) { service with session := session } =
      (.ok (.content 200 shown.toJson),
        { service with session := session, stage := synced service.stage template }) := by
  unfold showElement
  rw [resultOf_syncPreview_bind _ edited]
  simp only [templateNumbered, resultOf_bind, resultOf_get, resultOf_pure, edited.present,
    Option.bind_some, present]

/-- A route that ends by giving the edited content to the preview has tended to it. -/
theorem tended_of_sync
    {route : Route}
    {before : Service}
    {template : Template}
    {result : Except Response Response × Service}
    (tends : ∀ other, route.tends other = (id == other))
    {session : Session}
    (sound : before.stage.Sound)
    (edited : Edited id number template session)
    (response : Response)
    (done : result = (.ok response,
      { before with session := session, stage := synced before.stage template })) :
    Tended route before result := by
  rw [done]
  obtain ⟨found, again, sameId⟩ := edited.indexed.leads edited.held
  cases again.symm.trans edited.present
  exact tended_of_synced tends edited.indexed sound edited.held?_eq sameId rfl ⟨_, rfl⟩

/-- A refusal after work in the session leaves the stage alone. -/
theorem tended_of_refused
    {route : Route}
    {before : Service}
    {result : Except Response Response × Service}
    {response : Response}
    {session : Session}
    (sound : before.stage.Sound)
    (indexed : session.Indexed)
    (refused : result = (.error response, { before with session := session })) :
    Tended route before result := by
  rw [refused]
  exact tended_of_sameStage indexed sound rfl (Or.inr ⟨_, rfl⟩)

/-- The free members of a body that was read from a text have distinct names. -/
theorem distinct_of_checkBody
    {body : Option Json}
    {members : Table Json}
    (checked : checkBody (Check.mapping Check.anything) body = .accepted members)
    (wellFormed : ∀ value ∈ body, value.WellFormed) : Table.Distinct members := by
  cases body with
  | none => cases checked
  | some value =>
    obtain ⟨given, rfl, entries⟩ :=
      Check.exists_of_mapping ((Checked.under_accepted_iff _ _ _).1 checked)
    have distinct : Table.Distinct given := (wellFormed _ rfl).1
    rw [Table.Distinct, ← Checked.names_of_entries entries] at distinct
    exact distinct

variable (orderly : Orderly service)

include orderly

theorem addElement_tended
    (id : String)
    (body : Option Json) :
    Tended (.addElement id) service (resultOf (addElement id body) service) := by
  unfold addElement record
  rcases resultOf_accept_bind body _ _ service with ⟨response, refused⟩ | ⟨wanted, _, accepted⟩
  · exact tended_of_refused orderly.sound orderly.indexed refused
  rw [accepted]
  rcases resultOf_edit_bind orderly.indexed id
    (fun template => (template.addSpec_performs wanted.spec).carries) (fun _ same => nomatch same) _
    with ⟨response, session, indexed, refused⟩ | ⟨number, template, element, session, edited, _, done⟩
  · exact tended_of_refused orderly.sound indexed refused
  · rw [done]
    have sync := resultOf_syncPreview_bind { service with session := session } edited
      fun _ => pure (Response.content 201 element.toJson)
    exact tended_of_sync (fun _ => rfl) orderly.sound edited _ sync

theorem updateAnimation_tended
    (id : String)
    (body : Option Json) :
    Tended (.updateAnimation id) service (resultOf (updateAnimation id body) service) := by
  unfold updateAnimation freeMembers
  rcases resultOf_accept_bind body _ _ service with ⟨response, refused⟩ | ⟨updates, _, accepted⟩
  · exact tended_of_refused orderly.sound orderly.indexed refused
  rw [accepted]
  rcases resultOf_edit_bind orderly.indexed id
    (fun template => (template.updateAnimation_performs (.obj updates)).carries)
    (fun _ same => nomatch same) _
    with ⟨response, session, indexed, refused⟩ | ⟨number, template, settings, session, edited, _, done⟩
  · exact tended_of_refused orderly.sound indexed refused
  · rw [done]
    have sync := resultOf_syncPreview_bind { service with session := session } edited
      fun _ => pure (Response.content 200 settings.toJson)
    exact tended_of_sync (fun _ => rfl) orderly.sound edited _ sync

theorem removeElement_tended
    (id element : String) :
    Tended (.removeElement id element) service (resultOf (removeElement id element) service) := by
  unfold removeElement
  rcases resultOf_require_bind id _ service with
    ⟨response, refused⟩ | ⟨number, template, held, present, found⟩
  · exact tended_of_refused orderly.sound orderly.indexed refused
  rw [found]
  obtain ⟨session, edited, refused | ⟨known, _, done⟩⟩ := resultOf_commit_bind service
    ⟨orderly.indexed, held, present⟩ (template.removeElement_performs element).carries
    (fun _ same => nomatch same) Response.broken _
  · obtain ⟨response, refused⟩ := refused
    exact tended_of_refused orderly.sound edited.indexed refused
  · dsimp only
    rw [insist, done]
    cases known with
    | false => exact tended_of_refused orderly.sound edited.indexed rfl
    | true =>
      have sync := resultOf_syncPreview_bind { service with session := session } edited
        fun _ => pure (Response.content 200 (.obj [("deleted", .str element)]))
      exact tended_of_sync (fun _ => rfl) orderly.sound edited _ sync

theorem deleteTemplate_tended
    (id : String) :
    Tended (.deleteTemplate id) service (resultOf (deleteTemplate id) service) := by
  unfold deleteTemplate insist
  have indexed := Session.maintained_indexed.deleted id service.session orderly.indexed
  rw [resultOf_bind, resultOf_act]
  rcases deleted : Session.resultOf (Session.delete id) service.session with ⟨fault | known, session⟩
  · rw [deleted] at indexed
    exact tended_of_refused orderly.sound indexed rfl
  · rw [deleted] at indexed
    cases known with
    | false => exact tended_of_refused orderly.sound indexed rfl
    | true => exact tended_of_unmounted (fun _ => rfl) indexed orderly.sound rfl ⟨_, rfl⟩

/-- An edited element that is there is shown after the preview has been tended to. -/
theorem showElement_tended
    {route : Route}
    {template : Template}
    {session : Session}
    (tends : ∀ other, route.tends other = (id == other))
    (edited : Edited id number template session)
    {target : String}
    (isThere : (template.element? target).isSome = true) :
    Tended route service
      (resultOf (showElement number target) { service with session := session }) := by
  obtain ⟨changed, isChanged⟩ := Option.isSome_iff_exists.1 isThere
  exact tended_of_sync tends orderly.sound edited _ (resultOf_showElement service edited isChanged)

theorem updateElement_tended
    (id element : String)
    {body : Option Json}
    (wellFormed : ∀ value ∈ body, value.WellFormed) :
    Tended (.updateElement id element) service
      (resultOf (updateElement id element body) service) := by
  unfold updateElement freeMembers
  rcases resultOf_accept_bind body _ _ service with ⟨response, refused⟩ | ⟨members, checked, accepted⟩
  · exact tended_of_refused orderly.sound orderly.indexed refused
  rw [accepted]
  clear accepted
  dsimp only
  have distinct : Table.Distinct (Table.remove members "style") :=
    (distinct_of_checkBody checked wellFormed).remove "style"
  rcases resultOf_edit_bind orderly.indexed id
    (fun template => (template.updateElement_performs element _).carries)
    (fun _ same => nomatch same) _
    with ⟨response, session, indexed, refused⟩ | ⟨number, template, found, session, edited, answered,
      done⟩
  · exact tended_of_refused orderly.sound indexed refused
  rw [done]
  clear done
  cases found with
  | false => exact tended_of_refused orderly.sound edited.indexed rfl
  | true =>
    have isThere := Template.isSome_element?_updateElement distinct answered
    dsimp only [Bool.not_true, Bool.true_and]
    split
    · rw [resultOf_templateNumbered_bind]
      dsimp only
      rw [edited.present]
      obtain ⟨styled, again, refused | ⟨_, _, done⟩⟩ := resultOf_commit_bind
        { service with session := session } edited
        (Template.updateStyle_performs _ _ _).carries (fun _ same => nomatch same) Response.ofFault _
      · obtain ⟨response, refused⟩ := refused
        exact tended_of_refused orderly.sound again.indexed refused
      · dsimp only
        rw [attempt, done]
        refine showElement_tended orderly (fun _ => rfl) again ?_
        rw [Template.isSome_element?_iff, Template.map_id_updateStyle,
          ← Template.isSome_element?_iff]
        exact isThere
    · exact showElement_tended orderly (fun _ => rfl) edited isThere

end Editing

/-! ## Driving a preview -/

section Driving

variable {service : Service}

/-- What a command for the preview of a template leaves behind: the session as it was, and the stage
as one that the command started from but for the movements of graphics. -/
structure Driven (session : Session) (start : Stage) (service : Service) : Prop where
  session : service.session = session
  stage : Stage.Alike start service.stage

theorem alike_perform
    {id : String}
    {wanted : PreviewRequest}
    {command : PreviewCommand}
    {stage after : Stage}
    {completion : Completion}
    (done : perform id wanted command stage = .ok (after, completion)) : Stage.Alike stage after := by
  cases command with
  | load => exact Stage.alike_load done
  | play => exact Stage.alike_play done
  | stop => exact Stage.alike_stop done
  | update => exact Stage.alike_update (.obj wanted.data) done
  | custom =>
    rw [perform] at done
    split at done
    · split at done
      · cases done
      · exact Stage.alike_custom done
    · cases done
  | dispose => exact Stage.alike_dispose done
  | unmount => exact Stage.alike_dispose done

theorem driven_onStageOr
    {session : Session}
    {start : Stage}
    {change : Stage -> Except Fault (Stage × Completion)}
    (alike : ∀ {stage after completion},
      change stage = .ok (after, completion) -> Stage.Alike stage after) :
    Keeps (Driven session start) (onStageOr change) := by
  refine keeps_get_bind fun service driven => ?_
  split
  · rename_i after completion done
    exact ⟨driven.session, driven.stage.trans (alike done)⟩
  · exact driven

theorem keeps_showOutcome
    {Holds : Service -> Prop}
    (id : String)
    (completion : Completion) : Keeps Holds (showOutcome id completion) := by
  refine keeps_get_bind fun service holds => ?_
  dsimp only
  split
  · exact holds
  · exact holds

/-- Once there is a preview, a command for it only moves graphics. -/
theorem keeps_driveMounted
    {session : Session}
    {start : Stage}
    (id : String)
    (wanted : PreviewRequest)
    (command : PreviewCommand) :
    Keeps (Driven session start) (driveMounted id wanted command) := by
  refine keeps_bind (driven_onStageOr alike_perform) fun completion => ?_
  have answers : Keeps (Driven session start) (do
      if wanted.wait then onStage fun stage => (stage.waitFor completion, ())
      showOutcome id completion) := by
    dsimp only
    split
    · refine keeps_bind (fun service driven => ?_) fun _ => keeps_showOutcome id completion
      exact ⟨driven.session, driven.stage.trans (Stage.alike_waitFor _ _)⟩
    · exact keeps_showOutcome id completion
  cases completion with
  | failed fault => exact keeps_throw _
  | settled outcome => exact answers
  | waiting waiter => exact answers

variable (orderly : Orderly service)

include orderly

theorem drivePreview_tended
    (id command : String)
    (body : Option Json) :
    Tended (.previewCommand id command) service
      (resultOf (drivePreview id command body) service) := by
  unfold drivePreview
  rcases resultOf_accept_bind body _ _ service with ⟨response, refused⟩ | ⟨wanted, _, accepted⟩
  · exact tended_of_refused orderly.sound orderly.indexed refused
  rw [accepted]
  clear accepted
  obtain ⟨command, wanted⟩ := wanted
  dsimp only
  rcases resultOf_require_bind id _ service with
    ⟨response, refused⟩ | ⟨number, template, held, present, found⟩
  · exact tended_of_refused orderly.sound orderly.indexed refused
  rw [found]
  clear found
  dsimp only
  split
  · refine tended_of_driven orderly.indexed (fun _ => rfl) rfl (orderly.sound.unmount id) fun other => ?_
    have content := Stage.content?_unmount service.stage id other
    change (service.stage.unmount id).1.content? other = _ ∨
      (service.stage.unmount id).1.content? other = none ∨ _
    rw [content]
    split
    · exact Or.inr (Or.inl rfl)
    · exact Or.inl rfl
  · let start := if service.stage.isMounted id then service.stage else
      (service.stage.mount template).1
    have driven : Driven service.session start
        (resultOf (driveMounted id wanted command) { service with stage := start }).2 :=
      keeps_driveMounted id wanted command _ ⟨rfl, Stage.Alike.refl start⟩
    have sound : start.Sound := by
      unfold start
      split
      · exact orderly.sound
      · exact orderly.sound.mount template
    have content (other : String) : start.content? other = service.stage.content? other ∨
        start.content? other = service.session.content? other := by
      unfold start
      split
      · exact Or.inl rfl
      · obtain ⟨again, isThere, sameId⟩ := orderly.indexed.leads held
        cases isThere.symm.trans present
        rw [Stage.content?_mount orderly.sound, sameId]
        split
        · rename_i here
          right
          rw [Session.content?, Session.held?, ← here, held, Option.bind_some, present]
          rfl
        · exact Or.inl rfl
    refine tended_of_driven orderly.indexed (fun _ => rfl) driven.session
      (driven.stage.sound sound) fun other => ?_
    have same := driven.stage.content?_eq other
    exact (content other).imp same.trans fun shown => Or.inr (same.trans shown)

end Driving

/-! ## Requests one after another -/

section Requests

variable {service : Service}

/-- What is read from the body of a request is a value that a text can give. -/
theorem resultOf_readBody_bind
    {α : Type}
    (request : Request)
    (next : Option Json -> Handler α)
    (service : Service) :
    (∃ response, resultOf (readBody request >>= next) service = (.error response, service)) ∨
      ∃ body : Option Json, (∀ value ∈ body, value.WellFormed) ∧
        resultOf (readBody request >>= next) service = resultOf (next body) service := by
  unfold readBody
  split
  · exact Or.inr ⟨none, by simp, rfl⟩
  · rename_i received _
    cases given : (Text.ofJsonBytes? received).map Json.parse with
    | none => exact Or.inl ⟨_, rfl⟩
    | some read =>
      cases read with
      | error fault =>
        cases fault with
        | malformed offset => exact Or.inl ⟨_, rfl⟩
        | _ => exact Or.inl ⟨_, rfl⟩
      | ok value =>
        obtain ⟨text, _, read⟩ := Option.map_eq_some_iff.1 given
        refine Or.inr ⟨some value, ?_, rfl⟩
        rintro _ ⟨⟩
        exact (Json.meets_of_parse read).wellFormed

/-- Only an operator passes, and nothing changes. -/
theorem resultOf_authorize_bind
    {α : Type}
    (request : Request)
    (next : Unit -> Handler α)
    (service : Service) :
    (∃ response, resultOf (authorize request >>= next) service = (.error response, service)) ∨
      resultOf (authorize request >>= next) service = resultOf (next ()) service := by
  have same : (resultOf (authorize request) service).2 = service :=
    @keeps_authorize (· = service) request service rfl
  rw [resultOf_bind]
  rcases result : resultOf (authorize request) service with ⟨response | ⟨⟩, after⟩
  · rw [result] at same
    cases same
    exact Or.inl ⟨_, rfl⟩
  · rw [result] at same
    cases same
    exact Or.inr rfl

variable (orderly : Orderly service)

include orderly

/-- A route that leaves the stage alone does not have to tend to any preview. -/
theorem tended_of_backstage
    {route : Route}
    {handler : Handler Response}
    (idle : ∀ id, route.tends id = false)
    (kept : Keeps (Backstage service.stage) handler) :
    Tended route service (resultOf handler service) := by
  have after := kept service ⟨rfl, orderly.indexed⟩
  exact tended_of_sameStage after.indexed orderly.sound after.stage (Or.inl idle)

theorem handle_tended
    (request : Request)
    {body : Option Json}
    (wellFormed : ∀ value ∈ body, value.WellFormed)
    (route : Route) : Tended route service (resultOf (handle request body route) service) := by
  -- a route either tends to previews, or drives one, or leaves the stage alone
  have backstage := @tended_of_backstage service orderly
  cases route with
  | deleteTemplate id => exact deleteTemplate_tended orderly id
  | addElement id => exact addElement_tended orderly id body
  | updateElement id element => exact updateElement_tended orderly id element wellFormed
  | removeElement id element => exact removeElement_tended orderly id element
  | updateAnimation id => exact updateAnimation_tended orderly id body
  | previewCommand id command => exact drivePreview_tended orderly id command body
  | health => exact backstage (fun _ => rfl) (keeps_get_bind fun _ holds => holds)
  | templates => exact backstage (fun _ => rfl) (keeps_get_bind fun _ holds => holds)
  | newTemplate => exact backstage (fun _ => rfl) (keeps_createTemplate body)
  | template id => exact backstage (fun _ => rfl) (keeps_showTemplate id)
  | duplicate id => exact backstage (fun _ => rfl) (keeps_duplicateTemplate id body)
  | select id => exact backstage (fun _ => rfl) (keeps_selectTemplate id)
  | addProperty id => exact backstage (fun _ => rfl) (keeps_addProperty id body)
  | removeProperty id name => exact backstage (fun _ => rfl) (keeps_removeProperty id name)
  | updateManifest id => exact backstage (fun _ => rfl) (keeps_updateManifest id body)
  | component id => exact backstage (fun _ => rfl) (keeps_sendComponent id)
  | exportOne id => exact backstage (fun _ => rfl) (keeps_exportTemplate request id)
  | exportFiles id => exact backstage (fun _ => rfl) (keeps_exportToDisk id)
  | exportMany => exact backstage (fun _ => rfl) (keeps_exportBundle request body)
  | importAny => exact backstage (fun _ => rfl) (keeps_importTemplates body)
  | audit id => exact backstage (fun _ => rfl) (keeps_auditTemplate id)
  | preview id => exact backstage (fun _ => rfl) (keeps_showPreview id)

theorem follow_tended
    (request : Request)
    (route : Route) : Tended route service (resultOf (follow request route) service) := by
  have refused {response : Response} :
      Tended route service (.error response, service) :=
    tended_of_refused orderly.sound orderly.indexed rfl
  have guarded (body : Option Json) (wellFormed : ∀ value ∈ body, value.WellFormed) :
      Tended route service (resultOf (do
        if route.isGuarded then authorize request
        handle request body route) service) := by
    dsimp only
    split
    · rcases resultOf_authorize_bind request (fun _ => handle request body route) service with
        ⟨response, stopped⟩ | passed
      · rw [stopped]
        exact refused
      · rw [passed]
        exact handle_tended orderly request wellFormed route
    · exact handle_tended orderly request wellFormed route
  unfold follow
  dsimp only
  split
  · rcases resultOf_readBody_bind request _ service with ⟨response, stopped⟩ | ⟨body, wellFormed, read⟩
    · rw [stopped]
      exact refused
    · rw [read]
      exact guarded body wellFormed
  · exact guarded none (by simp)

omit orderly in
/-- A request is led to no route and changes nothing, or its route is followed. -/
theorem answer_cases
    (request : Request) :
    (Table.get? (routesAt request.path) request.method = none ∧
        (service.answer request).1 = service) ∨
      ∃ route, Table.get? (routesAt request.path) request.method = some route ∧
        (service.answer request).1 = (resultOf (follow request route) service).2 := by
  unfold answer
  dsimp only
  cases routes : routesAt request.path with
  | nil => exact Or.inl ⟨rfl, rfl⟩
  | cons first rest =>
    cases found : Table.get? (first :: rest) request.method with
    | none => exact Or.inl ⟨rfl, by simp⟩
    | some route => exact Or.inr ⟨route, rfl, by simp; rfl⟩

theorem Orderly.answer
    (request : Request) : Orderly (service.answer request).1 := by
  rcases answer_cases request with ⟨_, same⟩ | ⟨route, _, followed⟩
  · rw [same]
    exact orderly
  · rw [followed]
    exact (follow_tended orderly request route).orderly

/-- Previews that are in step stay so exactly if the request keeps pace. -/
theorem inStep_answer_iff
    (inStep : InStep service)
    (request : Request) : InStep (service.answer request).1 ↔ KeepsPace service request := by
  have follows := orderly.inStep_iff.1 inStep
  rw [(orderly.answer request).inStep_iff]
  rcases answer_cases request with ⟨lost, same⟩ | ⟨route, led, followed⟩
  · rw [KeepsPace, same]
    exact iff_of_true follows fun _ _ => Or.inl rfl
  have tended := follow_tended orderly request route
  rw [KeepsPace, followed]
  constructor
  · intro after id mounted
    rcases tended.untended id mounted with ⟨tends, response, done⟩ | kept | kept
    · exact Or.inr ⟨route, response, led, tends, done⟩
    · -- the preview is as it was, and fits the template now as it did before
      obtain ⟨content, found⟩ := (orderly.sound.isMounted_iff id).1 mounted
      left
      rw [follows id content found, after id content (kept.trans found)]
    · exact Or.inl kept
  · intro pace id content found
    have atEnd : (resultOf (follow request route) service).2.stage.content? id = none ∨
        (resultOf (follow request route) service).2.stage.content? id =
          (resultOf (follow request route) service).2.session.content? id ->
        (resultOf (follow request route) service).2.session.content? id = some content := by
      rintro (gone | shown)
      · rw [gone] at found
        cases found
      · exact shown ▸ found
    rcases tended.previews id with kept | atEnds
    · rw [kept] at found
      rcases pace id ((orderly.sound.isMounted_iff id).2 ⟨content, found⟩) with
        unchanged | ⟨again, response, isRoute, tends, done⟩
      · rw [unchanged]
        exact follows id content found
      · cases led.symm.trans isRoute
        exact atEnd (tended.tended id tends ⟨response, done⟩)
    · exact atEnd atEnds

omit orderly in
theorem answerAll_append
    (seen : List Request)
    (request : Request)
    (service : Service) :
    answerAll (seen ++ [request]) service = ((answerAll seen service).answer request).1 := by
  simp [answerAll]

theorem Orderly.answerAll
    (requests : List Request) : Orderly (answerAll requests service) := by
  induction requests generalizing service with
  | nil => exact orderly
  | cons request rest ih => exact ih (orderly.answer request)

/-- Previews that are in step stay so throughout some requests exactly if every one of them keeps
pace. -/
theorem inStep_answerAll_iff
    (inStep : InStep service)
    (requests : List Request) :
    (∀ seen, seen <+: requests -> InStep (Service.answerAll seen service)) ↔
      ∀ seen request, seen ++ [request] <+: requests ->
        KeepsPace (Service.answerAll seen service) request := by
  have step (seen : List Request) (request : Request)
      (before : InStep (Service.answerAll seen service)) :
      InStep (Service.answerAll (seen ++ [request]) service) ↔
        KeepsPace (Service.answerAll seen service) request := by
    rw [answerAll_append]
    exact inStep_answer_iff (orderly.answerAll seen) before request
  constructor
  · intro always seen request met
    exact (step seen request (always seen ((List.prefix_append _ _).trans met))).1 (always _ met)
  · intro paced seen
    induction seen using List.reverseRecOn with
    | nil => exact fun _ => inStep
    | append_singleton seen request ih =>
      intro met
      exact (step seen request (ih ((List.prefix_append _ _).trans met))).2 (paced seen request met)

end Requests

/-- The service before its first request. -/
def started (config : StudioConfig) (store : Store) (operator : OperatorConfig)
    (environment : Table String) (disk : FileTree) (today : String) : Service :=
  { session := (Session.opened config store).2, config := operator, environment, disk, today }

theorem orderly_started
    (config : StudioConfig)
    (store : Store)
    (operator : OperatorConfig)
    (environment : Table String)
    (disk : FileTree)
    (today : String) : Orderly (started config store operator environment disk today) :=
  ⟨Session.Reached.indexed ⟨config, store, [], rfl⟩, Stage.sound_empty⟩

theorem inStep_started
    (config : StudioConfig)
    (store : Store)
    (operator : OperatorConfig)
    (environment : Table String)
    (disk : FileTree)
    (today : String) : InStep (started config store operator environment disk today) :=
  fun _ mounted => nomatch mounted

/-- Throughout the requests to a service, every preview is of a template that is held and shows its
current elements and settings, as long as a request changes what a template with a preview is made of
only by a route that tends to the preview and without being refused.  The first request that does so
otherwise, such as one that gives the template another id, leaves a preview behind that is out of
step. -/
theorem previews_follow_session_iff
    (config : StudioConfig)
    (store : Store)
    (operator : OperatorConfig)
    (environment : Table String)
    (disk : FileTree)
    (today : String)
    (requests : List Request) :
    let start := started config store operator environment disk today
    (∀ seen, seen <+: requests -> InStep (answerAll seen start)) ↔
      ∀ seen request, seen ++ [request] <+: requests ->
        KeepsPace (answerAll seen start) request :=
  inStep_answerAll_iff (orderly_started config store operator environment disk today)
    (inStep_started config store operator environment disk today) requests

end Service
end BroadcastGraphics
