import BroadcastGraphics.Proofs.EditEffect
import BroadcastGraphics.Proofs.ElementSteps
import BroadcastGraphics.Proofs.OperatorAccess

/-!
# Requests that edit an element

A request that edits an element is carried out in two steps, the fields and then the style, and each
step is saved on its own.  What the first step did is not taken back when something fails after it, so
such a request is all or nothing only as long as nothing fails once the template has changed.
-/

namespace BroadcastGraphics

namespace Session

variable {α : Type} {session : Session} {number : Nat} {template : Template} {id : String}

/-- The store after an edit was committed, and whether it was saved if it had to be. -/
def keptIn (store : Store) (edit : Edit α) : Store × Except Fault Unit :=
  if edit.announced then savedIn store edit.template else (store, .ok ())

/-- The answer to an edit that was committed: that of the edit, if it did not fail to be saved. -/
def answerIn (store : Store) (edit : Edit α) : Except Fault α :=
  edit.outcome.bind fun answer => (keptIn store edit).2.map fun _ => answer

/-- The session after an edit of the template with a number was committed. -/
def editedBy (session : Session) (number : Nat) (edit : Edit α) : Session :=
  { session.withTemplate number edit.template with store := (keptIn session.store edit).1 }

theorem withTemplate_self
    (present : session.template? number = some template) :
    session.withTemplate number template = session := by
  obtain ⟨inRange, rfl⟩ := List.getElem?_eq_some_iff.1 present
  unfold withTemplate
  rw [List.set_getElem_self]

theorem mem_templates_of_held?
    (held : session.held? id = some template) : template ∈ session.templates := by
  obtain ⟨number, _, present⟩ := Option.bind_eq_some_iff.1 held
  exact List.mem_of_getElem? present

/-- An edit of a template that is held and keeps its id is saved if it is announced, and that may
fail. -/
theorem Indexed.resultOf_commit_of_sameId
    (indexed : Indexed session)
    (held : session.number? id = some number)
    (present : session.template? number = some template)
    {edit : Edit α}
    {request : Template.Call}
    (carries : edit.Carries template request)
    (sameId : edit.template.id = template.id) :
    resultOf (commit number edit) session =
      (answerIn session.store edit, session.editedBy number edit) := by
  have presentAfter := template?_withTemplate_self present edit.template
  unfold answerIn editedBy keptIn
  rcases carries with ⟨quiet, _⟩ | ⟨announced, ⟨answer, answered⟩, _⟩
  · rw [resultOf_commit_of_quiet quiet, quiet]
    cases edit.outcome <;> rfl
  · have key : (session.withTemplate number edit.template).keyOf? number = some id :=
      (indexed.keyOf?_eq_some_iff number id).2 held
    have isId : id = edit.template.id :=
      (sameId.trans (indexed.id_of_keyOf? key present)).symm
    rw [resultOf_commit_of_announced announced answered,
      resultOf_follow_of_same (isId ▸ key) presentAfter, resultOf_save_eq_savedIn presentAfter,
      announced, answered]
    rfl

end Session

namespace Service

open Template (editFields editStyle targetOf Takes Replaces)

/-! ## How far an edit comes -/

/-- How an edit of an element of a held template ends: with an answer or a refusal, the template that
is left, and the store. -/
inductive Ends (store : Store) (template : Template) (element : String) (members : Table Json) :
    Except Response Response -> Template -> Store -> Prop where
  | refused {fault : Fault}
      (fields : (template.editFields element members).outcome = .error fault) :
      Ends store template element members (.error (.ofFault fault)) template store
  | missing
      (fields : (template.editFields element members).outcome = .ok false) :
      Ends store template element members (.error (.noElement element)) template store
  | unsaved {fault : Fault}
      (fields : (template.editFields element members).outcome = .ok true)
      (failed : (Session.keptIn store (template.editFields element members)).2 = .error fault) :
      Ends store template element members (.error (.ofFault fault))
        (template.editFields element members).template
        (Session.keptIn store (template.editFields element members)).1
  | unstyled {fault : Fault}
      (fields : (template.editFields element members).outcome = .ok true)
      (saved : (Session.keptIn store (template.editFields element members)).2 = .ok ())
      (style : (template.editStyle element members).outcome = .error fault) :
      Ends store template element members (.error (.ofFault fault))
        (template.editFields element members).template
        (Session.keptIn store (template.editFields element members)).1
  | unsavedStyle {answer : Bool} {fault : Fault}
      (fields : (template.editFields element members).outcome = .ok true)
      (saved : (Session.keptIn store (template.editFields element members)).2 = .ok ())
      (style : (template.editStyle element members).outcome = .ok answer)
      (failed : (Session.keptIn (Session.keptIn store (template.editFields element members)).1
        (template.editStyle element members)).2 = .error fault) :
      Ends store template element members (.error (.ofFault fault))
        (template.editStyle element members).template
        (Session.keptIn (Session.keptIn store (template.editFields element members)).1
          (template.editStyle element members)).1
  | done {answer : Bool} {stored : Element}
      (fields : (template.editFields element members).outcome = .ok true)
      (saved : (Session.keptIn store (template.editFields element members)).2 = .ok ())
      (style : (template.editStyle element members).outcome = .ok answer)
      (savedStyle : (Session.keptIn (Session.keptIn store (template.editFields element members)).1
        (template.editStyle element members)).2 = .ok ())
      (present : (template.editStyle element members).template.element? (targetOf element members) =
        some stored) :
      Ends store template element members (.ok (.content 200 stored.toJson))
        (template.editStyle element members).template
        (Session.keptIn (Session.keptIn store (template.editFields element members)).1
          (template.editStyle element members)).1

variable {service : Service} {request : Request} {id element : String} {members : Table Json}

theorem checkBody_mapping
    (members : Table Json) :
    checkBody (Check.mapping Check.anything) (some (.obj members)) = .accepted members := by
  have kept : Table.mapEntries (fun value => value) members = members := List.map_id members
  have accepted : Check.mapping Check.anything (.obj members) = .accepted members := by
    have each : Checked.entries Check.anything (Table.mapEntries (fun value => value) members) =
        .accepted (Table.mapEntries (fun value => value) members) :=
      Checked.entries_mapEntries fun _ _ => rfl
    rw [kept] at each
    exact each
  exact (Checked.under_accepted_iff _ _ _).2 accepted

theorem le_status_ofFault (fault : Fault) : 400 ≤ (Response.ofFault fault).status := by
  unfold Response.ofFault
  split <;> first | exact Nat.le_of_ble_eq_true rfl | split <;> exact Nat.le_of_ble_eq_true rfl

/-- What is done for an edit of an element once its fields have been written. -/
def finishElement (number : Nat) (element : String) (members : Table Json) (found : Bool) :
    Handler Response := do
  let style := Json.memberOrNull members "style"
  let target := targetOf element members
  if found && !style.isNull then
    if let some template := <- templateNumbered number then
      let _ <- attempt (Session.commit number (template.updateStyle target style))
  if !found then throw (.noElement element)
  showElement number target

theorem resultOf_updateElement_eq
    (members : Table Json)
    (service : Service) :
    resultOf (updateElement id element (some (.obj members))) service =
      resultOf (attempt (Session.edit id fun template => template.editFields element members) >>=
        fun (found, number) => finishElement number element members found) service := by
  unfold updateElement freeMembers
  rw [checkBody_mapping]
  rfl

/-- A committed edit that leaves the id alone. -/
theorem Edited.editedBy
    {number : Nat}
    {template : Template}
    {session : Session}
    (edited : Edited id number template session)
    {α : Type}
    {edit : Edit α}
    {request : Template.Call}
    (carries : edit.Carries template request)
    (notManifest : ∀ updates, request ≠ .updateManifest updates) :
    Edited id number edit.template (session.editedBy number edit) ∧
      Session.resultOf (Session.commit number edit) session =
        (Session.answerIn session.store edit, session.editedBy number edit) := by
  have committed := edited.indexed.resultOf_commit_of_sameId edited.held edited.present carries
    (carries.id_eq notManifest)
  have indexed := edited.indexed.committed edited.present carries
  rw [committed] at indexed
  exact ⟨⟨indexed, edited.held, Session.template?_withTemplate_self edited.present edit.template⟩,
    committed⟩

/-- The style is committed, unless it is refused or cannot be saved, and then the element is shown. -/
theorem resultOf_finishElement
    (service : Service)
    {number : Nat}
    {session : Session}
    {template : Template}
    (edited : Edited id number (template.editFields element members).template session) :
    let edit := template.editStyle element members
    let after : Service := { service with session := session.editedBy number edit }
    Edited id number edit.template after.session ∧
      resultOf (finishElement number element members true) { service with session := session } =
        match Session.answerIn session.store edit with
        | .error fault => (.error (.ofFault fault), after)
        | .ok _ => resultOf (showElement number (targetOf element members)) after := by
  intro edit after
  have isEdit : edit = template.editStyle element members := rfl
  cases nothing : (Json.memberOrNull members "style").isNull with
  | true =>
    rw [Template.editStyle_of_open nothing] at isEdit
    have isSession : session.editedBy number edit = session := by
      rw [isEdit]
      exact congrArg (fun other : Session => { other with store := session.store })
        (Session.withTemplate_self edited.present)
    have answered : Session.answerIn session.store edit = .ok true := by rw [isEdit]; rfl
    have unchanged : after = { service with session := session } := by rw [← isSession]
    rw [answered, unchanged, isEdit]
    unfold finishElement
    simp only [nothing, Bool.not_true, Bool.and_false, Bool.false_eq_true, if_false]
    exact ⟨edited, trivial⟩
  | false =>
    rw [Template.editStyle_of_given nothing] at isEdit
    obtain ⟨editedAfter, committed⟩ := edited.editedBy (Template.updateStyle_performs _
      (targetOf element members) (Json.memberOrNull members "style")).carries
      fun _ same => nomatch same
    rw [← isEdit] at editedAfter committed
    refine ⟨editedAfter, ?_⟩
    unfold finishElement
    simp only [nothing, Bool.not_false, Bool.and_true, if_true, Bool.not_true, Bool.false_eq_true,
      if_false]
    rw [resultOf_templateNumbered_bind]
    dsimp only
    rw [edited.present]
    dsimp only
    rw [resultOf_bind, attempt, resultOf_act, ← isEdit, committed]
    cases Session.answerIn session.store edit <;> rfl

/-- What an answer to an edit that was committed tells about the edit and about saving it. -/
theorem answerIn_eq_error_iff
    {α : Type}
    {store : Store}
    {edit : Edit α}
    {fault : Fault} :
    Session.answerIn store edit = .error fault ↔ edit.outcome = .error fault ∨
      ∃ answer, edit.outcome = .ok answer ∧ (Session.keptIn store edit).2 = .error fault := by
  unfold Session.answerIn
  cases edit.outcome with
  | error other => simp [Except.bind]
  | ok answer => cases (Session.keptIn store edit).2 <;> simp [Except.bind, Except.map]

theorem answerIn_eq_ok_iff
    {α : Type}
    {store : Store}
    {edit : Edit α}
    {answer : α} :
    Session.answerIn store edit = .ok answer ↔
      edit.outcome = .ok answer ∧ (Session.keptIn store edit).2 = .ok () := by
  unfold Session.answerIn
  cases edit.outcome with
  | error other => simp [Except.bind]
  | ok answer => cases (Session.keptIn store edit).2 <;> simp [Except.bind, Except.map]

/-- Once the fields have been written and saved, the edit ends in one of the ways that are left. -/
theorem finishElement_ends
    {standard : Json.Standard}
    (meets : Json.Meets standard (.obj members))
    {number : Nat}
    {store : Store}
    {template : Template}
    {session : Session}
    (styles : ∀ element ∈ template.elements, Table.Distinct element.style)
    (fields : (template.editFields element members).outcome = .ok true)
    (saved : (Session.keptIn store (template.editFields element members)).2 = .ok ())
    (isStore : session.store = (Session.keptIn store (template.editFields element members)).1)
    (edited : Edited id number (template.editFields element members).template session) :
    ∃ left outcome after,
      resultOf (finishElement number element members true) { service with session := session } =
        (outcome, after) ∧
      after.session.held? id = some left ∧
      Ends store template element members outcome left after.session.store := by
  obtain ⟨editedAfter, finished⟩ := resultOf_finishElement service edited
  rw [finished]
  cases answered : Session.answerIn session.store (template.editStyle element members) with
  | error fault =>
    refine ⟨_, _, _, rfl, editedAfter.held?_eq, ?_⟩
    change Ends _ _ _ _ _ _ (Session.keptIn session.store (template.editStyle element members)).1
    rw [isStore] at answered ⊢
    rcases answerIn_eq_error_iff.1 answered with style | ⟨answer, style, failed⟩
    · obtain ⟨quiet, same⟩ | ⟨_, done⟩ := template.editStyle_quiet_or_done element members
      · rw [same, Session.keptIn, quiet]
        exact .unstyled fields saved style
      · exact nomatch done.symm.trans style
    · exact .unsavedStyle fields saved style failed
  | ok answer =>
    obtain ⟨style, savedStyle⟩ := answerIn_eq_ok_iff.1 answered
    obtain ⟨current, stored, _, newId, replaces, _⟩ :=
      Template.editStyle_stores meets styles fields style
    have present := replaces.element?_after
    rw [newId] at present
    dsimp only
    rw [resultOf_showElement service editedAfter present]
    refine ⟨_, _, _, rfl, editedAfter.held?_eq, ?_⟩
    change Ends _ _ _ _ _ _ (Session.keptIn session.store (template.editStyle element members)).1
    rw [isStore] at savedStyle ⊢
    exact .done fields saved style savedStyle present

/-- An edit of an element of a template that is held ends in one of the ways that there are. -/
theorem updateElement_ends
    (element : String)
    {standard : Json.Standard}
    (indexed : service.session.Indexed)
    (meets : Json.Meets standard (.obj members))
    {template : Template}
    (styles : ∀ element ∈ template.elements, Table.Distinct element.style)
    (held : service.session.held? id = some template) :
    ∃ left outcome after,
      resultOf (updateElement id element (some (.obj members))) service = (outcome, after) ∧
      after.session.held? id = some left ∧
      Ends service.session.store template element members outcome left after.session.store := by
  obtain ⟨number, isHeld, present⟩ := Option.bind_eq_some_iff.1 held
  obtain ⟨editedAfter, committed⟩ := Edited.editedBy ⟨indexed, isHeld, present⟩
    (template.editFields_carries element members) (by simp)
  have edit : Session.resultOf (Session.edit id fun template => template.editFields element members)
      service.session =
        ((Session.answerIn service.session.store (template.editFields element members)).map
          fun answer => (answer, number),
          service.session.editedBy number (template.editFields element members)) := by
    simp only [Session.edit, Session.require, Session.resultOf_bind, Session.resultOf_get, isHeld,
      present, Session.resultOf_pure, committed]
    cases Session.answerIn service.session.store (template.editFields element members) <;> rfl
  have steps := template.editFields_quiet_or_done element members
  rw [resultOf_updateElement_eq, resultOf_bind, attempt, resultOf_act, edit]
  cases answered : Session.answerIn service.session.store (template.editFields element members) with
  | error fault =>
    refine ⟨_, _, _, rfl, editedAfter.held?_eq, ?_⟩
    change Ends _ _ _ _ _ (template.editFields element members).template
      (Session.keptIn service.session.store (template.editFields element members)).1
    rcases answerIn_eq_error_iff.1 answered with fields | ⟨answer, fields, failed⟩
    · obtain ⟨quiet, same⟩ | ⟨_, done⟩ := steps
      · rw [same, Session.keptIn, quiet]
        exact .refused fields
      · cases done.symm.trans fields
    · obtain ⟨quiet, _⟩ | ⟨_, done⟩ := steps
      · rw [Session.keptIn, quiet] at failed
        cases failed
      · exact .unsaved done failed
  | ok found =>
    obtain ⟨fields, saved⟩ := answerIn_eq_ok_iff.1 answered
    cases found with
    | false =>
      obtain ⟨quiet, same⟩ | ⟨_, done⟩ := steps
      · refine ⟨_, _, _, rfl, editedAfter.held?_eq, ?_⟩
        change Ends _ _ _ _ _ (template.editFields element members).template
          (Session.keptIn service.session.store (template.editFields element members)).1
        rw [same, Session.keptIn, quiet]
        exact .missing fields
      · cases done.symm.trans fields
    | true => exact finishElement_ends meets styles fields saved rfl editedAfter

/-- An edit of an element of a template that is not held is refused. -/
theorem updateElement_of_not_held
    (element : String)
    (members : Table Json)
    (missing : service.session.held? id = none) :
    ∃ response, 400 ≤ response.status ∧
      resultOf (updateElement id element (some (.obj members))) service =
        (.error response, service) := by
  rw [resultOf_updateElement_eq, resultOf_bind, attempt, resultOf_act]
  rcases Session.resultOf_edit id (fun template => template.editFields element members)
    service.session with ⟨fault, refused⟩ | ⟨number, template, isHeld, present, _⟩
  · rw [refused]
    exact ⟨_, le_status_ofFault fault, rfl⟩
  · have held : service.session.held? id = some template := by
      rw [Session.held?, isHeld]
      exact present
    cases missing.symm.trans held

/-! ## Whole edits and torn ones -/

/-- An edit of an element with some members is carried out as a whole and answered with the element.
The element comes under the id that is asked for, or else under its own, with what is asked for, in
the place of the one that was there, and all other elements stay. -/
def CarriedOut (element : String) (members : Table Json) (before after : Template)
    (response : Response) : Prop :=
  ∃ current stored : Element, current.id = element ∧ stored.id = targetOf element members ∧
    Replaces current stored before after ∧ Takes members current stored ∧
    response = .content 200 stored.toJson

/-- An edit of an element changes its template and fails afterwards: because the style is neither left
open nor an object, because the template cannot be saved after one of the steps, or because the
element that was stored cannot be sent. -/
inductive Torn (store : Store) (template : Template) (element : String) (members : Table Json) :
    Prop where
  | shapeless
      (changed : (template.editFields element members).announced = true)
      (given : (Json.memberOrNull members "style").isNull = false)
      (shapeless : ∀ properties, Json.memberOrNull members "style" ≠ .obj properties)
  | unsaved {fault : Fault}
      (changed : (template.editFields element members).announced = true)
      (failed : (Session.savedIn store (template.editFields element members).template).2 =
        .error fault)
  | unsavedStyle {fault : Fault}
      (fields : (template.editFields element members).outcome = .ok true)
      (changed : (template.editStyle element members).announced = true)
      (failed : (Session.savedIn (Session.keptIn store (template.editFields element members)).1
        (template.editStyle element members).template).2 = .error fault)
  | unsendable {stored : Element} {fault : Fault}
      (fields : (template.editFields element members).outcome = .ok true)
      (changed : (template.editFields element members).announced = true ∨
        (template.editStyle element members).announced = true)
      (present : (template.editStyle element members).template.element? (targetOf element members) =
        some stored)
      (unsendable : (Response.content 200 stored.toJson).unsendable? = some fault)

theorem status_sentFor_error
    {response : Response}
    (error : 400 ≤ response.status) : (sentFor (.error response)).status ≠ 200 := by
  have kept : 400 ≤ (sentFor (.error response)).status := Response.le_status_sendable error
  omega

theorem status_sentFor_content_iff
    (value : Json) :
    (sentFor (.ok (.content 200 value))).status = 200 ↔
      (Response.content 200 value).unsendable? = none := by
  unfold sentFor Response.sendable
  dsimp only
  cases (Response.content 200 value).unsendable? with
  | none => exact ⟨fun _ => rfl, fun _ => rfl⟩
  | some fault => exact ⟨fun same => (nomatch same), fun same => nomatch same⟩

theorem announced_of_not_kept
    {store : Store}
    {edit : Edit Bool}
    {fault : Fault}
    (failed : (Session.keptIn store edit).2 = .error fault) :
    edit.announced = true ∧ (Session.savedIn store edit.template).2 = .error fault := by
  unfold Session.keptIn at failed
  split at failed
  · exact ⟨‹_›, failed⟩
  · cases failed

section Ends

variable {standard : Json.Standard} {store after : Store} {template left : Template}
  {outcome : Except Response Response}

theorem Ends.carriedOut
    (ends : Ends store template element members outcome left after)
    (meets : Json.Meets standard (.obj members))
    (styles : ∀ element ∈ template.elements, Table.Distinct element.style)
    (sent : (sentFor outcome).status = 200) :
    CarriedOut element members template left (sentFor outcome) := by
  cases ends with
  | done fields saved style savedStyle present =>
    obtain ⟨current, stored, oldId, newId, replaces, takes, _⟩ :=
      Template.editStyle_stores meets styles fields style
    have found := replaces.element?_after
    rw [newId] at found
    obtain rfl := Option.some.inj (present.symm.trans found)
    refine ⟨current, _, oldId, newId, replaces, takes, ?_⟩
    have sendable := (status_sentFor_content_iff _).1 sent
    unfold sentFor Response.sendable
    dsimp only
    rw [sendable]
  | missing fields => exact absurd sent (status_sentFor_error (Nat.le_of_ble_eq_true rfl))
  | _ => exact absurd sent (status_sentFor_error (le_status_ofFault _))

/-- An edit that fails has changed nothing unless it is torn. -/
theorem Ends.untouched_or_torn
    (ends : Ends store template element members outcome left after)
    (distinct : Table.Distinct members)
    (failed : (sentFor outcome).status ≠ 200) :
    (left = template ∧ after = store) ∨ Torn store template element members := by
  cases ends with
  | refused fields => exact Or.inl ⟨rfl, rfl⟩
  | missing fields => exact Or.inl ⟨rfl, rfl⟩
  | unsaved fields unsaved =>
    obtain ⟨changed, unsaved⟩ := announced_of_not_kept unsaved
    exact Or.inr (.unsaved changed unsaved)
  | unstyled fields saved style =>
    obtain ⟨quiet, same⟩ | ⟨changed, _⟩ := template.editFields_quiet_or_done element members
    · rw [same, Session.keptIn, quiet]
      exact Or.inl ⟨rfl, rfl⟩
    · refine Or.inr (.shapeless changed ?_ fun properties given => ?_)
      · rw [Bool.eq_false_iff]
        intro nothing
        rw [Template.editStyle_of_open nothing] at style
        cases style
      · have done := Template.editStyle_of_properties distinct fields changed given
        exact nomatch done.symm.trans style
  | unsavedStyle fields saved style unsaved =>
    obtain ⟨changed, unsaved⟩ := announced_of_not_kept unsaved
    exact Or.inr (.unsavedStyle fields changed unsaved)
  | done fields saved style savedStyle present =>
    cases unsendable : (Response.content 200 _).unsendable? with
    | none => exact absurd ((status_sentFor_content_iff _).2 unsendable) failed
    | some fault =>
      obtain ⟨quiet, same⟩ | ⟨changed, _⟩ := template.editFields_quiet_or_done element members
      · obtain ⟨quietToo, sameToo⟩ | ⟨changed, _⟩ := template.editStyle_quiet_or_done element members
        · rw [sameToo, same, Session.keptIn, quietToo, Session.keptIn, quiet]
          exact Or.inl ⟨rfl, rfl⟩
        · exact Or.inr (.unsendable fields (Or.inr changed) present unsendable)
      · exact Or.inr (.unsendable fields (Or.inl changed) present unsendable)

theorem Torn.found
    (torn : Torn store template element members) :
    (template.editFields element members).outcome = .ok true := by
  have done (changed : (template.editFields element members).announced = true) :
      (template.editFields element members).outcome = .ok true := by
    obtain ⟨quiet, _⟩ | ⟨_, done⟩ := template.editFields_quiet_or_done element members
    · exact nomatch changed.symm.trans quiet
    · exact done
  cases torn with
  | shapeless changed _ _ => exact done changed
  | unsaved changed _ => exact done changed
  | unsavedStyle fields _ _ => exact fields
  | unsendable fields _ _ _ => exact fields

/-- A torn edit fails, and leaves a template behind that is written in another form. -/
theorem Ends.differs_of_torn
    (ends : Ends store template element members outcome left after)
    (torn : Torn store template element members)
    (meets : Json.Meets standard (.obj members))
    (styles : ∀ element ∈ template.elements, Table.Distinct element.style) :
    (sentFor outcome).status ≠ 200 ∧ left.toJson ≠ template.toJson := by
  have found := torn.found
  cases ends with
  | refused fields => exact nomatch found.symm.trans fields
  | missing fields => exact nomatch found.symm.trans fields
  | unsaved fields unsaved =>
    exact ⟨status_sentFor_error (le_status_ofFault _),
      Template.toJson_editFields_ne meets.distinct styles fields (announced_of_not_kept unsaved).1⟩
  | unstyled fields saved style =>
    have styleStays : (template.editStyle element members).announced ≠ true := by
      obtain ⟨quiet, _⟩ | ⟨_, done⟩ := template.editStyle_quiet_or_done element members
      · exact fun changed => nomatch changed.symm.trans quiet
      · exact nomatch done.symm.trans style
    have changed : (template.editFields element members).announced = true := by
      cases torn with
      | shapeless changed _ _ => exact changed
      | unsaved changed _ => exact changed
      | unsavedStyle _ changed _ => exact absurd changed styleStays
      | unsendable _ changed _ _ => exact changed.resolve_right styleStays
    exact ⟨status_sentFor_error (le_status_ofFault _),
      Template.toJson_editFields_ne meets.distinct styles fields changed⟩
  | unsavedStyle fields saved style unsaved =>
    obtain ⟨_, _, _, _, _, _, differs⟩ := Template.editStyle_stores meets styles fields style
    exact ⟨status_sentFor_error (le_status_ofFault _),
      differs (Or.inr (announced_of_not_kept unsaved).1)⟩
  | done fields saved style savedStyle present =>
    obtain ⟨_, _, _, _, _, _, differs⟩ := Template.editStyle_stores meets styles fields style
    cases torn with
    | shapeless changed given shapeless =>
      rw [Template.editStyle_of_shapeless meets.distinct fields given shapeless] at style
      cases style
    | unsaved changed failed =>
      rw [Session.keptIn, changed] at saved
      exact nomatch saved.symm.trans failed
    | unsavedStyle _ changed failed =>
      rw [Session.keptIn, changed] at savedStyle
      exact nomatch savedStyle.symm.trans failed
    | unsendable _ changed found unsendable =>
      cases found.symm.trans present
      refine ⟨fun sent => ?_, differs changed⟩
      exact nomatch unsendable.symm.trans ((status_sentFor_content_iff _).1 sent)

end Ends

/-! ## Requests -/

/-- The request is let pass, and its body is an object with some members. -/
structure Brings (service : Service) (request : Request) (members : Table Json) : Prop where
  read : resultOf (readBody request) service = (.ok (some (.obj members)), service)
  passes : resultOf (authorize request) service = (.ok (), service)

/-- What is read from a body is a value that a text can give. -/
theorem meets_of_readBody
    {value : Json}
    (read : resultOf (readBody request) service = (.ok (some value), service)) :
    value.Meets (.carried false .standard) := by
  unfold readBody at read
  split at read
  · cases read
  · rename_i received _
    split at read
    · rename_i other parsed
      cases read
      obtain ⟨text, _, parsed⟩ := Option.map_eq_some_iff.1 parsed
      exact Json.meets_of_parse parsed
    · cases read
    · cases read

theorem resultOf_readBody_of_parse
    {text : String}
    {value : Json}
    (filled : request.filledBody? = some text)
    (parsed : (Text.ofJsonBytes? text).map Json.parse = some (.ok value)) :
    resultOf (readBody request) service = (.ok (some value), service) := by
  unfold readBody
  rw [filled]
  dsimp only
  rw [parsed]
  rfl

theorem resultOf_authorize_of_token
    {token : String}
    (given : request.token? = some token)
    (expected : service.config.adminToken service.environment = .ok (.str token)) :
    resultOf (authorize request) service = (.ok (), service) := by
  unfold authorize
  rw [given]
  dsimp only
  rw [resultOf_bind, resultOf_get]
  dsimp only
  rw [expected]
  dsimp only
  rw [if_pos rfl]
  rfl

theorem resultOf_authorize
    (request : Request)
    (service : Service) :
    (∃ response, 400 ≤ response.status ∧
        resultOf (authorize request) service = (.error response, service)) ∨
      resultOf (authorize request) service = (.ok (), service) := by
  by_cases foreign : service.Foreign request
  · exact Or.inl foreign.resultOf_authorize
  · obtain ⟨token, foreign⟩ := not_forall.1 foreign
    obtain ⟨given, foreign⟩ := Classical.not_imp.1 foreign
    exact Or.inr (resultOf_authorize_of_token given (not_not.1 foreign))

theorem le_status_issuesResponse
    (body : Option Json)
    (issues : List Issue) : 400 ≤ (issuesResponse body issues).status := by
  unfold issuesResponse
  dsimp only
  split
  · exact Nat.le_of_ble_eq_true rfl
  · split <;> exact Nat.le_of_ble_eq_true rfl

/-- A body that is no object is refused. -/
theorem updateElement_refused
    (element : String)
    {body : Option Json}
    (shapeless : ∀ members, body ≠ some (.obj members)) :
    ∃ response, 400 ≤ response.status ∧
      resultOf (updateElement id element body) service = (.error response, service) := by
  unfold updateElement freeMembers
  cases checked : checkBody (Check.mapping Check.anything) body with
  | refused issues => exact ⟨_, le_status_issuesResponse body issues, rfl⟩
  | accepted members =>
    cases body with
    | none => cases checked
    | some value =>
      obtain ⟨given, rfl, _⟩ :=
        Check.exists_of_mapping ((Checked.under_accepted_iff _ _ _).1 checked)
      exact absurd rfl (shapeless given)

theorem follow_updateElement_of_brings
    (id element : String)
    (brings : Brings service request members) :
    resultOf (follow request (.updateElement id element)) service =
      resultOf (updateElement id element (some (.obj members))) service := by
  have follows : follow request (.updateElement id element) = (do
      let body <- readBody request
      authorize request
      updateElement id element body) := rfl
  rw [follows, resultOf_bind, brings.read]
  dsimp only
  rw [resultOf_bind, brings.passes]

theorem follow_updateElement_refused
    (nothing : ¬∃ members, Brings service request members) :
    ∃ response, 400 ≤ response.status ∧
      resultOf (follow request (.updateElement id element)) service = (.error response, service) := by
  have follows : follow request (.updateElement id element) = (do
      let body <- readBody request
      authorize request
      updateElement id element body) := rfl
  rw [follows, resultOf_bind]
  rcases resultOf_readBody request service with ⟨response, error, unread⟩ | ⟨body, read⟩
  · rw [unread]
    exact ⟨response, error, rfl⟩
  · rw [read]
    dsimp only
    rw [resultOf_bind]
    rcases resultOf_authorize request service with ⟨response, error, stopped⟩ | passes
    · rw [stopped]
      exact ⟨response, error, rfl⟩
    · rw [passes]
      refine updateElement_refused element fun members isBody => nothing ⟨members, ?_, passes⟩
      rw [read, isBody]

theorem Brings.unique
    {other : Table Json}
    (brings : Brings service request members)
    (also : Brings service request other) : other = members := by
  have read := congrArg Prod.fst (also.read.symm.trans brings.read)
  exact Json.obj.inj (Option.some.inj (Except.ok.inj read))

/-- A request to edit an element is refused before the edit begins, or the edit of a held template
ends in one of the ways that there are. -/
theorem answer_updateElement
    (indexed : service.session.Indexed)
    (styles : ∀ template ∈ service.session.templates, ∀ element ∈ template.elements,
      Table.Distinct element.style)
    (led : Table.get? (routesAt request.path) request.method = some (.updateElement id element)) :
    ((service.answer request).2.status ≠ 200 ∧ (service.answer request).1 = service ∧
        ∀ members template, Brings service request members ->
          service.session.held? id ≠ some template) ∨
      ∃ members template left outcome, Brings service request members ∧
        service.session.held? id = some template ∧
        (service.answer request).1.session.held? id = some left ∧
        (service.answer request).2 = sentFor outcome ∧
        Ends service.session.store template element members outcome left
          (service.answer request).1.session.store := by
  rw [answer_of_led led]
  by_cases brought : ∃ members, Brings service request members
  · obtain ⟨members, brings⟩ := brought
    rw [follow_updateElement_of_brings id element brings]
    cases held : service.session.held? id with
    | none =>
      obtain ⟨sent, error, missing⟩ := updateElement_of_not_held element members held
      rw [missing]
      exact Or.inl ⟨status_sentFor_error error, rfl, fun _ _ _ same => nomatch same⟩
    | some template =>
      obtain ⟨left, outcome, after, ran, heldAfter, ends⟩ := updateElement_ends element indexed
        (meets_of_readBody brings.read) (styles template (Session.mem_templates_of_held? held)) held
      rw [ran]
      exact Or.inr ⟨members, template, left, outcome, brings, rfl, heldAfter, rfl, ends⟩
  · obtain ⟨sent, error, stopped⟩ := follow_updateElement_refused brought
    rw [stopped]
    exact Or.inl ⟨status_sentFor_error error, rfl, fun members _ brings _ => brought ⟨members, brings⟩⟩

/-- A request to edit an element is all or nothing exactly if it is not torn.  If it is answered with
success, the edit of its members is carried out as a whole.  If it is not, the template is written as
before and its stored snapshot is the same, unless the edit changes the template and then has a style
that is no object, or cannot be saved, or leaves an element that cannot be sent; in these cases the
template is written otherwise afterwards. -/
theorem element_edit_is_whole_iff
    (indexed : service.session.Indexed)
    (styles : ∀ template ∈ service.session.templates, ∀ element ∈ template.elements,
      Table.Distinct element.style)
    (led : Table.get? (routesAt request.path) request.method = some (.updateElement id element)) :
    let after := (service.answer request).1
    let response := (service.answer request).2
    (response.status = 200 -> ∃ members template left, Brings service request members ∧
        service.session.held? id = some template ∧ after.session.held? id = some left ∧
        CarriedOut element members template left response) ∧
      ((response.status ≠ 200 ->
          (after.session.held? id).map Template.toJson =
            (service.session.held? id).map Template.toJson ∧
          after.session.store.load id = service.session.store.load id) ↔
        ¬∃ members template, Brings service request members ∧
          service.session.held? id = some template ∧
          Torn service.session.store template element members) := by
  intro after response
  rcases answer_updateElement indexed styles led with
    ⟨failed, unchanged, nothing⟩ | ⟨members, template, left, outcome, brings, held, heldAfter, sent, ends⟩
  · refine ⟨fun done => absurd done failed, fun _ => ?_, fun _ _ => ?_⟩
    · rintro ⟨members, template, brings, held, _⟩
      exact nothing members template brings held
    · have same : after = service := unchanged
      rw [same]
      exact ⟨rfl, rfl⟩
  · have meets := meets_of_readBody brings.read
    have stylesHere := styles template (Session.mem_templates_of_held? held)
    have isSent : response = sentFor outcome := sent
    rw [isSent]
    refine ⟨fun done => ?_, fun whole => ?_, fun untorn failed => ?_⟩
    · exact ⟨members, template, left, brings, held, heldAfter, ends.carriedOut meets stylesHere done⟩
    · rintro ⟨other, found, also, isFound, torn⟩
      obtain rfl := brings.unique also
      obtain rfl := Option.some.inj (held.symm.trans isFound)
      obtain ⟨failed, differs⟩ := ends.differs_of_torn torn meets stylesHere
      refine differs (Option.some.inj ?_)
      rw [← Option.map_some, ← Option.map_some, ← heldAfter, ← held]
      exact (whole failed).1
    · rcases ends.untouched_or_torn meets.distinct failed with ⟨unchanged, sameStore⟩ | torn
      · refine ⟨?_, congrArg (Store.load · id) sameStore⟩
        rw [held, ← unchanged]
        exact congrArg (Option.map Template.toJson) heldAfter
      · exact absurd ⟨members, template, brings, held, torn⟩ untorn

/-- A request that gives a title new content and a style that is no object fails, and the new content
stays, in the template and in the store. -/
theorem content_stays_after_shapeless_style :
    let service : Service :=
      { session := { templates := [Template.coloredTemplate], index := [("demo", 0)] },
        config := ⟨[("security", .obj [("default_token", .str "secret")])]⟩, today := "" }
    let request : Request :=
      { method := "PATCH", path := "/api/v1/templates/demo/elements/title",
        body := some "\x7b\"content\":\"New\",\"style\":5\x7d",
        authorization := some "Bearer secret" }
    let after := (service.answer request).1
    (service.answer request).2.status ≠ 200 ∧
      (after.session.held? "demo").map (fun template => template.elements.map Element.content) =
        some [some "New"] ∧
      ¬((after.session.held? "demo").map Template.toJson =
          (service.session.held? "demo").map Template.toJson ∧
        after.session.store.load "demo" = service.session.store.load "demo") := by
  intro service request after
  let members : Table Json := [("content", .str "New"), ("style", .int 5)]
  have reached := Template.reached_coloredTemplate
  have only {number : Nat} {template : Template}
      (present : service.session.template? number = some template) :
      template = Template.coloredTemplate :=
    List.mem_singleton.1 (List.mem_of_getElem? present)
  have indexed : service.session.Indexed := by
    refine ⟨by decide, fun {id number} held => ?_, fun present => ?_⟩
    · obtain ⟨rfl, rfl⟩ := Prod.mk.inj (List.mem_singleton.1 (Table.mem_of_get? held))
      exact ⟨Template.coloredTemplate, rfl, rfl⟩
    · exact only present ▸ reached.valid.manifest
  have styles : ∀ template ∈ service.session.templates, ∀ element ∈ template.elements,
      Table.Distinct element.style := by
    intro template isThere
    cases List.mem_singleton.1 isThere
    decide
  have led : Table.get? (routesAt request.path) request.method =
      some (.updateElement "demo" "title") := by decide +kernel
  have filled : request.filledBody? =
      some "\x7b\"content\":\"New\",\"style\":5\x7d" := by decide +kernel
  have given : request.token? = some "secret" := by decide +kernel
  have brings : Brings service request members :=
    ⟨resultOf_readBody_of_parse filled (by decide +kernel),
      resultOf_authorize_of_token given (by decide +kernel)⟩
  have torn : Torn service.session.store Template.coloredTemplate "title" members :=
    .shapeless (by decide +kernel) rfl fun _ same => nomatch same
  obtain ⟨_, whole⟩ := element_edit_is_whole_iff indexed styles led
  obtain ⟨failed, touched⟩ := Classical.not_imp.1 fun untouched =>
    whole.1 untouched ⟨members, _, brings, rfl, torn⟩
  exact ⟨failed, by decide +kernel, touched⟩

end Service
end BroadcastGraphics
