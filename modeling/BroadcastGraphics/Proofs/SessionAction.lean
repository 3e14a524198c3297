import BroadcastGraphics.Proofs.TemplateEdit
import BroadcastGraphics.Session.Command

/-!
# Actions of a session and what they keep

The outcome of an action is read off together with the session that it leaves behind.  The first
section gives the equations by which actions are put together; the second one says which moves an
action is made of, and what keeps a property of sessions if every single move keeps it.
-/

namespace BroadcastGraphics

namespace Session

variable {α β : Type}

/-- The outcome of an action, with the session that it leaves behind. -/
def resultOf (action : Action α) (session : Session) : Except Fault α × Session :=
  action.run.run session

@[simp] theorem resultOf_pure
    (value : α)
    (session : Session) :
    resultOf (pure value) session = (.ok value, session) := rfl

@[simp] theorem resultOf_throw
    (fault : Fault)
    (session : Session) :
    resultOf (throw fault : Action α) session = (.error fault, session) := rfl

@[simp] theorem resultOf_get
    (session : Session) :
    resultOf get session = (.ok session, session) := rfl

@[simp] theorem resultOf_set
    (next session : Session) :
    resultOf (set next) session = (.ok ⟨⟩, next) := rfl

@[simp] theorem resultOf_modify
    (change : Session -> Session)
    (session : Session) :
    resultOf (modify change) session = (.ok ⟨⟩, change session) := rfl

@[simp] theorem resultOf_lift
    (outcome : Except Fault α)
    (session : Session) :
    resultOf (liftM outcome) session = (outcome, session) := by
  cases outcome <;> rfl

/-- A fault ends a sequence of actions, and what was done before it stays done. -/
theorem resultOf_bind
    (first : Action α)
    (next : α -> Action β)
    (session : Session) :
    resultOf (first >>= next) session =
      match resultOf first session with
      | (.ok value, after) => resultOf (next value) after
      | (.error fault, after) => (.error fault, after) := by
  simp only [resultOf, ExceptT.run_bind, StateT.run_bind]
  rcases action : first.run.run session with ⟨_ | _, _⟩ <;> rfl

theorem resultOf_map
    (change : α -> β)
    (action : Action α)
    (session : Session) :
    resultOf (change <$> action) session =
      ((resultOf action session).1.map change, (resultOf action session).2) := by
  simp only [resultOf, ExceptT.run_map, StateT.run_map]
  rcases action.run.run session with ⟨_ | _, _⟩ <;> rfl

theorem resultOf_tryCatch
    (action : Action α)
    (handler : Fault -> Action α)
    (session : Session) :
    resultOf (tryCatch action handler) session =
      match resultOf action session with
      | (.ok value, after) => (.ok value, after)
      | (.error fault, after) => resultOf (handler fault) after := by
  simp only [resultOf, tryCatch, tryCatchThe, MonadExceptOf.tryCatch, ExceptT.tryCatch]
  change StateT.run (ExceptT.run action >>= _) session = _
  rw [StateT.run_bind]
  rcases action.run.run session with ⟨_ | _, _⟩ <;> rfl

/-- What an action does with the store does not touch the rest of the session. -/
theorem resultOf_onStore
    (change : Store -> Store × Except Fault α)
    (session : Session) :
    resultOf (onStore change) session =
      ((change session.store).2, { session with store := (change session.store).1 }) := by
  simp only [onStore, resultOf_bind, resultOf_get, resultOf_set, resultOf_lift]

/-- Saving writes the present content of the template under its present id. -/
theorem resultOf_save
    {session : Session}
    {number : Nat}
    {template : Template}
    (present : session.template? number = some template) :
    resultOf (save number) session =
      match template.written with
      | .error fault => (.error fault, session)
      | .ok written => resultOf (onStore fun store => store.save template.id written) session := by
  simp only [save, resultOf_bind, resultOf_get, present, resultOf_lift]
  cases template.written <;> rfl

theorem resultOf_makeCurrent
    (id : Option String)
    (session : Session) :
    resultOf (makeCurrent id) session =
      ((session.store.mark (Json.ofText? id)).2,
        { session with
          current := id
          store := (session.store.mark (Json.ofText? id)).1 }) := by
  simp only [makeCurrent, saveCurrent, resultOf_bind, resultOf_modify, resultOf_get,
    resultOf_onStore]

@[simp] theorem template?_tracked
    (session : Session)
    (template : Template) :
    (session.tracked template).template? session.templates.length = some template := by
  simp [tracked, template?]

@[simp] theorem store_tracked
    (session : Session)
    (template : Template) : (session.tracked template).store = session.store := rfl

/-- A template that can be written is held and stored when it is added. -/
theorem resultOf_add
    {session : Session}
    {template : Template}
    {written : Json}
    {afterSave afterMark : Store}
    (isCurrent : Bool)
    (wrote : template.written = .ok written)
    (saved : session.store.save template.id written = (afterSave, .ok ()))
    (marked : isCurrent = true -> afterSave.mark (.str template.id) = (afterMark, .ok ())) :
    resultOf (add template isCurrent) session =
      (.ok session.templates.length,
        if isCurrent then
          { session.tracked template with current := some template.id, store := afterMark }
        else { session.tracked template with store := afterSave }) := by
  have stored : resultOf (save session.templates.length) (session.tracked template) =
      (.ok (), { session.tracked template with store := afterSave }) := by
    rw [resultOf_save (template?_tracked session template), wrote]
    dsimp only
    rw [resultOf_onStore, store_tracked, saved]
  simp only [add, resultOf_bind, resultOf_get, resultOf_modify, stored]
  cases isCurrent with
  | false => rfl
  | true =>
    simp only [if_true, resultOf_bind, resultOf_makeCurrent, resultOf_pure, Json.ofText?,
      marked rfl]

/-- Adding a template that cannot be written holds it, and then fails. -/
theorem resultOf_add_of_error
    (session : Session)
    {template : Template}
    {fault : Fault}
    (isCurrent : Bool)
    (failed : template.written = .error fault) :
    resultOf (add template isCurrent) session = (.error fault, session.tracked template) := by
  simp only [add, resultOf_bind, resultOf_get, resultOf_modify,
    resultOf_save (template?_tracked session template), failed]

/-- Deleting a template that is held takes it out of the session and out of the store, and leaves
none current if it was. -/
theorem resultOf_delete
    {session : Session}
    {id : String}
    {afterDelete afterMark : Store}
    {found : Bool}
    (held : session.holds id = true)
    (deleted : session.store.delete id = (afterDelete, .ok found))
    (marked : session.current = some id -> afterDelete.mark .null = (afterMark, .ok ())) :
    resultOf (delete id) session =
      (.ok true,
        if session.current = some id then
          { session with
            index := Table.remove session.index id, current := none, store := afterMark }
        else { session with index := Table.remove session.index id, store := afterDelete }) := by
  simp only [delete, resultOf_bind, resultOf_get, held, if_true, resultOf_modify, resultOf_onStore,
    deleted]
  by_cases selected : session.current = some id
  · rw [if_pos selected, if_pos selected]
    simp only [resultOf_bind, resultOf_makeCurrent, resultOf_pure, Json.ofText?, marked selected]
  · rw [if_neg selected, if_neg selected]
    rfl

/-! ## Properties that every move keeps -/

/-- An action keeps a property of sessions, also when it is given up. -/
def Keeps
    (Holds : Session -> Prop)
    (action : Action α) : Prop :=
  ∀ session, Holds session -> Holds (resultOf action session).2

variable {Holds : Session -> Prop}

theorem keeps_pure (value : α) : Keeps Holds (pure value) :=
  fun _ holds => holds

theorem keeps_throw (fault : Fault) : Keeps Holds (throw fault : Action α) :=
  fun _ holds => holds

theorem keeps_lift (outcome : Except Fault α) : Keeps Holds (liftM outcome : Action α) := by
  intro session holds
  rw [resultOf_lift]
  exact holds

theorem keeps_modify
    {change : Session -> Session}
    (kept : ∀ session, Holds session -> Holds (change session)) :
    Keeps Holds (modify change : Action PUnit) :=
  kept

/-- What holds after the first of two actions holds after both if the second one keeps it. -/
theorem holds_bind
    {first : Action α}
    {next : α -> Action β}
    {session : Session}
    (afterFirst : Holds (resultOf first session).2)
    (nextKeeps : ∀ value, Keeps Holds (next value)) :
    Holds (resultOf (first >>= next) session).2 := by
  rw [resultOf_bind]
  rcases result : resultOf first session with ⟨fault | value, after⟩
  · rw [result] at afterFirst
    exact afterFirst
  · rw [result] at afterFirst
    exact nextKeeps value after afterFirst

theorem keeps_bind
    {first : Action α}
    {next : α -> Action β}
    (firstKeeps : Keeps Holds first)
    (nextKeeps : ∀ value, Keeps Holds (next value)) :
    Keeps Holds (first >>= next) :=
  fun session holds => holds_bind (firstKeeps session holds) nextKeeps

/-- After reading the session, what follows may use that the session has the property. -/
theorem keeps_get_bind
    {next : Session -> Action β}
    (nextKeeps : ∀ session, Holds session -> Holds (resultOf (next session) session).2) :
    Keeps Holds (get >>= next) :=
  nextKeeps

theorem keeps_map
    {action : Action α}
    (change : α -> β)
    (kept : Keeps Holds action) :
    Keeps Holds (change <$> action) := by
  intro session holds
  rw [resultOf_map]
  exact kept session holds

theorem keeps_tryCatch
    {action : Action α}
    {handler : Fault -> Action α}
    (actionKeeps : Keeps Holds action)
    (handlerKeeps : ∀ fault, Keeps Holds (handler fault)) :
    Keeps Holds (tryCatch action handler) := by
  intro session holds
  have afterAction := actionKeeps session holds
  rw [resultOf_tryCatch]
  rcases result : resultOf action session with ⟨fault | value, after⟩
  · rw [result] at afterAction
    exact handlerKeeps fault after afterAction
  · rw [result] at afterAction
    exact afterAction

/-! ## What commands are made of -/

/-- A property of templates that every template has which a session makes, reads or edits. -/
structure Arising (Fits : Template -> Prop) : Prop where
  carried : ∀ {template : Template} {α : Type} {edit : Edit α} {request : Template.Call},
    edit.Carries template request -> Fits template -> Fits edit.template
  created : ∀ {config kind id name description template},
    newTemplate config kind id name description = .ok template -> Fits template
  read : ∀ {value snapshot},
    Snapshot.read value = .ok snapshot -> Fits (Template.ofSnapshot snapshot)
  imported : ∀ {source members givenId template},
    importedTemplate source members givenId = .ok template -> Fits template

/-- What is true of the templates that come from presets and outlasts edits is true of every template
that is created. -/
theorem fits_of_newTemplate
    {Fits : Template -> Prop}
    (carried : ∀ {template : Template} {α : Type} {edit : Edit α} {request : Template.Call},
      edit.Carries template request -> Fits template -> Fits edit.template)
    (ofPreset : ∀ {kind id name description fields template},
      Template.ofPreset kind id name description fields = .ok template -> Fits template)
    {config : StudioConfig}
    {kind id name description : Json}
    {template : Template}
    (made : newTemplate config kind id name description = .ok template) : Fits template := by
  obtain ⟨known, _, made⟩ := ok_of_bind made
  obtain ⟨fresh, fromPreset, made⟩ := ok_of_bind made
  split at made
  · cases made
    exact ofPreset fromPreset
  · obtain ⟨_, _, made⟩ := ok_of_bind made
    cases made
    exact carried (fresh.updateAnimation_performs _).carries (ofPreset fromPreset)

/-- A property of sessions that everything keeps but an edit, given that the templates which come in
have a property. -/
structure Steady (Fits : Template -> Prop) (Holds : Session -> Prop) : Prop where
  saved : ∀ {session} (id : String) (snapshot : Json),
    Holds session -> Holds { session with store := (session.store.save id snapshot).1 }
  deleted : ∀ {session} (id : String),
    Holds session -> Holds { session with store := (session.store.delete id).1 }
  marked : ∀ {session} (marker : Json),
    Holds session -> Holds { session with store := (session.store.mark marker).1 }
  selected : ∀ {session} (id : Option String),
    Holds session -> Holds { session with current := id }
  tracked : ∀ {session template},
    Fits template -> Holds session -> Holds (session.tracked template)
  released : ∀ {session} (id : String),
    Holds session -> Holds { session with index := Table.remove session.index id }

/-- A property of sessions that every move of a command keeps, given that the templates which come
in have a property. -/
structure Stable (Fits : Template -> Prop) (Holds : Session -> Prop) : Prop
    extends Steady Fits Holds where
  fits : ∀ {session number template},
    Holds session -> session.template? number = some template -> Fits template
  edited : ∀ {session template} (number : Nat),
    Fits template -> Holds session -> Holds (session.withTemplate number template)
  rekeyed : ∀ {session number} (old new : String),
    number < session.templates.length -> Holds session -> Holds (session.rekeyed old new number)

section Stable

variable {Fits : Template -> Prop} {Holds : Session -> Prop}

theorem Steady.keeps_save
    (steady : Steady Fits Holds)
    (number : Nat) : Keeps Holds (save number) := by
  refine keeps_get_bind fun session holds => ?_
  cases session.template? number with
  | none => exact holds
  | some template =>
    refine keeps_bind (keeps_lift _) (fun written => ?_) session holds
    intro session holds
    rw [resultOf_onStore]
    exact steady.saved _ _ holds

theorem Steady.keeps_forget
    (steady : Steady Fits Holds)
    (id : String) : Keeps Holds (onStore fun store => store.delete id) := by
  intro session holds
  rw [resultOf_onStore]
  exact steady.deleted id holds

theorem Steady.keeps_makeCurrent
    (steady : Steady Fits Holds)
    (id : Option String) : Keeps Holds (makeCurrent id) := by
  intro session holds
  rw [resultOf_makeCurrent]
  exact steady.marked _ (steady.selected id holds)

/-- Giving a template back its id edits it by a call. -/
theorem Stable.keeps_revertId
    (stable : Stable Fits Holds)
    (arising : Arising Fits)
    {template : Template}
    (fits : Fits template)
    (number : Nat)
    (key : String) : Keeps Holds (revertId number template key) := by
  have editFits : Fits (template.updateManifest (.obj [("id", .str key)])).template :=
    arising.carried (template.updateManifest_performs _ _).carries fits
  refine keeps_bind (keeps_modify fun session => stable.edited number editFits) fun _ => ?_
  refine keeps_bind (keeps_lift _) fun _ => ?_
  split
  · exact keeps_bind (stable.keeps_save number) fun _ => keeps_throw _
  · exact keeps_throw _

theorem Stable.holds_followRename
    (stable : Stable Fits Holds)
    {session : Session}
    {number : Nat}
    (inRange : number < session.templates.length)
    (old new : String)
    (holds : Holds session) : Holds (resultOf (followRename number old new) session).2 := by
  refine holds_bind (stable.rekeyed old new inRange holds) fun _ => ?_
  refine keeps_bind (stable.keeps_forget old) fun _ => ?_
  refine keeps_get_bind fun session holds => ?_
  split
  · exact stable.keeps_makeCurrent _ session holds
  · exact holds

theorem Stable.keeps_follow
    (stable : Stable Fits Holds)
    (arising : Arising Fits)
    (number : Nat) : Keeps Holds (follow number) := by
  refine keeps_get_bind fun session holds => ?_
  cases session.keyOf? number with
  | none => exact holds
  | some key =>
    cases present : session.template? number with
    | none => exact holds
    | some template =>
      dsimp only
      split
      · exact stable.keeps_save number session holds
      split
      · exact stable.keeps_revertId arising (stable.fits holds present) number key session holds
      · have inRange : number < session.templates.length :=
          (List.getElem?_eq_some_iff.1 present).1
        exact holds_bind (stable.holds_followRename inRange key template.id holds)
          fun _ => stable.keeps_save number

theorem Stable.keeps_commit
    (stable : Stable Fits Holds)
    (arising : Arising Fits)
    (number : Nat)
    {edit : Edit α}
    (fits : Fits edit.template) : Keeps Holds (commit number edit) := by
  refine keeps_bind (keeps_modify fun session => stable.edited number fits) fun _ => ?_
  refine keeps_bind (keeps_lift _) fun answer => ?_
  split
  · exact keeps_bind (stable.keeps_follow arising number) fun _ => keeps_pure _
  · exact keeps_pure _

theorem Steady.keeps_add
    (steady : Steady Fits Holds)
    {template : Template}
    (fits : Fits template)
    (isCurrent : Bool) : Keeps Holds (add template isCurrent) := by
  refine keeps_get_bind fun session holds => ?_
  refine holds_bind (steady.tracked fits holds) fun _ => ?_
  refine keeps_bind (steady.keeps_save _) fun _ => ?_
  split
  · exact keeps_bind (steady.keeps_makeCurrent _) fun _ => keeps_pure _
  · exact keeps_pure _

theorem Steady.keeps_delete
    (steady : Steady Fits Holds)
    (id : String) : Keeps Holds (delete id) := by
  refine keeps_get_bind fun session holds => ?_
  split
  · refine holds_bind (steady.released id holds) fun _ => ?_
    refine keeps_bind (steady.keeps_forget id) fun _ => ?_
    refine keeps_get_bind fun session holds => ?_
    split
    · exact keeps_bind (steady.keeps_makeCurrent _) (fun _ => keeps_pure _) session holds
    · exact holds
  · exact holds

theorem Steady.keeps_select
    (steady : Steady Fits Holds)
    (id : String) : Keeps Holds (select id) := by
  refine keeps_get_bind fun session holds => ?_
  split
  · exact keeps_bind (steady.keeps_makeCurrent _) (fun _ => keeps_pure _) session holds
  · exact holds

/-- Looking up a template does not change the session, and finds one that is there. -/
theorem resultOf_require
    (id : String)
    (session : Session) :
    resultOf (require id) session = (.error (.templateNotFound id), session) ∨
      ∃ number template, session.number? id = some number ∧
        session.template? number = some template ∧
        resultOf (require id) session = (.ok (number, template), session) := by
  cases held : session.number? id with
  | none =>
    left
    simp only [require, resultOf_bind, resultOf_get, held, resultOf_throw]
  | some number =>
    cases present : session.template? number with
    | none =>
      left
      simp only [require, resultOf_bind, resultOf_get, held, present, resultOf_throw]
    | some template =>
      right
      refine ⟨number, template, rfl, present, ?_⟩
      simp only [require, resultOf_bind, resultOf_get, held, present, resultOf_pure]

end Stable

end Session
end BroadcastGraphics
