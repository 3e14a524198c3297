import BroadcastGraphics.Proofs.SessionEntries

/-!
# Saves that fail

A template that is created, copied or imported is held first and then saved, and nothing is undone if
it cannot be saved: the session goes on holding it, and a template that an import replaces has gone
from the session and from the store by then.  Calls that fail before this point leave everything as
it was.
-/

namespace BroadcastGraphics
namespace Session

/-! ## What goes before a save -/

/-- An action adds a template to the session. -/
inductive IsAddition : Action Nat -> Prop where
  | create (kind id name description : Json) : IsAddition (create kind id name description)
  | duplicate (id : String) (newId newName : Json) : IsAddition (duplicate id newId newName)
  | importTemplate (source : ImportSource) (policy : Json) :
      IsAddition (importTemplate source policy)

/-- An action comes to the saving of a template: nothing is left to do but to delete the template
that is replaced, if one is, and to add the new one. -/
inductive Brings (session : Session) : Action Nat -> Template -> Option String -> Prop where
  | create {kind id name description : Json} {template : Template}
      (free : session.numberOfValue id = .ok none)
      (made : newTemplate session.config kind id name description = .ok template) :
      Brings session (create kind id name description) template none
  | duplicate {id : String} {number : Nat} {source copy : Template} {newId newName : Json}
      (held : session.number? id = some number)
      (present : session.template? number = some source)
      (free : session.numberOfValue newId = .ok none)
      (copied : renamedCopy source newId newName = .ok copy) :
      Brings session (duplicate id newId newName) copy none
  | importTemplate {source : ImportSource} {policy : Json} {template : Template}
      {replaced : Option String}
      (planned : session.plan source policy = .ok (.add template replaced)) :
      Brings session (importTemplate source policy) template replaced

/-- Delete the template that is replaced, if one is. -/
def clear : Option String -> Action Unit
  | none => pure ()
  | some id => do
      let _ <- delete id

/-- The session after the template that is replaced has been deleted from it and from the store, and
the marker with it if it was the current one. -/
def cleared (session : Session) : Option String -> Session
  | none => session
  | some id =>
      { session with
        index := Table.remove session.index id
        current := if session.current = some id then none else session.current
        store :=
          if session.current = some id then ((session.store.delete id).1.mark .null).1
          else (session.store.delete id).1 }

section Clear

variable {session : Session}

/-- A deletion that does not fail leaves the session without the template. -/
theorem resultOf_clear
    {replaced : Option String}
    (held : ∀ id ∈ replaced, session.holds id = true)
    (done : (resultOf (clear replaced) session).1 = .ok ()) :
    resultOf (clear replaced) session = (.ok (), session.cleared replaced) := by
  cases replaced with
  | none => rfl
  | some id =>
    have isHeld := held id rfl
    cases deleted : session.store.delete id with
    | mk afterDelete outcome =>
      cases outcome with
      | error fault =>
        simp only [clear, delete, resultOf_bind, resultOf_get, isHeld, if_true, resultOf_modify,
          resultOf_onStore, deleted] at done
        cases done
      | ok found =>
        have unmarked : session.current = some id ->
            afterDelete.mark .null = ((afterDelete.mark .null).1, .ok ()) := by
          intro selected
          cases marked : (afterDelete.mark .null).2 with
          | ok => exact Prod.ext rfl marked
          | error fault =>
            simp only [clear, delete, resultOf_bind, resultOf_get, isHeld, if_true, resultOf_modify,
              resultOf_onStore, deleted, selected, resultOf_makeCurrent, Json.ofText?, marked]
              at done
            cases done
        have result := resultOf_delete isHeld deleted unmarked
        simp only [clear, resultOf_bind, result, resultOf_pure, cleared, deleted]
        split <;> rfl

theorem entries_cleared
    (session : Session)
    (replaced : Option String) :
    (session.cleared replaced).entries =
      replaced.elim session.entries (Table.remove session.entries) := by
  cases replaced with
  | none => rfl
  | some id => exact entries_released session id

theorem templates_cleared
    (session : Session)
    (replaced : Option String) : (session.cleared replaced).templates = session.templates := by
  cases replaced <;> rfl

theorem number?_cleared_eq_some_iff
    (replaced : Option String)
    (id : String)
    (number : Nat) :
    (session.cleared replaced).number? id = some number ↔
      session.number? id = some number ∧ replaced ≠ some id := by
  cases replaced with
  | none => simp [cleared]
  | some other =>
    have removed : (session.cleared (some other)).number? id =
        if other = id then none else session.number? id :=
      Table.get?_remove session.index other id
    rw [removed]
    by_cases same : other = id <;> simp [same]

/-- The id of a template that comes in is free once the template that it replaces has gone. -/
theorem number?_cleared
    {replaced : Option String}
    {id : String}
    (free : replaced = some id ∨ session.number? id = none) :
    (session.cleared replaced).number? id = none := by
  refine Option.eq_none_iff_forall_ne_some.2 fun number found => ?_
  obtain ⟨held, other⟩ := (number?_cleared_eq_some_iff replaced id number).1 found
  rcases free with same | free
  · exact other same
  · cases free.symm.trans held

end Clear

section Brings

variable {session : Session} {action : Action Nat} {template : Template} {replaced : Option String}

/-- What is replaced has the id of the template that comes in, and otherwise that id is free. -/
theorem Brings.free
    (brings : Brings session action template replaced) :
    (∀ id ∈ replaced, session.holds id = true) ∧
      (replaced = some template.id ∨ session.number? template.id = none) := by
  cases brings with
  | create free made =>
    have isId := id_of_newTemplate made
    refine ⟨nofun, Or.inr (numberOfValue_eq_none ?_)⟩
    rw [← isId]
    exact free
  | duplicate held present free copied =>
    have isId := id_of_renamedCopy copied
    refine ⟨nofun, Or.inr (numberOfValue_eq_none ?_)⟩
    rw [← isId]
    exact free
  | importTemplate planned =>
    refine ⟨holds_of_plan_replaced planned, ?_⟩
    obtain ⟨known, id, _, _, _, ⟨free, rfl, _⟩ | ⟨_, _, _, renamed, _⟩ | ⟨_, _, _, rfl, same⟩⟩ :=
      plan_of_add planned
    · exact Or.inr free
    · obtain ⟨place, numbered, _, isFree, _⟩ := freeId_spec session id
      rw [renamed, numbered]
      exact Or.inr (number?_eq_none_of_holds isFree)
    · exact Or.inl same

/-- An action that comes to the saving of a template clears its place and adds it. -/
theorem Brings.resultOf_eq
    (brings : Brings session action template replaced) :
    ∃ isCurrent, resultOf action session =
      resultOf (clear replaced >>= fun _ => add template isCurrent) session := by
  cases brings with
  | create free made =>
    refine ⟨true, ?_⟩
    simp only [Session.create, resultOf_bind, resultOf_get, resultOf_lift, free, made, clear, resultOf_pure]
  | duplicate held present free copied =>
    refine ⟨false, ?_⟩
    simp only [Session.duplicate, require, resultOf_bind, resultOf_get, resultOf_lift, held, present, free,
      copied, clear, resultOf_pure]
  | importTemplate planned =>
    refine ⟨true, ?_⟩
    rw [resultOf_importTemplate, planned]
    cases replaced with
    | none => simp only [carryOut, clear, resultOf_bind, resultOf_pure]
    | some id =>
      simp only [carryOut, clear, resultOf_bind, resultOf_pure]
      rcases resultOf (delete id) session with ⟨_ | _, after⟩ <;> rfl

/-- If the template cannot be saved, it is held nevertheless, and what it replaces is gone. -/
theorem Brings.resultOf_of_unsaved
    (brings : Brings session action template replaced)
    (done : (resultOf (clear replaced) session).1 = .ok ())
    {fault : Fault}
    (unsaved : (savedIn (session.cleared replaced).store template).2 = .error fault) :
    resultOf action session =
      (.error fault,
        { (session.cleared replaced).tracked template with
          store := (savedIn (session.cleared replaced).store template).1 }) := by
  obtain ⟨isCurrent, same⟩ := brings.resultOf_eq
  have saved := resultOf_save_eq_savedIn (template?_tracked (session.cleared replaced) template)
  rw [store_tracked, unsaved] at saved
  rw [same, resultOf_bind, resultOf_clear brings.free.1 done]
  simp only [add, resultOf_bind, resultOf_get, resultOf_modify, saved]

end Brings

theorem isText_of_numberOfValue
    {session : Session}
    {value : Json}
    {number : Nat}
    (looked : session.numberOfValue value = .ok (some number)) : ∃ id, value = .str id := by
  cases value with
  | str id => exact ⟨id, rfl⟩
  | _ => cases looked

/-- An action that adds a template and does not come to saving it leaves everything as it was. -/
theorem unchanged_of_not_brings
    {session : Session}
    {action : Action Nat}
    (addition : IsAddition action)
    (none : ∀ template replaced, ¬ Brings session action template replaced) :
    (resultOf action session).2 = session := by
  cases addition with
  | create kind id name description =>
    simp only [create, resultOf_bind, resultOf_get, resultOf_lift]
    cases looked : session.numberOfValue id with
    | error fault => rfl
    | ok taken =>
      cases taken with
      | some number =>
        obtain ⟨text, rfl⟩ := isText_of_numberOfValue looked
        rfl
      | none =>
        simp only [resultOf_bind, resultOf_lift]
        cases made : newTemplate session.config kind id name description with
        | error fault => rfl
        | ok template => exact absurd (.create looked made) (none template _)
  | duplicate id newId newName =>
    rcases resultOf_require id session with absent | ⟨number, source, held, present, found⟩
    · simp only [duplicate, resultOf_bind, absent]
    · simp only [duplicate, resultOf_bind, found, resultOf_get, resultOf_lift]
      cases looked : session.numberOfValue newId with
      | error fault => rfl
      | ok taken =>
        cases taken with
        | some number =>
          obtain ⟨text, rfl⟩ := isText_of_numberOfValue looked
          rfl
        | none =>
          simp only [resultOf_bind, resultOf_lift]
          cases copied : renamedCopy source newId newName with
          | error fault => rfl
          | ok copy => exact absurd (.duplicate held present looked copied) (none copy _)
  | importTemplate source policy =>
    rw [resultOf_importTemplate]
    cases planned : session.plan source policy with
    | error fault => rfl
    | ok plan =>
      cases plan with
      | keep number => rfl
      | add template replaced => exact absurd (.importTemplate planned) (none template replaced)


/-- A template that cannot be saved is held nevertheless.  Of the actions that add a template, those
that do not come to saving it leave everything as it was.  If one comes to it, and what it replaces
could be deleted, but the store does not take the template, then the action fails with the fault of
the store: the template is held behind the others without being stored; what it replaces has gone
from the session and from the store; and no other template or marker is touched. -/
theorem unsaved_template_is_held
    {before : Session}
    (reached : Reached before)
    (store : Store)
    {action : Action Nat}
    (addition : IsAddition action) :
    let session := { before with store := store }
    ((∀ template replaced, ¬ Brings session action template replaced) ->
      (resultOf action session).2 = session) ∧
    ∀ template replaced, Brings session action template replaced ->
      (resultOf (clear replaced) session).1 = .ok () ->
      ∀ fault, (savedIn (session.cleared replaced).store template).2 = .error fault ->
        ∃ after, resultOf action session = (.error fault, after) ∧
          after.entries = replaced.elim session.entries (Table.remove session.entries) ++
            [(template.id, template)] ∧
          after.store = (savedIn (session.cleared replaced).store template).1 ∧
          after.current = (session.cleared replaced).current := by
  intro session
  have indexed : Indexed session := reached.indexed.congr rfl rfl
  refine ⟨unchanged_of_not_brings addition, fun template replaced brings done fault unsaved => ?_⟩
  refine ⟨_, brings.resultOf_of_unsaved done unsaved, ?_, rfl, rfl⟩
  have inRange : ∀ entry ∈ (session.cleared replaced).index,
      entry.2 < (session.cleared replaced).templates.length := by
    cases replaced with
    | none => exact indexed.inRange
    | some id => exact fun entry member => indexed.inRange entry (Table.mem_of_mem_remove member)
  refine (entries_congr rfl rfl).trans
    ((entries_tracked inRange (number?_cleared brings.free.2)).trans ?_)
  rw [entries_cleared]

/-- The import of a manifest with an id and a name. -/
def demoSource (name : String) : ImportSource :=
  { manifest := .obj [("id", .str "demo"), ("name", .str name)] }

/-- What a policy of replacement does when the store fails to save: the old template is gone from the
session and the store, and the new one is held without being stored. -/
theorem replaced_template_is_lost :
    let before := performAll [.importTemplate (demoSource "Old") (.str "replace")] (opened {} {}).2
    let failing : Store := { before.store with failsToSave := true }
    let session := { before with store := failing }
    let result := resultOf (importTemplate (demoSource "New") (.str "replace")) session
    session.store.ids = ["demo"] ∧ result.1 = .error (.file .failed) ∧
      result.2.entries.map (fun entry => (entry.1, entry.2.manifest.name)) = [("demo", "New")] ∧
      result.2.store.ids = [] ∧ result.2.current = none := by
  intro before failing session result
  have reached : Reached before := ⟨{}, {}, _, rfl⟩
  obtain ⟨template, planned, id, name, unsaved, emptied⟩ : ∃ template,
      session.plan (demoSource "New") (.str "replace") = .ok (.add template (some "demo")) ∧
        template.id = "demo" ∧ template.manifest.name = "New" ∧
        (savedIn (session.cleared (some "demo")).store template).2 = .error (.file .failed) ∧
        (savedIn (session.cleared (some "demo")).store template).1.ids = [] :=
    ⟨_, by rfl, by decide +kernel⟩
  have done : (resultOf (clear (some "demo")) session).1 = .ok () := by rfl
  obtain ⟨after, same, entries, store, current⟩ :=
    (unsaved_template_is_held reached failing
      (.importTemplate (demoSource "New") (.str "replace"))).2 template _ (.importTemplate planned)
      done _ unsaved
  have noOthers : Table.remove session.entries "demo" = [] := by decide +kernel
  have single : after.entries = [(template.id, template)] :=
    entries.trans (congrArg (· ++ [(template.id, template)]) noOthers)
  have left : result.2 = after := congrArg Prod.snd same
  refine ⟨by decide +kernel, congrArg Prod.fst same, ?_, ?_, ?_⟩
  · rw [left, single, List.map_cons, List.map_nil, id, name]
  · rw [left, store]
    exact emptied
  · rw [left, current]
    decide +kernel

end Session
end BroadcastGraphics
