import BroadcastGraphics.Proofs.SessionIndex
import BroadcastGraphics.Proofs.StoreShelf

/-!
# What a session holds, in order

A session holds its templates as a table of entries, in the order in which their ids came.  Editing a
template changes its entry in place, and holding it under another id moves it to the end.  Tables
whose names agree in this order and whose entries belong together are said to go in pairs.
-/

namespace BroadcastGraphics

/-! ## Tables that go together -/

namespace Table

variable {α β γ : Type} {Rel : α -> β -> Prop}

/-- Two tables have the same names in the same order, and what stands under them belongs together. -/
def Pairs (Rel : α -> β -> Prop) : Table α -> Table β -> Prop :=
  List.Forall₂ fun left right => left.1 = right.1 ∧ Rel left.2 right.2

theorem Pairs.names_eq
    {left : Table α}
    {right : Table β}
    (pairs : Pairs Rel left right) : names left = names right := by
  induction pairs with
  | nil => rfl
  | cons here _ ih => rw [names_cons, names_cons, here.1, ih]

theorem Pairs.append
    {first second : Table α}
    {third fourth : Table β}
    (before : Pairs Rel first third)
    (after : Pairs Rel second fourth) : Pairs Rel (first ++ second) (third ++ fourth) :=
  List.rel_append before after

theorem Pairs.put
    {left : Table α}
    {right : Table β}
    {value : α}
    {other : β}
    (pairs : Pairs Rel left right)
    (name : String)
    (related : Rel value other) : Pairs Rel (put left name value) (put right name other) := by
  induction pairs with
  | nil => exact .cons ⟨rfl, related⟩ .nil
  | @cons first second _ _ here rest ih =>
    obtain ⟨key, old⟩ := first
    obtain ⟨again, kept⟩ := second
    obtain ⟨rfl, both⟩ : key = again ∧ Rel old kept := here
    by_cases same : key = name
    · simp only [Table.put, same, if_true]
      exact .cons ⟨rfl, related⟩ rest
    · simp only [Table.put, same, if_false]
      exact .cons ⟨rfl, both⟩ ih

theorem Pairs.remove
    {left : Table α}
    {right : Table β}
    (pairs : Pairs Rel left right)
    (name : String) : Pairs Rel (remove left name) (remove right name) := by
  rw [remove_eq_filter, remove_eq_filter]
  refine List.rel_filter (fun first second here => ?_) pairs
  dsimp only
  rw [here.1]

theorem Pairs.filter
    {left : Table α}
    {right : Table β}
    {chosen : α -> Bool}
    {alsoChosen : β -> Bool}
    (pairs : Pairs Rel left right)
    (same : ∀ {value other}, Rel value other -> chosen value = alsoChosen other) :
    Pairs Rel (left.filter fun entry => chosen entry.2)
      (right.filter fun entry => alsoChosen entry.2) := by
  refine List.rel_filter (fun first second here => ?_) pairs
  dsimp only
  rw [same here.2]

/-- What goes together with the same table goes together by what both relations give. -/
theorem Pairs.through
    {Other : α -> γ -> Prop}
    {Result : γ -> β -> Prop}
    {left : Table α}
    {right : Table β}
    {other : Table γ}
    (pairs : Pairs Rel left right)
    (others : Pairs Other left other)
    (combined : ∀ {value found again}, Rel value found -> Other value again -> Result again found) :
    Pairs Result other right := by
  induction pairs generalizing other with
  | nil =>
    cases others
    exact .nil
  | cons here _ ih =>
    cases others with
    | cons again rest =>
      exact .cons ⟨again.1.symm.trans here.1, combined here.2 again.2⟩ (ih rest)

/-- A table goes together with itself after a change of one entry. -/
theorem pairs_put
    {Rel : α -> α -> Prop}
    (refl : ∀ value, Rel value value)
    {table : Table α}
    {name : String}
    {value changed : α}
    (present : get? table name = some value)
    (related : Rel value changed) : Pairs Rel table (put table name changed) := by
  induction table with
  | nil => cases present
  | cons entry rest ih =>
    obtain ⟨key, old⟩ := entry
    by_cases here : key = name
    · simp only [get?, here, if_true, Option.some.injEq] at present
      simp only [Table.put, here, if_true]
      exact .cons ⟨rfl, present ▸ related⟩ (List.forall₂_same.2 fun other _ => ⟨rfl, refl other.2⟩)
    · simp only [get?, here, if_false] at present
      simp only [Table.put, here, if_false]
      exact .cons ⟨rfl, refl old⟩ (ih present)

/-- Tables with the same names in the same order are equal if they have the same entries. -/
theorem eq_of_get?
    {left right : Table α}
    (sameNames : names left = names right)
    (distinct : Distinct left)
    (same : ∀ name, get? left name = get? right name) : left = right := by
  induction left generalizing right with
  | nil => exact (List.map_eq_nil_iff.1 sameNames.symm).symm
  | cons entry rest ih =>
    cases right with
    | nil => cases sameNames
    | cons other others =>
      obtain ⟨key, value⟩ := entry
      obtain ⟨again, found⟩ := other
      obtain ⟨rfl, sameRest⟩ := List.cons.inj (show key :: names rest = again :: names others from
        sameNames)
      obtain ⟨absent, distinctRest⟩ := List.nodup_cons.1 distinct
      have here := same key
      simp only [get?, if_true, Option.some.injEq] at here
      rw [here, ih sameRest distinctRest fun name => ?_]
      by_cases isKey : key = name
      · subst isKey
        have absentThere : key ∉ names others := sameRest ▸ absent
        rw [(get?_eq_none_iff rest key).2 absent, (get?_eq_none_iff others key).2 absentThere]
      · have later := same name
        simp only [get?, isKey, if_false] at later
        exact later

end Table

/-! ## What a session holds, in order -/

namespace Session

section Entries

variable {session : Session}

@[simp] theorem store_rekeyed
    (session : Session)
    (old new : String)
    (number : Nat) : (session.rekeyed old new number).store = session.store := rfl

@[simp] theorem current_rekeyed
    (session : Session)
    (old new : String)
    (number : Nat) : (session.rekeyed old new number).current = session.current := rfl

/-- What is held depends on nothing but the index and the templates. -/
theorem entries_congr
    {later : Session}
    (sameIndex : later.index = session.index)
    (sameTemplates : later.templates = session.templates) : later.entries = session.entries := by
  unfold entries template?
  rw [sameIndex, sameTemplates]

theorem Indexed.inRange
    (indexed : Indexed session) : ∀ entry ∈ session.index, entry.2 < session.templates.length :=
  fun _ member => number?_lt indexed (Table.get?_of_mem indexed.names member)

section InRange

variable (inRange : ∀ entry ∈ session.index, entry.2 < session.templates.length)
include inRange

theorem names_entries : Table.names session.entries = Table.names session.index := by
  unfold entries
  generalize session.index = index at inRange ⊢
  induction index with
  | nil => rfl
  | cons entry rest ih =>
    obtain ⟨here, later⟩ := List.forall_mem_cons.1 inRange
    have present : session.template? entry.2 = some session.templates[entry.2] :=
      List.getElem?_eq_getElem here
    simp [present, ih later]

/-- What is held under an id is what its entry says. -/
theorem get?_entries (id : String) : Table.get? session.entries id = session.held? id := by
  unfold entries held? number?
  generalize session.index = index at inRange ⊢
  induction index with
  | nil => rfl
  | cons entry rest ih =>
    obtain ⟨here, later⟩ := List.forall_mem_cons.1 inRange
    have present : session.template? entry.2 = some session.templates[entry.2] :=
      List.getElem?_eq_getElem here
    by_cases isId : entry.1 = id
    · simp [present, Table.get?, isId]
    · simp [present, Table.get?, isId, ih later]

end InRange

theorem distinct_entries (indexed : Indexed session) : Table.Distinct session.entries := by
  unfold Table.Distinct
  rw [names_entries indexed.inRange]
  exact indexed.names

/-- What is held under an id is a template that the session has, and it is its own id. -/
theorem Indexed.exists_of_held?
    (indexed : Indexed session)
    {id : String}
    {template : Template}
    (held : session.held? id = some template) :
    ∃ number, session.number? id = some number ∧ session.template? number = some template ∧
      template.id = id := by
  obtain ⟨number, leads, present⟩ := Option.bind_eq_some_iff.1 held
  obtain ⟨found, again, sameId⟩ := indexed.leads leads
  rw [present] at again
  exact ⟨number, leads, present, Option.some.inj again ▸ sameId⟩

/-- An entry is one of a template that the session has, under its id. -/
theorem Indexed.entry
    (indexed : Indexed session)
    {entry : String × Template}
    (member : entry ∈ session.entries) :
    ∃ number, session.number? entry.1 = some number ∧
      session.template? number = some entry.2 ∧ entry.2.id = entry.1 := by
  have held := Table.get?_of_mem (distinct_entries indexed) member
  rw [get?_entries indexed.inRange] at held
  exact indexed.exists_of_held? held

/-- A template that is held is changed in the place of its entry. -/
theorem entries_withTemplate
    (indexed : Indexed session)
    {id : String}
    {number : Nat}
    (held : session.number? id = some number)
    (template : Template) :
    (session.withTemplate number template).entries = Table.put session.entries id template := by
  have inRange : ∀ entry ∈ (session.withTemplate number template).index,
      entry.2 < (session.withTemplate number template).templates.length := by
    intro entry member
    rw [withTemplate, List.length_set]
    exact indexed.inRange entry member
  have isThere : id ∈ Table.names session.index :=
    Table.mem_names_of_mem (Table.mem_of_get? held)
  have names := names_entries inRange
  refine Table.eq_of_get? ?_ ?_ fun name => ?_
  · rw [names, Table.names_put, names_entries indexed.inRange, if_pos isThere]
    rfl
  · unfold Table.Distinct
    rw [names]
    exact indexed.names
  · rw [get?_entries inRange, Table.get?_put, get?_entries indexed.inRange]
    change (session.number? name).bind (session.withTemplate number template).template? = _
    by_cases here : id = name
    · subst here
      rw [held, if_pos rfl, Option.bind_some, template?_withTemplate,
        if_pos ⟨rfl, number?_lt indexed held⟩]
    · rw [if_neg here, held?]
      cases leads : session.number? name with
      | none => rfl
      | some other =>
        rw [Option.bind_some, Option.bind_some, template?_withTemplate, if_neg]
        rintro ⟨rfl, _⟩
        exact here (indexed.id_unique held leads)

/-- A template that is not held has no entry to change. -/
theorem entries_withTemplate_of_free
    (indexed : Indexed session)
    {number : Nat}
    (free : session.keyOf? number = none)
    (template : Template) : (session.withTemplate number template).entries = session.entries := by
  refine List.filterMap_congr fun entry member => ?_
  have leads := Table.get?_of_mem indexed.names member
  rw [template?_withTemplate, if_neg]
  rintro ⟨rfl, _⟩
  cases free.symm.trans ((indexed.keyOf?_eq_some_iff _ _).2 leads)

/-- A template that is held under another id comes last. -/
theorem entries_rekeyed
    {number : Nat}
    {old new : String}
    {template : Template}
    (present : session.template? number = some template)
    (free : new ∉ Table.names session.index) :
    (session.rekeyed old new number).entries =
      Table.remove session.entries old ++ [(new, template)] := by
  have absent : new ∉ Table.names (Table.remove session.index old) := by
    rw [Table.names_remove]
    exact fun member => free (List.mem_filter.1 member).1
  change (Table.put (Table.remove session.index old) new number).filterMap _ = _
  rw [Table.put_of_notMem absent, List.filterMap_append, ← entries_released session old]
  refine congrArg₂ _ rfl ?_
  simp only [List.filterMap_cons, List.filterMap_nil]
  rw [show (session.rekeyed old new number).template? number = some template from present]
  rfl

end Entries

end Session

end BroadcastGraphics
