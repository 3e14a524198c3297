/-!
# Ordered tables

A table is a list of named entries in the order in which the names first came.  Writing under a
name that is present replaces its entry in place; writing under a new name appends; removing and
writing again moves the name to the end.
-/

namespace BroadcastGraphics

/-- Named entries in the order in which their names first came. -/
abbrev Table (α : Type) := List (String × α)

namespace Table

variable {α β : Type}

/-- The names of a table, in order. -/
def names (table : Table α) : List String :=
  table.map Prod.fst

/-- The entry under a name. -/
def get? : Table α -> String -> Option α
  | [], _ => none
  | (key, value) :: rest, name => if key = name then some value else get? rest name

/-- A name has an entry. -/
def has (table : Table α) (name : String) : Bool :=
  (get? table name).isSome

/-- Write an entry: in place if the name is present, at the end otherwise. -/
def put : Table α -> String -> α -> Table α
  | [], name, value => [(name, value)]
  | (key, old) :: rest, name, value =>
      if key = name then (key, value) :: rest else (key, old) :: put rest name value

/-- Remove the entry under a name. -/
def remove : Table α -> String -> Table α
  | [], _ => []
  | (key, value) :: rest, name =>
      if key = name then remove rest name else (key, value) :: remove rest name

/-- Write every entry of a second table into the first, later entries winning. -/
def merge (table updates : Table α) : Table α :=
  updates.foldl (fun written entry => put written entry.1 entry.2) table

/-- Change every entry, keeping names and order. -/
def mapEntries (change : α -> β) (table : Table α) : Table β :=
  table.map fun entry => (entry.1, change entry.2)

/-- No name occurs twice. -/
def Distinct (table : Table α) : Prop :=
  (names table).Nodup

instance (table : Table α) : Decidable (Distinct table) :=
  inferInstanceAs (Decidable (names table).Nodup)

theorem distinct_nil : Distinct ([] : Table α) :=
  List.nodup_nil

@[simp] theorem get?_nil (name : String) : get? ([] : Table α) name = none := rfl

@[simp] theorem names_nil : names ([] : Table α) = [] := rfl

@[simp] theorem names_cons (entry : String × α) (rest : Table α) :
    names (entry :: rest) = entry.1 :: names rest := rfl

/-- Reading after a write gives the written entry, and leaves the other names alone. -/
theorem get?_put (table : Table α) (name other : String) (value : α) :
    get? (put table name value) other = if name = other then some value else get? table other := by
  induction table with
  | nil => rfl
  | cons entry rest ih =>
    obtain ⟨key, old⟩ := entry
    by_cases here : key = name
    · subst here
      by_cases there : key = other <;> simp [put, get?, there]
    · by_cases there : key = other
      · subst there
        simp [put, get?, here, Ne.symm here]
      · simp [put, get?, here, there, ih]

/-- Reading after a removal finds nothing under the removed name and the rest unchanged. -/
theorem get?_remove (table : Table α) (name other : String) :
    get? (remove table name) other = if name = other then none else get? table other := by
  induction table with
  | nil => simp [remove, get?]
  | cons entry rest ih =>
    obtain ⟨key, old⟩ := entry
    by_cases here : key = name
    · subst here
      by_cases there : key = other <;> simp_all [remove, get?]
    · by_cases there : key = other
      · subst there
        simp [remove, get?, here, Ne.symm here]
      · simp [remove, get?, here, there, ih]

/-- A name has an entry exactly when it is among the names. -/
theorem has_iff_mem_names (table : Table α) (name : String) :
    has table name = true ↔ name ∈ names table := by
  induction table with
  | nil => simp [has]
  | cons entry rest ih =>
    obtain ⟨key, old⟩ := entry
    unfold has at ih
    by_cases here : key = name
    · simp [has, get?, here]
    · simp [has, get?, here, Ne.symm here, ih]

/-- A write keeps the names, with the new name appended if it was absent. -/
theorem names_put (table : Table α) (name : String) (value : α) :
    names (put table name value) =
      if name ∈ names table then names table else names table ++ [name] := by
  induction table with
  | nil => simp [put]
  | cons entry rest ih =>
    obtain ⟨key, old⟩ := entry
    by_cases here : key = name
    · simp [put, here]
    · by_cases inRest : name ∈ names rest <;> simp_all [put, eq_comm]

/-- A removal keeps the other names in their order. -/
theorem names_remove (table : Table α) (name : String) :
    names (remove table name) = (names table).filter fun key => key ≠ name := by
  induction table with
  | nil => rfl
  | cons entry rest ih =>
    by_cases here : entry.1 = name <;> simp_all [remove, names]

/-- A write keeps names distinct. -/
theorem Distinct.put {table : Table α} (distinct : Distinct table) (name : String) (value : α) :
    Distinct (Table.put table name value) := by
  unfold Distinct at *
  rw [names_put]
  split
  · exact distinct
  · rename_i absent
    exact List.nodup_append.2 ⟨distinct, by simp, by
      intro key member other single
      rintro rfl
      simp_all⟩

/-- A removal keeps names distinct. -/
theorem Distinct.remove {table : Table α} (distinct : Distinct table) (name : String) :
    Distinct (Table.remove table name) := by
  unfold Distinct at *
  rw [names_remove]
  exact distinct.filter _

/-- A name without an entry is not among the names. -/
theorem get?_eq_none_iff (table : Table α) (name : String) :
    get? table name = none ↔ name ∉ names table := by
  rw [← has_iff_mem_names]
  simp [has]

/-- A write under a new name appends. -/
theorem put_of_notMem {table : Table α} {name : String} (absent : name ∉ names table) (value : α) :
    put table name value = table ++ [(name, value)] := by
  induction table with
  | nil => rfl
  | cons entry rest ih =>
    obtain ⟨key, old⟩ := entry
    rw [names_cons, List.mem_cons, not_or] at absent
    rw [put, if_neg (Ne.symm absent.1), ih absent.2, List.cons_append]

/-- Writing what is there changes nothing. -/
theorem put_of_get? {table : Table α} {name : String} {value : α}
    (present : get? table name = some value) : put table name value = table := by
  induction table with
  | nil => cases present
  | cons entry rest ih =>
    obtain ⟨key, old⟩ := entry
    by_cases here : key = name
    · rw [get?, if_pos here] at present
      rw [put, if_pos here, Option.some.inj present]
    · rw [get?, if_neg here] at present
      rw [put, if_neg here, ih present]

/-- Removing a name that is absent changes nothing. -/
theorem remove_of_notMem {table : Table α} {name : String} (absent : name ∉ names table) :
    remove table name = table := by
  induction table with
  | nil => rfl
  | cons entry rest ih =>
    rw [names_cons, List.mem_cons, not_or] at absent
    rw [remove, if_neg (Ne.symm absent.1), ih absent.2]

/-- With distinct names, what follows an entry has other names than the entries before it. -/
theorem Distinct.notMem_of_append {before after : Table α} {name : String} {value : α}
    (distinct : Distinct (before ++ (name, value) :: after)) : name ∉ names before := by
  intro member
  unfold Distinct names at distinct
  rw [List.map_append, List.nodup_append] at distinct
  exact distinct.2.2 name member name List.mem_cons_self rfl

theorem notMem_names_remove (table : Table α) (name : String) :
    name ∉ names (remove table name) := by
  simp [names_remove]

/-- A write and the removal of the written name leave the other entries. -/
theorem remove_put (table : Table α) (name : String) (value : α) :
    remove (put table name value) name = remove table name := by
  induction table with
  | nil => simp [put, remove]
  | cons entry rest ih =>
    by_cases here : entry.1 = name <;> simp [put, remove, here, ih]

/-- The entries of a table after a write are the written one and old ones. -/
theorem mem_put {table : Table α} {name : String} {value : α} {entry : String × α}
    (member : entry ∈ put table name value) : entry.2 = value ∨ entry ∈ table := by
  induction table with
  | nil =>
    rw [put, List.mem_singleton] at member
    exact Or.inl (by rw [member])
  | cons first rest ih =>
    rw [put] at member
    split at member
    · rcases List.mem_cons.1 member with here | later
      · exact Or.inl (by rw [here])
      · exact Or.inr (List.mem_cons_of_mem _ later)
    · rcases List.mem_cons.1 member with here | later
      · exact Or.inr (here ▸ List.mem_cons_self)
      · exact (ih later).imp_right (List.mem_cons_of_mem _)

/-- The entries of a table after a removal were there before. -/
theorem mem_of_mem_remove {table : Table α} {name : String} {entry : String × α}
    (member : entry ∈ remove table name) : entry ∈ table := by
  induction table with
  | nil => exact member
  | cons first rest ih =>
    rw [remove] at member
    split at member
    · exact List.mem_cons_of_mem _ (ih member)
    · rcases List.mem_cons.1 member with here | later
      · exact here ▸ List.mem_cons_self
      · exact List.mem_cons_of_mem _ (ih later)

theorem mem_names_of_mem {table : Table α} {entry : String × α} (member : entry ∈ table) :
    entry.1 ∈ names table :=
  List.mem_map_of_mem member

theorem mem_of_get? {table : Table α} {name : String} {value : α}
    (present : get? table name = some value) : (name, value) ∈ table := by
  induction table with
  | nil => cases present
  | cons entry rest ih =>
    rw [get?] at present
    split at present
    · rename_i here
      cases present
      exact here ▸ List.mem_cons_self
    · exact List.mem_cons_of_mem _ (ih present)

/-- With distinct names, an entry is the one that is found under its name. -/
theorem get?_of_mem {table : Table α} {name : String} {value : α} (distinct : Distinct table)
    (member : (name, value) ∈ table) : get? table name = some value := by
  induction table with
  | nil => cases member
  | cons entry rest ih =>
    obtain ⟨first, others⟩ := List.nodup_cons.1 distinct
    rw [get?]
    rcases List.mem_cons.1 member with here | later
    · rw [← here, if_pos rfl]
    · rw [if_neg, ih others later]
      exact fun same => first (same ▸ mem_names_of_mem later)

theorem mem_names_put
    (table : Table α)
    (name other : String)
    (value : α) :
    other ∈ names (put table name value) ↔ other = name ∨ other ∈ names table := by
  rw [names_put]
  split
  · rename_i present
    constructor
    · exact Or.inr
    · rintro (rfl | member)
      · exact present
      · exact member
  · rw [List.mem_append, List.mem_singleton]
    exact or_comm

theorem mem_names_merge
    (table updates : Table α)
    (other : String) :
    other ∈ names (merge table updates) ↔ other ∈ names table ∨ other ∈ names updates := by
  unfold merge
  induction updates generalizing table with
  | nil => simp
  | cons update rest ih =>
    rw [List.foldl_cons, ih, mem_names_put, names_cons, List.mem_cons]
    constructor
    · rintro ((here | old) | later)
      · exact Or.inr (Or.inl here)
      · exact Or.inl old
      · exact Or.inr (Or.inr later)
    · rintro (old | here | later)
      · exact Or.inl (Or.inr old)
      · exact Or.inl (Or.inl here)
      · exact Or.inr later

theorem Distinct.merge
    {table : Table α}
    (distinct : Distinct table)
    (updates : Table α) : Distinct (Table.merge table updates) := by
  unfold Table.merge
  induction updates generalizing table with
  | nil => exact distinct
  | cons update rest ih => exact ih (distinct.put update.1 update.2)

/-- Reading after some writes under distinct names gives what was written, if something was. -/
theorem get?_merge
    {updates : Table α}
    (distinct : Distinct updates)
    (table : Table α)
    (name : String) :
    get? (merge table updates) name = (get? updates name).or (get? table name) := by
  unfold merge
  induction updates generalizing table with
  | nil => rfl
  | cons update rest ih =>
    obtain ⟨first, others⟩ := List.nodup_cons.1 distinct
    rw [List.foldl_cons, ih others, get?_put, get?]
    split
    · rename_i here
      rw [(get?_eq_none_iff rest name).2 (here ▸ first)]
      rfl
    · rfl

/-- Writes under other names leave an entry alone. -/
theorem get?_merge_of_notMem
    {updates : Table α}
    {name : String}
    (absent : name ∉ names updates)
    (table : Table α) : get? (merge table updates) name = get? table name := by
  unfold merge
  induction updates generalizing table with
  | nil => rfl
  | cons update rest ih =>
    rw [names_cons, List.mem_cons, not_or] at absent
    rw [List.foldl_cons, ih absent.2, get?_put, if_neg (Ne.symm absent.1)]

/-- Entries under new names are written behind the others. -/
theorem merge_eq_append
    {table updates : Table α}
    (distinct : Distinct updates)
    (apart : ∀ name ∈ names updates, name ∉ names table) :
    merge table updates = table ++ updates := by
  unfold merge
  induction updates generalizing table with
  | nil => exact (List.append_nil table).symm
  | cons update rest ih =>
    obtain ⟨first, others⟩ := List.nodup_cons.1 distinct
    rw [List.foldl_cons, put_of_notMem (apart update.1 List.mem_cons_self)]
    rw [ih others fun name member => ?_]
    · simp
    · rw [names, List.map_append, List.mem_append, not_or]
      refine ⟨apart name (List.mem_cons_of_mem _ member), fun single => ?_⟩
      exact first (List.mem_singleton.1 single ▸ member)

end Table
end BroadcastGraphics
