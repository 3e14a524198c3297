import BroadcastGraphics.Json.Basic

/-!
# Standards for the texts and integers of a value

A standard says what the texts and the integers inside of values have to be.  A value meets it if all
of them do and no object has two members of one name.  What is taken out of values that meet a
standard, or put together from them, meets it as well.
-/

namespace BroadcastGraphics
namespace Json

/-- What the texts and the integers inside of a value have to be. -/
structure Standard where
  text : String -> Prop
  integer : Int -> Prop

mutual

/-- All texts and integers inside of the value are up to the standard, and no object has two members
of one name. -/
def Meets (standard : Standard) : Json -> Prop
  | int value => standard.integer value
  | str value => standard.text value
  | arr items => MeetsItems standard items
  | obj members => Table.Distinct members ∧ MeetsMembers standard members
  | _ => True

/-- Every item meets the standard. -/
def MeetsItems (standard : Standard) : List Json -> Prop
  | [] => True
  | item :: rest => Meets standard item ∧ MeetsItems standard rest

/-- Every name is up to the standard, and every value meets it. -/
def MeetsMembers (standard : Standard) : List (String × Json) -> Prop
  | [] => True
  | (name, value) :: rest =>
      standard.text name ∧ Meets standard value ∧ MeetsMembers standard rest

end

section Scalars

variable {standard : Standard}

@[simp] theorem meets_null : Meets standard .null := by
  rw [Meets]
  all_goals simp

@[simp] theorem meets_bool (value : Bool) : Meets standard (.bool value) := by
  rw [Meets]
  all_goals simp

@[simp] theorem meets_float (value : Binary64) : Meets standard (.float value) := by
  rw [Meets]
  all_goals simp

@[simp] theorem meets_int (value : Int) : Meets standard (.int value) ↔ standard.integer value := by
  rw [Meets]

@[simp] theorem meets_str (value : String) : Meets standard (.str value) ↔ standard.text value := by
  rw [Meets]

@[simp] theorem meets_arr (items : List Json) :
    Meets standard (.arr items) ↔ MeetsItems standard items := by
  rw [Meets]

end Scalars

section Tables

variable {standard : Standard}

theorem meetsItems_iff
    (items : List Json) :
    MeetsItems standard items ↔ ∀ item ∈ items, item.Meets standard := by
  induction items with
  | nil => simp [MeetsItems]
  | cons item rest ih => simp [MeetsItems, ih]

theorem meetsMembers_iff
    (members : Table Json) :
    MeetsMembers standard members ↔
      ∀ member ∈ members, standard.text member.1 ∧ member.2.Meets standard := by
  induction members with
  | nil => simp [MeetsMembers]
  | cons member rest ih => simp [MeetsMembers, ih, and_assoc]

/-- Every value of the members meets the standard, whatever their names are. -/
def MeetsValues (standard : Standard) (members : Table Json) : Prop :=
  ∀ member ∈ members, member.2.Meets standard

theorem MeetsMembers.values
    {members : Table Json}
    (meets : MeetsMembers standard members) : MeetsValues standard members :=
  fun member isThere => ((meetsMembers_iff members).1 meets member isThere).2

theorem MeetsValues.get?
    {members : Table Json}
    {name : String}
    {value : Json}
    (meets : MeetsValues standard members)
    (present : Table.get? members name = some value) : value.Meets standard :=
  meets _ (Table.mem_of_get? present)

theorem MeetsValues.put
    {members : Table Json}
    {value : Json}
    (meets : MeetsValues standard members)
    (name : String)
    (meetsValue : value.Meets standard) : MeetsValues standard (Table.put members name value) := by
  intro member isThere
  rcases Table.mem_put isThere with new | old
  · exact new ▸ meetsValue
  · exact meets member old

theorem MeetsValues.merge
    {members updates : Table Json}
    (meets : MeetsValues standard members)
    (meetsUpdates : MeetsValues standard updates) :
    MeetsValues standard (Table.merge members updates) := by
  induction updates generalizing members with
  | nil => exact meets
  | cons update rest ih =>
    exact ih (meets.put update.1 (meetsUpdates update List.mem_cons_self))
      fun member later => meetsUpdates member (List.mem_cons_of_mem _ later)

/-! ## Objects -/

theorem Meets.members
    {members : Table Json}
    (meets : Meets standard (.obj members)) : MeetsMembers standard members := by
  rw [Meets] at meets
  exact meets.2

theorem Meets.distinct
    {members : Table Json}
    (meets : Meets standard (.obj members)) : Table.Distinct members := by
  rw [Meets] at meets
  exact meets.1

theorem Meets.values
    {members : Table Json}
    (meets : Meets standard (.obj members)) : MeetsValues standard members :=
  meets.members.values

theorem meets_obj
    {members : Table Json}
    (distinct : Table.Distinct members)
    (each : ∀ member ∈ members, standard.text member.1 ∧ member.2.Meets standard) :
    Meets standard (.obj members) := by
  rw [Meets]
  exact ⟨distinct, (meetsMembers_iff members).2 each⟩

theorem Meets.each
    {members : Table Json}
    (meets : Meets standard (.obj members)) :
    ∀ member ∈ members, standard.text member.1 ∧ member.2.Meets standard :=
  (meetsMembers_iff members).1 meets.members

theorem meets_nil : Meets standard (.obj []) :=
  meets_obj List.nodup_nil fun _ member => nomatch member

/-- Members of an object chosen among others. -/
theorem Meets.sublist
    {members chosen : Table Json}
    (meets : Meets standard (.obj members))
    (among : chosen.Sublist members) : Meets standard (.obj chosen) :=
  meets_obj (List.Nodup.sublist (among.map Prod.fst) meets.distinct)
    fun member isThere => meets.each member (among.subset isThere)

theorem Meets.put
    {members : Table Json}
    {name : String}
    {value : Json}
    (meets : Meets standard (.obj members))
    (meetsName : standard.text name)
    (meetsValue : value.Meets standard) : Meets standard (.obj (Table.put members name value)) := by
  refine meets_obj (meets.distinct.put name value) fun member isThere => ⟨?_, ?_⟩
  · have named := Table.mem_names_of_mem isThere
    rw [Table.names_put] at named
    split at named
    · obtain ⟨old, isOld, same⟩ := List.mem_map.1 named
      exact same ▸ (meets.each old isOld).1
    · rcases List.mem_append.1 named with old | new
      · obtain ⟨old, isOld, same⟩ := List.mem_map.1 old
        exact same ▸ (meets.each old isOld).1
      · exact List.mem_singleton.1 new ▸ meetsName
  · exact meets.values.put name meetsValue member isThere

theorem Meets.remove
    {members : Table Json}
    (meets : Meets standard (.obj members))
    (name : String) : Meets standard (.obj (Table.remove members name)) :=
  meets_obj (meets.distinct.remove name)
    fun member isThere => meets.each member (Table.mem_of_mem_remove isThere)

theorem Meets.merge
    {members updates : Table Json}
    (meets : Meets standard (.obj members))
    (meetsUpdates : ∀ update ∈ updates, standard.text update.1 ∧ update.2.Meets standard) :
    Meets standard (.obj (Table.merge members updates)) := by
  induction updates generalizing members with
  | nil => exact meets
  | cons update rest ih =>
    have here := meetsUpdates update List.mem_cons_self
    exact ih (meets.put here.1 here.2)
      fun member later => meetsUpdates member (List.mem_cons_of_mem _ later)

/-- Fields under names of their own make an object. -/
theorem meets_zip
    {names : List String}
    {values : List Json}
    (distinct : names.Nodup)
    (enough : names.length ≤ values.length)
    (meetsNames : ∀ name ∈ names, standard.text name)
    (meetsItems : MeetsItems standard values) : Meets standard (.obj (names.zip values)) := by
  refine meets_obj ?_ fun member isThere => ?_
  · unfold Table.Distinct Table.names
    rw [List.map_fst_zip enough]
    exact distinct
  · exact ⟨meetsNames _ (List.of_mem_zip isThere).1,
      (meetsItems_iff values).1 meetsItems _ (List.of_mem_zip isThere).2⟩

end Tables

end Json
end BroadcastGraphics
