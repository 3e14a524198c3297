import BroadcastGraphics.Proofs.ClockReading
import BroadcastGraphics.Proofs.RecordWriting

/-!
# Accepted records are valid

What a check accepts is valid: ids are spelled as they have to be, geometry is finite, durations are
positive and steps are not negative, and no further member has the written name of a field.  So the
records that are read in, and those that edits write over others, can be written and read back.
-/

namespace BroadcastGraphics

open Checked

namespace Checked

variable {α : Type} {check : Json -> Checked α}

/-- Every item of an accepted list has been accepted by itself. -/
theorem exists_of_mem_items
    {list : List Json}
    {index : Nat}
    {values : List α}
    (accepted : items check index list = .accepted values) :
    ∀ value ∈ values, ∃ item ∈ list, check item = .accepted value := by
  induction list generalizing index values with
  | nil =>
    cases accepted
    exact fun _ member => nomatch member
  | cons item rest ih =>
    obtain ⟨_, others, mapped, othersAccepted, rfl⟩ := (seq_accepted_iff _ _ _).1 accepted
    obtain ⟨first, checked, rfl⟩ := (map_accepted_iff _ _ _).1 mapped
    intro value member
    rcases List.mem_cons.1 member with rfl | later
    · exact ⟨item, List.mem_cons_self, (under_accepted_iff _ _ _).1 checked⟩
    · obtain ⟨item, member, checked⟩ := ih othersAccepted value later
      exact ⟨item, List.mem_cons_of_mem _ member, checked⟩

/-- Accepted entries keep their names. -/
theorem names_of_entries
    {table : Table Json}
    {values : Table α}
    (accepted : entries check table = .accepted values) :
    Table.names values = Table.names table := by
  induction table generalizing values with
  | nil =>
    cases accepted
    rfl
  | cons entry rest ih =>
    obtain ⟨_, others, mapped, othersAccepted, rfl⟩ := (seq_accepted_iff _ _ _).1 accepted
    obtain ⟨first, _, rfl⟩ := (map_accepted_iff _ _ _).1 mapped
    exact congrArg (entry.1 :: ·) (ih othersAccepted)

/-- Every entry of an accepted table has been accepted by itself. -/
theorem exists_of_mem_entries
    {table : Table Json}
    {values : Table α}
    (accepted : entries check table = .accepted values) :
    ∀ entry ∈ values, ∃ value, (entry.1, value) ∈ table ∧ check value = .accepted entry.2 := by
  induction table generalizing values with
  | nil =>
    cases accepted
    exact fun _ member => nomatch member
  | cons first rest ih =>
    obtain ⟨_, others, mapped, othersAccepted, rfl⟩ := (seq_accepted_iff _ _ _).1 accepted
    obtain ⟨inner, checked, rfl⟩ := (map_accepted_iff _ _ _).1 mapped
    intro entry member
    rcases List.mem_cons.1 member with rfl | later
    · exact ⟨first.2, List.mem_cons_self, (under_accepted_iff _ _ _).1 checked⟩
    · obtain ⟨value, member, checked⟩ := ih othersAccepted entry later
      exact ⟨value, List.mem_cons_of_mem _ member, checked⟩

end Checked

namespace Field

variable {α : Type} {field : Field} {members : Table Json} {check : Json -> Checked α}

/-- What holds of the default and of all that is accepted holds of a field with a default. -/
theorem holds_of_withDefault
    (Holds : α -> Prop)
    {default result : α}
    (accepted : field.withDefault default check members = .accepted result)
    (atDefault : Holds default)
    (checked : ∀ name value, Table.get? members name = some value ->
      check value = .accepted result -> Holds result) : Holds result := by
  rcases withDefault_accepted accepted with rfl | ⟨name, value, found, isAccepted⟩
  · exact atDefault
  · exact checked name value (get?_of_find? found).1 isAccepted

/-- What holds of all that is accepted holds of a field that has to be there. -/
theorem holds_of_required
    (Holds : α -> Prop)
    {result : α}
    (accepted : field.required check members = .accepted result)
    (checked : ∀ name value, Table.get? members name = some value ->
      check value = .accepted result -> Holds result) : Holds result := by
  unfold required at accepted
  cases found : field.find? members with
  | none =>
    rw [found] at accepted
    cases accepted
  | some member =>
    rw [found] at accepted
    exact checked member.1 member.2 (get?_of_find? found).1 ((under_accepted_iff _ _ _).1 accepted)

end Field

namespace Check

variable {α : Type} {check : Json -> Checked α} {value : Json}

theorem exists_of_list
    {values : List α}
    (accepted : list check value = .accepted values) :
    ∃ items, value = .arr items ∧ Checked.items check 0 items = .accepted values := by
  cases value with
  | arr items => exact ⟨items, rfl, accepted⟩
  | _ => cases accepted

theorem exists_of_mapping
    {values : Table α}
    (accepted : mapping check value = .accepted values) :
    ∃ members, value = .obj members ∧ Checked.entries check members = .accepted values := by
  cases value with
  | obj members => exact ⟨members, rfl, accepted⟩
  | _ => cases accepted

/-- What is accepted where nothing may stand is nothing or accepted by itself. -/
theorem optional_accepted
    {result : Option α}
    (accepted : optional check value = .accepted result) :
    result = none ∨ ∃ inner, result = some inner ∧ check value = .accepted inner := by
  have checked : ∀ value, some <$> check value = .accepted result ->
      result = none ∨ ∃ inner, result = some inner ∧ check value = .accepted inner := by
    intro value accepted
    obtain ⟨inner, isAccepted, same⟩ := (map_accepted_iff _ _ _).1 accepted
    exact Or.inr ⟨inner, same.symm, isAccepted⟩
  cases value with
  | null => exact Or.inl (Checked.accepted.inj accepted).symm
  | _ => exact checked _ accepted

/-- A text is accepted as it is. -/
theorem eq_str_of_text
    {text : String}
    (accepted : Check.text value = .accepted text) : value = .str text := by
  cases value with
  | str other => rw [Checked.accepted.inj accepted]
  | _ => cases accepted

/-- A filled text is accepted as it is. -/
theorem eq_str_of_filledText
    {text : String}
    (accepted : filledText value = .accepted text) : value = .str text := by
  obtain ⟨inner, isText, accepted⟩ := (andThen_accepted_iff _ _ _).1 accepted
  unfold reading at accepted
  split at accepted
  · cases accepted
  · dsimp only at accepted
    split at accepted
    · cases accepted
    · exact Checked.accepted.inj accepted ▸ eq_str_of_text isText

theorem isFinite_of_finiteNumber
    {number : Binary64}
    (accepted : finiteNumber value = .accepted number) : number.isFinite = true := by
  obtain ⟨inner, _, accepted⟩ := (andThen_accepted_iff _ _ _).1 accepted
  split at accepted
  · rename_i finite
    exact Checked.accepted.inj accepted ▸ finite
  · cases accepted

theorem pos_of_positiveInteger
    {number : Int}
    (accepted : positiveInteger value = .accepted number) : 0 < number := by
  obtain ⟨inner, _, accepted⟩ := (andThen_accepted_iff _ _ _).1 accepted
  split at accepted
  · rename_i positive
    exact Checked.accepted.inj accepted ▸ positive
  · cases accepted

end Check

/-! ## Manifests -/

theorem SchemaProperty.valid_of_ofMembers
    {members : Table Json}
    {property : SchemaProperty}
    (accepted : SchemaProperty.ofMembers members = .accepted property) : property.Valid := by
  obtain ⟨_, _, _, extras⟩ := (SchemaProperty.ofMembers_accepted_iff _ _).1 accepted
  unfold SchemaProperty.Valid
  rw [← extras]
  exact Field.apart_further _ _

theorem CustomAction.valid_of_ofMembers
    {members : Table Json}
    {action : CustomAction}
    (accepted : CustomAction.ofMembers members = .accepted action) : action.Valid := by
  obtain ⟨_, _, _, extras⟩ := (CustomAction.ofMembers_accepted_iff _ _).1 accepted
  unfold CustomAction.Valid
  rw [← extras]
  exact Field.apart_further _ _

theorem GraphicSchema.valid_of_ofMembers
    {members : Table Json}
    {schema : GraphicSchema}
    (accepted : GraphicSchema.ofMembers members = .accepted schema) : schema.Valid := by
  obtain ⟨_, properties, extras⟩ := (GraphicSchema.ofMembers_accepted_iff _ _).1 accepted
  constructor
  · rw [← extras]
    exact Field.apart_further _ _
  · refine Field.holds_of_withDefault (fun properties => ∀ entry ∈ properties, entry.2.Valid)
      properties (fun _ member => nomatch member) ?_
    intro name value _ checked entry member
    obtain ⟨table, _, checked⟩ := Check.exists_of_mapping checked
    obtain ⟨value, _, checked⟩ := exists_of_mem_entries checked entry member
    obtain ⟨_, _, read⟩ := (Check.record_accepted_iff _ _ _ _).1 checked
    exact SchemaProperty.valid_of_ofMembers read

namespace Manifest

theorem isSlug_of_checkId
    {value : Json}
    {id : String}
    (accepted : checkId value = .accepted id) : Identifier.isSlug id = true := by
  obtain ⟨inner, _, accepted⟩ := (andThen_accepted_iff _ _ _).1 accepted
  split at accepted
  · rename_i slug
    exact Checked.accepted.inj accepted ▸ slug
  · cases accepted

theorem nonneg_of_checkStepCount
    {value : Json}
    {count : Int}
    (accepted : checkStepCount value = .accepted count) : 0 ≤ count := by
  obtain ⟨inner, _, accepted⟩ := (andThen_accepted_iff _ _ _).1 accepted
  split at accepted
  · cases accepted
  · rename_i nonneg
    exact Checked.accepted.inj accepted ▸ Int.not_lt.1 nonneg

/-- A manifest that is read in is valid. -/
theorem valid_of_ofMembers
    {members : Table Json}
    {manifest : Manifest}
    (accepted : ofMembers members = .accepted manifest) : manifest.Valid := by
  obtain ⟨_, id, _, _, _, _, _, schema, _, _, steps, actions, extras⟩ :=
    (ofMembers_accepted_iff _ _).1 accepted
  constructor
  · exact Field.holds_of_required (Identifier.isSlug · = true) id fun _ _ _ => isSlug_of_checkId
  · exact Field.holds_of_withDefault (0 ≤ ·) steps (by decide) fun _ _ _ => nonneg_of_checkStepCount
  · refine Field.holds_of_withDefault GraphicSchema.Valid schema ?_ fun _ _ _ checked => ?_
    · exact ⟨fun _ _ => List.not_mem_nil, fun _ member => nomatch member⟩
    · obtain ⟨_, _, read⟩ := (Check.record_accepted_iff _ _ _ _).1 checked
      exact GraphicSchema.valid_of_ofMembers read
  · refine Field.holds_of_withDefault (fun actions => ∀ action ∈ actions, action.Valid) actions
      (fun _ member => nomatch member) ?_
    intro _ _ _ checked action member
    obtain ⟨_, _, checked⟩ := Check.exists_of_list checked
    obtain ⟨_, _, checked⟩ := exists_of_mem_items checked action member
    obtain ⟨_, _, read⟩ := (Check.record_accepted_iff _ _ _ _).1 checked
    exact CustomAction.valid_of_ofMembers read
  · rw [← extras]
    exact Field.apart_further _ _

end Manifest

/-! ## Elements, settings and snapshots -/

/-- A whole number of a size that is represented exactly is finite. -/
theorem Binary64.isFinite_ofInt
    {value : Int}
    (small : value.natAbs ≤ 2 ^ 53) : (ofInt value).isFinite = true := by
  obtain ⟨_, _, isFinite⟩ := ofInt_eq_finite small
  rw [isFinite]
  rfl

namespace Element

theorem eq_str_of_checkId
    {id : String}
    {value : Json}
    (accepted : checkId value = .accepted id) : value = .str id := by
  obtain ⟨inner, filled, accepted⟩ := (andThen_accepted_iff _ _ _).1 accepted
  split at accepted
  · cases accepted
    exact Check.eq_str_of_filledText filled
  · cases accepted

theorem isElementId_of_checkId
    {value : Json}
    {id : String}
    (accepted : checkId value = .accepted id) : Identifier.isElementId id = true := by
  obtain ⟨inner, _, accepted⟩ := (andThen_accepted_iff _ _ _).1 accepted
  split at accepted
  · rename_i isId
    exact Checked.accepted.inj accepted ▸ isId
  · cases accepted

/-- The id of an element that is read in is the member of that name. -/
theorem id_of_ofMembers
    {members : Table Json}
    {element : Element}
    (accepted : ofMembers members = .accepted element) :
    Table.get? members "id" = some (.str element.id) := by
  obtain ⟨id, _⟩ := (ofMembers_accepted_iff _ _).1 accepted
  obtain ⟨value, present, checked⟩ := (Field.required_plain_accepted_iff _ _ _ _).1 id
  rw [present, eq_str_of_checkId checked]

/-- An element that is read in is valid. -/
theorem valid_of_ofMembers
    {members : Table Json}
    {element : Element}
    (accepted : ofMembers members = .accepted element) : element.Valid := by
  obtain ⟨id, _, x, y, width, height, _⟩ := (ofMembers_accepted_iff _ _).1 accepted
  have finite : ∀ {name : String} {default number : Binary64},
      (Field.plain name).withDefault default Check.finiteNumber members = .accepted number ->
        default.isFinite = true -> number.isFinite = true := fun read atDefault =>
    Field.holds_of_withDefault (Binary64.isFinite · = true) read atDefault
      fun _ _ _ => Check.isFinite_of_finiteNumber
  constructor
  · exact Field.holds_of_required (Identifier.isElementId · = true) id
      fun _ _ _ => isElementId_of_checkId
  · exact finite x rfl
  · exact finite y rfl
  · exact finite width (Binary64.isFinite_ofInt (by decide))
  · exact finite height (Binary64.isFinite_ofInt (by decide))

end Element

namespace AnimationSettings

/-- Settings that are read in are valid. -/
theorem valid_of_ofMembers
    {members : Table Json}
    {settings : AnimationSettings}
    (accepted : ofMembers members = .accepted settings) : settings.Valid := by
  obtain ⟨slideIn, slideOut, _⟩ := (ofMembers_accepted_iff _ _).1 accepted
  constructor
  · exact Field.holds_of_withDefault (0 < ·) slideIn (by decide)
      fun _ _ _ => Check.pos_of_positiveInteger
  · exact Field.holds_of_withDefault (0 < ·) slideOut (by decide)
      fun _ _ _ => Check.pos_of_positiveInteger

theorem valid_of_check
    {value : Json}
    {settings : AnimationSettings}
    (accepted : check value = .accepted settings) : settings.Valid := by
  obtain ⟨_, _, read⟩ := (Check.record_accepted_iff _ _ _ _).1 accepted
  exact valid_of_ofMembers read

theorem valid_of_optional_check
    {value : Json}
    {settings? : Option AnimationSettings}
    (accepted : Check.optional check value = .accepted settings?) :
    ∀ settings ∈ settings?, settings.Valid := by
  intro settings isThere
  rcases Check.optional_accepted accepted with rfl | ⟨inner, rfl, checked⟩
  · cases isThere
  · cases isThere
    exact valid_of_check checked

end AnimationSettings

namespace Snapshot

/-- Elements that are read in together are valid, and their ids are distinct. -/
theorem valid_of_checkElements
    {value : Json}
    {elements : List Element}
    (accepted : checkElements value = .accepted elements) :
    (∀ element ∈ elements, element.Valid) ∧ (elements.map Element.id).Nodup := by
  obtain ⟨inner, checked, accepted⟩ := (andThen_accepted_iff _ _ _).1 accepted
  cases found : duplicateId? [] inner with
  | some id =>
    rw [found] at accepted
    cases accepted
  | none =>
    rw [found] at accepted
    cases accepted
    refine ⟨fun element member => ?_, ((duplicateId?_eq_none_iff _ _).1 found).1⟩
    obtain ⟨_, _, checked⟩ := Check.exists_of_list checked
    obtain ⟨_, _, checked⟩ := exists_of_mem_items checked element member
    obtain ⟨_, _, read⟩ := (Check.record_accepted_iff _ _ _ _).1 checked
    exact Element.valid_of_ofMembers read

/-- A snapshot that is read in is valid. -/
theorem valid_of_read
    {value : Json}
    {snapshot : Snapshot}
    (accepted : read value = .ok snapshot) : snapshot.Valid := by
  obtain ⟨members, _, accepted⟩ :=
    (Check.record_accepted_iff _ _ _ _).1 ((orInvalid_eq_ok _ _ _).1 accepted)
  obtain ⟨manifest, elements, animation, _⟩ := (ofMembers_accepted_iff _ _).1 accepted
  have elementsValid := Field.holds_of_withDefault
    (fun elements => (∀ element ∈ elements, element.Valid) ∧ (elements.map Element.id).Nodup)
    elements (And.intro (fun _ member => nomatch member) List.nodup_nil)
    fun _ _ _ => valid_of_checkElements
  constructor
  · refine Field.holds_of_required Manifest.Valid manifest fun _ _ _ checked => ?_
    obtain ⟨_, _, read⟩ := (Check.record_accepted_iff _ _ _ _).1 checked
    exact Manifest.valid_of_ofMembers read
  · exact elementsValid.1
  · exact elementsValid.2
  · exact Field.holds_of_withDefault (fun animation => ∀ settings ∈ animation, settings.Valid)
      animation (fun _ isThere => nomatch isThere) fun _ _ _ => AnimationSettings.valid_of_optional_check

end Snapshot

end BroadcastGraphics
