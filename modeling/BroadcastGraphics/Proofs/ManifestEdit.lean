import BroadcastGraphics.Proofs.AcceptedRecords

/-!
# Edited manifests

An edit reads a manifest from its fields under their given names.  What comes of an edit has no
further member that carries a name of a field, and so another edit of one field changes that field
and nothing else.
-/

namespace BroadcastGraphics

open Checked

namespace Field

/-- Members renamed to given names do not carry the written name of a field that has another one. -/
theorem writtenName_notMem_byGivenName
    {fields : List Field}
    {field : Field}
    (isField : field ∈ fields)
    (otherNames : ∀ other ∈ fields, field.writtenName ≠ other.givenName)
    (members : Table Json) :
    field.writtenName ∉ Table.names (byGivenName fields members) := by
  rw [byGivenName_eq_foldl]
  have step : ∀ (rest renamed : Table Json), field.writtenName ∉ Table.names renamed ->
      field.writtenName ∉ Table.names (rest.foldl (fun renamed member =>
        Table.put renamed (givenNameOf fields member.1) member.2) renamed) := by
    intro rest
    induction rest with
    | nil => exact fun renamed absent => absent
    | cons member rest ih =>
      intro renamed absent
      refine ih _ ?_
      rw [Table.mem_names_put, not_or]
      refine ⟨?_, absent⟩
      rcases givenNameOf_cases fields member.1 with ⟨other, isOther, given⟩ | ⟨unknown, given⟩
      · rw [given]
        exact otherNames other isOther
      · rw [given]
        exact unknown field isField
  exact step members [] List.not_mem_nil

end Field

namespace Manifest

/-- No further member carries a name of a field, and no two of them have one name. -/
structure Clear (manifest : Manifest) : Prop where
  written : Field.Apart fields manifest.extras
  given : ∀ field ∈ fields, field.givenName ∉ Table.names manifest.extras
  distinct : Table.Distinct manifest.extras

/-- The fields under their given names. -/
def givenFields (manifest : Manifest) : Table Json :=
  (fields.map Field.givenName).zip manifest.fullValues

theorem names_givenFields
    (manifest : Manifest) :
    Table.names manifest.givenFields = fields.map Field.givenName :=
  rfl

theorem distinct_givenFields
    (manifest : Manifest) : Table.Distinct manifest.givenFields := by
  unfold Table.Distinct
  rw [names_givenFields]
  decide

/-- The given name of a field is the written name of no other. -/
theorem writtenName_ne_givenName :
    ∀ field ∈ fields, ∀ other ∈ fields,
      field.writtenName = other.givenName -> field.givenName = field.writtenName := by
  decide

/-- The members over which an edit has been written hold every field under its given name only. -/
theorem find?_edited
    {manifest : Manifest}
    (apart : Field.Apart fields manifest.extras)
    (updates : Table Json) :
    ∀ field ∈ fields,
      (field.find? (Table.merge manifest.givenMembers (Field.byGivenName fields updates))).map
        Prod.fst = some field.givenName := by
  intro field isField
  have present : Table.has (Table.merge manifest.givenMembers (Field.byGivenName fields updates))
      field.givenName = true := by
    rw [Table.has_iff_mem_names, Table.mem_names_merge]
    refine Or.inl ?_
    unfold givenMembers
    rw [Table.mem_names_merge]
    exact Or.inl (List.mem_map_of_mem isField)
  obtain ⟨value, found⟩ := Option.isSome_iff_exists.1 present
  by_cases onlyName : field.givenName = field.writtenName
  · rw [onlyName] at found
    rw [Field.find?_written found, onlyName]
    rfl
  · have otherNames : ∀ other ∈ fields, field.writtenName ≠ other.givenName :=
      fun other isOther same => onlyName (writtenName_ne_givenName field isField other isOther same)
    have absent : Table.get? (Table.merge manifest.givenMembers
        (Field.byGivenName fields updates)) field.writtenName = none := by
      rw [Table.get?_eq_none_iff, Table.mem_names_merge, not_or]
      refine ⟨?_, Field.writtenName_notMem_byGivenName isField otherNames updates⟩
      unfold givenMembers
      rw [Table.mem_names_merge, not_or]
      refine ⟨fun isGiven => ?_, apart field isField⟩
      change field.writtenName ∈ Table.names manifest.givenFields at isGiven
      rw [names_givenFields] at isGiven
      obtain ⟨other, isOther, same⟩ := List.mem_map.1 isGiven
      exact otherNames other isOther same.symm
    rw [Field.find?_given absent found]
    rfl

/-- What an edit reads has no further member under a name of a field. -/
theorem clear_of_edited
    {manifest edited : Manifest}
    {updates : Table Json}
    (apart : Field.Apart fields manifest.extras)
    (read : manifest.edited updates = .accepted edited) : edited.Clear := by
  obtain ⟨_, _, _, _, _, _, _, _, _, _, _, _, extras⟩ := (ofMembers_accepted_iff _ _).1 read
  have members : Table.Distinct
      (Table.merge manifest.givenMembers (Field.byGivenName fields updates)) :=
    (manifest.distinct_givenFields.merge manifest.extras).merge _
  constructor
  · rw [← extras]
    exact Field.apart_further _ _
  · intro field isField member
    rw [← extras] at member
    obtain ⟨entry, isFurther, named⟩ := List.mem_map.1 member
    obtain ⟨_, notFound⟩ := List.mem_filter.1 isFurther
    rw [Bool.not_eq_true', List.any_eq_false] at notFound
    refine notFound field isField ?_
    rw [find?_edited apart updates field isField, named]
    exact beq_self_eq_true _
  · rw [← extras]
    exact List.Nodup.sublist (List.filter_sublist.map Prod.fst) members

/-- An edit is written over the fields under their given names and the further members. -/
theorem givenMembers_eq_append
    {manifest : Manifest}
    (clear : manifest.Clear) :
    manifest.givenMembers = manifest.givenFields ++ manifest.extras := by
  refine Table.merge_eq_append clear.distinct fun name isExtra isGiven => ?_
  change name ∈ Table.names manifest.givenFields at isGiven
  rw [names_givenFields] at isGiven
  obtain ⟨field, isField, rfl⟩ := List.mem_map.1 isGiven
  exact clear.given field isField isExtra

/-- The fields that are written under another name than the given one. -/
def renamedFields : List Field :=
  [schemaUrlField, schemaField, supportsRealTimeField, supportsNonRealTimeField, stepCountField,
    customActionsField]

theorem get?_writtenName
    {manifest : Manifest}
    (clear : manifest.Clear) :
    ∀ field ∈ renamedFields,
      Table.get? (manifest.givenFields ++ manifest.extras) field.writtenName = none := by
  intro field isRenamed
  have isField : field ∈ fields := by
    revert field
    decide
  have otherName : field.writtenName ∉ fields.map Field.givenName := by
    revert field
    decide
  rw [Table.get?_eq_none_iff, Table.names, List.map_append, List.mem_append, not_or]
  exact ⟨otherName, clear.written field isField⟩

/-- A manifest is read from its fields under their given names and its further members. -/
theorem ofMembers_givenFields
    {manifest : Manifest}
    (valid : manifest.Valid)
    (clear : manifest.Clear) :
    ofMembers (manifest.givenFields ++ manifest.extras) = .accepted manifest := by
  have absent := get?_writtenName clear
  have actions : Check.list CustomAction.check
      (.arr (manifest.customActions.map fun action => .obj action.members)) =
        .accepted manifest.customActions := by
    refine (items_map (fun action member => CustomAction.check_members (valid.actions action member))
      0).trans ?_
    rw [List.map_id']
  simp only [renamedFields, List.forall_mem_cons] at absent
  obtain ⟨schemaUrl, schema, realTime, nonRealTime, steps, custom, _⟩ := absent
  refine (ofMembers_accepted_iff _ _).2 ⟨?_, ?_, ?_, ?_, ?_, ?_, ?_, ?_, ?_, ?_, ?_, ?_, ?_⟩
  · exact Field.withDefault_found (Field.find?_given schemaUrl rfl) rfl
  · exact Field.required_found (Field.find?_written rfl) (checkId_slug valid.id)
  · exact Field.withDefault_found (Field.find?_written rfl) rfl
  · exact Field.required_found (Field.find?_written rfl) rfl
  · exact Field.withDefault_found (Field.find?_written rfl) rfl
  · exact Field.withDefault_found (Field.find?_written rfl) (Author.check_toJson _)
  · exact Field.withDefault_found (Field.find?_written rfl) rfl
  · exact Field.withDefault_found (Field.find?_given schema rfl)
      (GraphicSchema.check_members valid.schema)
  · exact Field.withDefault_found (Field.find?_given realTime rfl) rfl
  · exact Field.withDefault_found (Field.find?_given nonRealTime rfl) rfl
  · exact Field.withDefault_found (Field.find?_given steps rfl) (checkStepCount_int valid.steps)
  · exact Field.withDefault_found (Field.find?_given custom rfl) actions
  · refine Field.further_append_named Field.givenName rfl ?_ clear.given
    have found := find?_edited clear.written []
    rw [givenMembers_eq_append clear] at found
    exact found

/-- An edit of the id of a manifest that has been edited before changes the id and nothing else. -/
theorem edited_id
    {manifest : Manifest}
    {id : String}
    (valid : manifest.Valid)
    (clear : manifest.Clear)
    (slug : Identifier.isSlug id = true) :
    manifest.edited [("id", .str id)] = .accepted { manifest with id := id } := by
  have renamed : Table.put (manifest.givenFields ++ manifest.extras) "id" (.str id) =
      givenFields { manifest with id := id } ++ manifest.extras := rfl
  have read := @ofMembers_givenFields { manifest with id := id }
    ⟨slug, valid.steps, valid.schema, valid.actions, valid.extras⟩
    ⟨clear.written, clear.given, clear.distinct⟩
  unfold edited
  rw [givenMembers_eq_append clear]
  exact (congrArg ofMembers renamed).trans read

end Manifest
end BroadcastGraphics
