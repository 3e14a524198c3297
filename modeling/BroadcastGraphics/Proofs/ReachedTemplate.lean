import BroadcastGraphics.Proofs.ComponentCache
import BroadcastGraphics.Proofs.WrittenData

/-!
# Templates made from data

The templates that come of making or reading one from data in which no object has two members of one
name, and of copies and calls with such data.  They are valid, and what they hold has distinct names
as well.
-/

namespace BroadcastGraphics

open Json (Standard)

namespace Preset

/-- The styles of the elements of a preset name no property twice. -/
theorem distinct_style
    (kind : PresetKind) :
    ∀ element ∈ (ofKind kind).elements, Table.Distinct element.style := by
  cases kind <;> decide

end Preset

namespace Template

/-- The element holds data in which no object has two members of one name if its style has not. -/
theorem element_meets_any
    {element : Element}
    (distinct : Table.Distinct element.style) : element.Meets .any := by
  refine ⟨trivial, fun _ _ => trivial, Json.meets_obj ?_ fun member isThere => ?_⟩
  · unfold Table.Distinct Table.names Table.mapEntries
    rw [List.map_map]
    exact distinct
  · obtain ⟨entry, _, rfl⟩ := List.mem_map.1 isThere
    exact ⟨trivial, (Json.meets_str _).2 trivial⟩

/-- The schema and the actions of a preset, as values. -/
theorem preset_meets_any
    (kind : PresetKind) :
    Json.Meets .any (.obj (GraphicSchema.members ⟨"object", (Preset.ofKind kind).properties, []⟩)) ∧
      Json.MeetsItems .any ((Preset.ofKind kind).actions.map CustomAction.toJson) := by
  cases kind <;>
    simp [GraphicSchema.members, SchemaProperty.members, CustomAction.toJson, CustomAction.members,
      Json.finiteMembers, Json.finiteOnly, Json.presentMembers, Json.isNull,
      Preset.ofKind, Preset.lowerThird, Preset.title, Preset.bug, Preset.custom,
      Preset.slideActions, Preset.textProperty, Table.mapEntries, Table.Distinct, Table.names,
      Json.Meets, Json.MeetsMembers, Json.MeetsItems, Standard.any]

theorem meets_memberOrNull
    {standard : Standard}
    {members : Table Json}
    (meets : Json.MeetsValues standard members)
    (name : String) : (Json.memberOrNull members name).Meets standard := by
  unfold Json.memberOrNull
  cases present : Table.get? members name with
  | none => exact Json.meets_null
  | some value => exact meets.get? present

theorem meets_of_ofPreset
    {kind : PresetKind}
    {id name description : Json}
    {fields : Table Json}
    (meetsId : id.Meets .any)
    (meetsName : name.Meets .any)
    (meetsDescription : description.Meets .any)
    (meetsFields : Json.Meets .any (.obj fields))
    {template : Template}
    (made : ofPreset kind id name description fields = .ok template) : template.Meets .any := by
  unfold ofPreset at made
  dsimp only at made
  split at made
  · cases made
  · obtain ⟨manifest, read, made⟩ := ok_of_bind made
    cases made
    obtain ⟨schema, actions⟩ := preset_meets_any kind
    refine ⟨?_, fun element member => element_meets_any (Preset.distinct_style kind element member),
      by simp⟩
    refine Manifest.meets_of_ofMembers Json.Standard.closed_any ?_
      ((Checked.orInvalid_eq_ok _ _ _).1 read)
    refine Json.Meets.merge ?_ (meetsFields.remove "author").each
    have author : (if (Json.memberOrNull fields "author").isTruthy
        then Json.memberOrNull fields "author" else Author.toJson {}).Meets .any := by
      split
      · exact meets_memberOrNull meetsFields.values "author"
      · simp [Author.toJson, Json.Meets, Json.MeetsMembers, Table.Distinct, Standard.any]
    refine Json.meets_obj (by simp [Table.Distinct, Table.names]) ?_
    simp only [List.forall_mem_cons]
    exact ⟨⟨trivial, meetsId⟩, ⟨trivial, meetsName⟩, ⟨trivial, meetsDescription⟩,
      ⟨trivial, author⟩, ⟨trivial, schema⟩, ⟨trivial, (Json.meets_arr _).2 actions⟩,
      ⟨trivial, (Json.meets_int _).2 trivial⟩, List.forall_mem_nil _⟩

/-- The templates that come of data in which no object has two members of one name: of making or
reading one, and of copies and calls. -/
inductive Reached : Template -> Prop where
  | ofPreset {kind : PresetKind} {id name description : Json} {fields : Table Json}
      {template : Template} (meetsId : id.Meets .any) (meetsName : name.Meets .any)
      (meetsDescription : description.Meets .any) (meetsFields : Json.Meets .any (.obj fields))
      (made : Template.ofPreset kind id name description fields = .ok template) : Reached template
  | ofSnapshot {value : Json} {snapshot : Snapshot} (meets : value.Meets .any)
      (read : Snapshot.read value = .ok snapshot) : Reached (.ofSnapshot snapshot)
  | call {template : Template} (reached : Reached template) {request : Call}
      (meets : request.Meets .any) : Reached (template.run request).template
  | copy {template : Template} (reached : Reached template) : Reached template.copy

theorem Reached.built
    {template : Template}
    (reached : Reached template) : Built template := by
  induction reached with
  | ofPreset _ _ _ _ made => exact .ofPreset made
  | ofSnapshot _ read => exact .ofSnapshot read
  | call _ _ ih => exact .call ih _
  | copy _ ih => exact .copy ih

theorem Reached.valid
    {template : Template}
    (reached : Reached template) : template.Valid :=
  reached.built.valid

/-- What a reached template holds has no object with two members of one name. -/
theorem Reached.meets
    {template : Template}
    (reached : Reached template) : template.Meets .any := by
  induction reached with
  | ofPreset meetsId meetsName meetsDescription meetsFields made =>
    exact meets_of_ofPreset meetsId meetsName meetsDescription meetsFields made
  | ofSnapshot meets read =>
    have held := Snapshot.meets_of_read Standard.closed_any meets read
    exact ⟨held.manifest, held.elements, held.animation⟩
  | call _ meets ih => exact ih.run Standard.closed_any meets
  | copy _ ih => exact ⟨ih.manifest, ih.elements, ih.animation⟩

end Template
end BroadcastGraphics
