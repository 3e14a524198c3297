import BroadcastGraphics.Proofs.AcceptedRecords
import BroadcastGraphics.Proofs.FreshNames
import BroadcastGraphics.Proofs.ImportPolicy
import BroadcastGraphics.Proofs.TemplateEdit

/-!
# Edits keep templates valid

A template that is made from a preset or read from a snapshot is valid: its element ids are distinct,
and every field passes the check by which it was read.  Whatever edits are tried on it, it stays
valid.  Its snapshot can therefore always be taken, and what is written is read again; it is written
exactly when none of the values that can be anything has too many levels.
-/

namespace BroadcastGraphics
namespace Template

/-- What a template holds passes the checks of a snapshot. -/
def Valid (template : Template) : Prop :=
  template.snapshot.Valid

/-! ## Starting points -/

theorem valid_of_read
    {value : Json}
    {snapshot : Snapshot}
    (read : Snapshot.read value = .ok snapshot) : (ofSnapshot snapshot).Valid :=
  Snapshot.valid_of_read read

theorem placed_valid
    {id : String}
    (kind : ElementKind)
    {x y width height : Int}
    (content : Option String)
    (style : Table String)
    (isId : Identifier.isElementId id = true)
    (near : ∀ value ∈ [x, y, width, height], value.natAbs ≤ 2 ^ 53) :
    (Preset.placed id kind x y width height content style).Valid := by
  have finite : ∀ value ∈ [x, y, width, height], (Binary64.ofInt value).isFinite = true :=
    fun value member => Binary64.isFinite_ofInt (near value member)
  simp only [List.forall_mem_cons, List.not_mem_nil, false_implies, implies_true, and_true] at finite
  obtain ⟨ofX, ofY, ofWidth, ofHeight⟩ := finite
  refine ⟨isId, ?_, ?_, ?_, ?_⟩
  all_goals simp only [Preset.placed, ofX, ofY, ofWidth, ofHeight]

/-- The elements of a preset are valid, and their ids are distinct. -/
theorem preset_elements_valid
    (kind : PresetKind) :
    (∀ element ∈ (Preset.ofKind kind).elements, element.Valid) ∧
      ((Preset.ofKind kind).elements.map Element.id).Nodup := by
  refine ⟨fun element member => ?_, by cases kind <;> decide⟩
  cases kind <;>
    simp only [Preset.ofKind, Preset.lowerThird, Preset.lowerThirdBackground, Preset.title,
      Preset.bug, Preset.custom, List.mem_cons, List.not_mem_nil, or_false] at member
  case lowerThird => rcases member with rfl | rfl | rfl <;> exact placed_valid _ _ _ rfl (by decide)
  case title => rcases member with rfl | rfl | rfl <;> exact placed_valid _ _ _ rfl (by decide)
  case bug => rcases member with rfl | rfl <;> exact placed_valid _ _ _ rfl (by decide)
  case custom => exact member ▸ placed_valid _ _ _ rfl (by decide)

theorem valid_of_ofPreset
    {kind : PresetKind}
    {id name description : Json}
    {fields : Table Json}
    {template : Template}
    (made : ofPreset kind id name description fields = .ok template) : template.Valid := by
  unfold ofPreset at made
  dsimp only at made
  split at made
  · cases made
  · obtain ⟨manifest, read, made⟩ := ok_of_bind made
    cases made
    exact ⟨Manifest.valid_of_ofMembers ((Checked.orInvalid_eq_ok _ _ _).1 read),
      (preset_elements_valid kind).1, (preset_elements_valid kind).2, fun _ none => nomatch none⟩

/-! ## Elements under edit -/

section Elements

variable {template : Template}

/-- The number for the next element gives an id that no element has. -/
theorem numberedId_freeNumber_notMem
    (template : Template) :
    numberedId template.freeNumber ∉ template.elements.map Element.id :=
  FreshName.name_firstFree_notMem (stem_append_injective "element_") template.nextNumber

theorem element?_eq_none_iff
    (id : String) :
    template.element? id = none ↔ id ∉ template.elements.map Element.id := by
  simp [element?, List.find?_eq_none]

/-- Among the elements after a replacement are the new one and old ones. -/
theorem mem_replaceElement
    {id : String}
    {replacement element : Element}
    {elements : List Element}
    (member : element ∈ replaceElement id replacement elements) :
    element = replacement ∨ element ∈ elements := by
  induction elements with
  | nil => cases member
  | cons first rest ih =>
    unfold replaceElement at member
    split at member
    · exact (List.mem_cons.1 member).imp_right (List.mem_cons_of_mem _)
    · rcases List.mem_cons.1 member with here | later
      · exact Or.inr (here ▸ List.mem_cons_self)
      · exact (ih later).imp_right (List.mem_cons_of_mem _)

/-- A replacement under the same id or an unused one keeps ids distinct. -/
theorem nodup_replaceElement
    {id : String}
    {replacement : Element}
    {elements : List Element}
    (distinct : (elements.map Element.id).Nodup)
    (free : replacement.id = id ∨ replacement.id ∉ elements.map Element.id) :
    ((replaceElement id replacement elements).map Element.id).Nodup := by
  induction elements with
  | nil => exact List.nodup_nil
  | cons first rest ih =>
    rw [List.map_cons, List.nodup_cons] at distinct
    rw [List.map_cons, List.mem_cons, not_or] at free
    unfold replaceElement
    split
    · rename_i here
      rw [List.map_cons, List.nodup_cons]
      refine ⟨?_, distinct.2⟩
      rcases free with same | unused
      · rw [same, ← beq_iff_eq.1 here]
        exact distinct.1
      · exact unused.2
    · rename_i elsewhere
      rw [List.map_cons, List.nodup_cons]
      refine ⟨fun member => ?_, ih distinct.2 (free.imp_right And.right)⟩
      obtain ⟨element, isThere, sameId⟩ := List.mem_map.1 member
      rcases mem_replaceElement isThere with rfl | old
      · rcases free with same | unused
        · exact elsewhere (beq_iff_eq.2 (sameId.symm.trans same))
        · exact unused.1 sameId
      · exact distinct.1 (sameId ▸ List.mem_map_of_mem old)

/-- An id that is asked for and not taken is the present one or belongs to no element. -/
theorem free_of_not_isTaken
    {current id : String}
    (free : template.isTaken current (.str id) = false) :
    id = current ∨ id ∉ template.elements.map Element.id := by
  rw [← element?_eq_none_iff]
  by_cases same : id = current
  · exact Or.inl same
  · refine Or.inr ?_
    simpa [isTaken, same] using free

end Elements

/-! ## Calls -/

/-- A carried out call leaves a valid manifest. -/
theorem Revision.manifest_valid
    {before after : Template}
    {request : Call}
    (revision : Revision before request after)
    (valid : before.manifest.Valid) : after.manifest.Valid := by
  induction revision with
  | addValid _ _ ih => exact ih
  | restyle _ _ ih => exact ih
  | describe read => exact Manifest.valid_of_ofMembers read
  | putProperty read =>
    refine ⟨valid.id, valid.steps, ⟨valid.schema.extras, fun entry member => ?_⟩, valid.actions,
      valid.extras⟩
    rcases Table.mem_put member with new | old
    · rw [new]
      exact SchemaProperty.valid_of_ofMembers read
    · exact valid.schema.properties entry old
  | removeProperty =>
    exact ⟨valid.id, valid.steps, ⟨valid.schema.extras,
      fun entry member => valid.schema.properties entry (Table.mem_of_mem_remove member)⟩,
      valid.actions, valid.extras⟩
  | _ => exact valid

/-- After a carried out call, every element was there before or has been read. -/
theorem Revision.mem_elements
    {before after : Template}
    {request : Call}
    (revision : Revision before request after) :
    ∀ element ∈ after.elements, element ∈ before.elements ∨
      ∃ members, Element.ofMembers members = .accepted element := by
  induction revision with
  | add read =>
    intro element member
    refine (List.mem_append.1 member).imp_right fun new => ?_
    exact ⟨_, List.mem_singleton.1 new ▸ read⟩
  | addValid _ _ ih => exact ih
  | remove => exact fun element member => Or.inl (List.mem_filter.1 member).1
  | update present members free read differs =>
    intro element member
    rcases mem_replaceElement member with rfl | old
    · exact Or.inr ⟨_, read⟩
    · exact Or.inl old
  | restyle _ _ ih => exact ih
  | _ => exact fun element member => Or.inl member

/-- A carried out call keeps element ids distinct. -/
theorem Revision.distinct
    {before after : Template}
    {request : Call}
    (revision : Revision before request after)
    (distinct : (before.elements.map Element.id).Nodup) : (after.elements.map Element.id).Nodup := by
  induction revision with
  | add read =>
    have sameId : _ = some (Json.str _) := Element.id_of_ofMembers read
    rw [Table.get?, if_pos rfl] at sameId
    rw [List.map_append, List.nodup_append]
    refine ⟨distinct, List.nodup_singleton _, fun old isOld new isNew same => ?_⟩
    rw [List.mem_singleton.1 isNew, ← Json.str.inj (Option.some.inj sameId)] at same
    exact numberedId_freeNumber_notMem before (same ▸ isOld)
  | addValid _ _ ih => exact ih
  | remove => exact distinct.sublist (List.filter_sublist.map _)
  | update present members free read differs =>
    have sameId := Element.id_of_ofMembers read
    rw [Json.memberOrNull, sameId] at free
    exact nodup_replaceElement distinct (free_of_not_isTaken free)
  | restyle _ _ ih => exact ih
  | _ => exact distinct

/-- A carried out call leaves valid settings. -/
theorem Revision.animation_valid
    {before after : Template}
    {request : Call}
    (revision : Revision before request after)
    (valid : ∀ settings ∈ before.animation, settings.Valid) :
    ∀ settings ∈ after.animation, settings.Valid := by
  induction revision with
  | addValid _ _ ih => exact ih
  | restyle _ _ ih => exact ih
  | animate read =>
    intro settings same
    cases same
    exact AnimationSettings.valid_of_ofMembers read
  | _ => exact valid

/-- A call that is carried out leaves a valid template. -/
theorem Revision.valid
    {before after : Template}
    {request : Call}
    (revision : Revision before request after)
    (valid : before.Valid) : after.Valid := by
  refine ⟨revision.manifest_valid valid.manifest, fun element member => ?_,
    revision.distinct valid.distinct, revision.animation_valid valid.animation⟩
  rcases revision.mem_elements element member with old | ⟨members, read⟩
  · exact valid.elements element old
  · exact Element.valid_of_ofMembers read

/-- Templates with one content are both valid or neither is. -/
theorem SameContent.valid
    {before after : Template}
    (same : SameContent before after)
    (valid : before.Valid) : after.Valid := by
  cases before
  cases after
  obtain ⟨rfl, rfl, rfl⟩ := same
  exact ⟨valid.manifest, valid.elements, valid.distinct, valid.animation⟩

/-- Whatever is called, accepted or refused, a valid template stays valid. -/
theorem run_valid
    {template : Template}
    (valid : template.Valid)
    (request : Call) : (template.run request).template.Valid := by
  rcases template.run_carries request with ⟨_, same⟩ | ⟨_, _, revision⟩
  · exact same.valid valid
  · exact revision.valid valid

/-- The templates that come of making or reading one, and of calls and copies. -/
inductive Built : Template -> Prop where
  | ofPreset {kind : PresetKind} {id name description : Json} {fields : Table Json}
      {template : Template}
      (made : Template.ofPreset kind id name description fields = .ok template) : Built template
  | ofSnapshot {value : Json} {snapshot : Snapshot}
      (read : Snapshot.read value = .ok snapshot) : Built (.ofSnapshot snapshot)
  | call {template : Template} (built : Built template) (request : Call) :
      Built (template.run request).template
  | copy {template : Template} (built : Built template) : Built template.copy

theorem Built.valid
    {template : Template}
    (built : Built template) : template.Valid := by
  induction built with
  | ofPreset made => exact valid_of_ofPreset made
  | ofSnapshot read => exact valid_of_read read
  | call _ request ih => exact run_valid ih request
  | copy _ ih => exact ih

/-- A template can be written exactly when none of its free values has too many levels. -/
theorem exists_written_iff
    (template : Template) :
    (∃ value, template.written = .ok value) ↔ template.Writable := by
  constructor
  · rintro ⟨value, written⟩
    by_contra unwritable
    rw [written_of_not_writable unwritable] at written
    cases written
  · exact fun writable => ⟨_, written_of_writable writable⟩

/-- Every template that edits lead to is well formed: the ids of its elements are distinct and of the
form of element ids, its geometry is finite, its id is a slug, its steps are not negative and its
durations are positive.  Its snapshot can be taken; it is written exactly when no free value has too
many levels, and what is written is read again as the same content. -/
theorem built_wellFormed
    {template : Template}
    (built : Built template) :
    (template.elements.map Element.id).Nodup ∧
      (∀ element ∈ template.elements, Identifier.isElementId element.id = true ∧
        element.x.isFinite = true ∧ element.y.isFinite = true ∧
        element.width.isFinite = true ∧ element.height.isFinite = true) ∧
      Identifier.isSlug template.id = true ∧
      0 ≤ template.manifest.stepCount ∧
      0 < template.effectiveAnimation.slideInDuration ∧
      0 < template.effectiveAnimation.slideOutDuration ∧
      Snapshot.duplicateId? [] template.elements = none ∧
      ((∃ value, template.written = .ok value) ↔ template.Writable) ∧
      ∀ value, template.written = .ok value ->
        Snapshot.read value = .ok template.snapshot.settled := by
  have valid := built.valid
  have settings : template.effectiveAnimation.Valid := by
    unfold effectiveAnimation
    cases given : template.animation with
    | none => exact ⟨by decide, by decide⟩
    | some settings => exact valid.animation settings given
  refine ⟨valid.distinct, fun element member => ?_, valid.manifest.id, valid.manifest.steps,
    settings.slideIn, settings.slideOut, ?_, template.exists_written_iff, fun value written => ?_⟩
  · have held := valid.elements element member
    exact ⟨held.id, held.x, held.y, held.width, held.height⟩
  · exact (Snapshot.duplicateId?_eq_none_iff _ _).2 ⟨valid.distinct, fun _ _ => List.not_mem_nil⟩
  · have writable := template.exists_written_iff.1 ⟨value, written⟩
    rw [written_of_writable writable] at written
    cases written
    exact Snapshot.read_toJson valid

/-- An element that asks for the id of another one leaves distinct ids and a valid description. -/
theorem lowerThird_wellFormed_after_taken_id :
    ∃ template, ofPreset .lowerThird (.str "demo") (.str "Demo") (.str "") [] = .ok template ∧
      let after := (template.run (.updateElement "name" (.obj [("id", .str "title")]))).template
      (after.elements.map Element.id).Nodup ∧ Identifier.isSlug after.id = true := by
  obtain ⟨template, made⟩ :
      ∃ template, ofPreset .lowerThird (.str "demo") (.str "Demo") (.str "") [] = .ok template :=
    ⟨_, rfl⟩
  obtain ⟨distinct, _, slug, _⟩ := built_wellFormed (.call (.ofPreset made) _)
  exact ⟨template, made, distinct, slug⟩

end Template
end BroadcastGraphics
