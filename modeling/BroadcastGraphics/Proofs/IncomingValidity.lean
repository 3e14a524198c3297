import BroadcastGraphics.Proofs.LayoutIds
import BroadcastGraphics.Proofs.TemplateValidity

/-!
# Templates that come in are regular

A template that is read or edited is valid as a whole.  The elements of a layout are placed row by
row and not read, so that of a template which comes in with one nothing is known about the size of
its geometry; all the rest is valid, and stays so.
-/

namespace BroadcastGraphics

/-- The element lies at a finite place. -/
structure Element.Placed (element : Element) : Prop where
  x : element.x.isFinite = true
  y : element.y.isFinite = true
  width : element.width.isFinite = true
  height : element.height.isFinite = true

instance (element : Element) : Decidable element.Placed :=
  decidable_of_iff (element.x.isFinite = true ∧ element.y.isFinite = true ∧
      element.width.isFinite = true ∧ element.height.isFinite = true)
    ⟨fun ⟨x, y, width, height⟩ => ⟨x, y, width, height⟩,
      fun ⟨x, y, width, height⟩ => ⟨x, y, width, height⟩⟩

namespace Template

/-- What a template holds passes the checks of a snapshot, but for the places of its elements. -/
structure Regular (template : Template) : Prop where
  manifest : template.manifest.Valid
  ids : ∀ element ∈ template.elements, Identifier.isElementId element.id = true
  distinct : (template.elements.map Element.id).Nodup
  animation : ∀ settings ∈ template.animation, settings.Valid

theorem Valid.regular
    {template : Template}
    (valid : template.Valid) : template.Regular :=
  ⟨valid.manifest, fun element member => (valid.elements element member).id, valid.distinct,
    valid.animation⟩

/-- A regular template whose elements lie at finite places is valid. -/
theorem Regular.valid
    {template : Template}
    (regular : template.Regular)
    (placed : ∀ element ∈ template.elements, element.Placed) : template.Valid :=
  ⟨regular.manifest, fun element member =>
      have here := placed element member
      ⟨regular.ids element member, here.x, here.y, here.width, here.height⟩,
    regular.distinct, regular.animation⟩

theorem SameContent.regular
    {before after : Template}
    (same : SameContent before after)
    (regular : before.Regular) : after.Regular := by
  cases before
  cases after
  obtain ⟨rfl, rfl, rfl⟩ := same
  exact ⟨regular.manifest, regular.ids, regular.distinct, regular.animation⟩

theorem Revision.regular
    {before after : Template}
    {request : Call}
    (revision : Revision before request after)
    (regular : before.Regular) : after.Regular := by
  refine ⟨revision.manifest_valid regular.manifest, fun element member => ?_,
    revision.distinct regular.distinct, revision.animation_valid regular.animation⟩
  rcases revision.mem_elements element member with old | ⟨members, read⟩
  · exact regular.ids element old
  · exact (Element.valid_of_ofMembers read).id

theorem regular_of_carries
    {α : Type}
    {edit : Edit α}
    {template : Template}
    {request : Call}
    (carries : edit.Carries template request)
    (regular : template.Regular) : edit.template.Regular := by
  rcases carries with ⟨_, same⟩ | ⟨_, _, revision⟩
  · exact same.regular regular
  · exact revision.regular regular

end Template

namespace Session

open Checked

/-- Elements that are imported have distinct element ids, be they given or laid out. -/
theorem ids_of_importedElements
    {manifest : Manifest}
    {value : Json}
    {elements : List Element}
    (imported : importedElements manifest value = .accepted elements) :
    (∀ element ∈ elements, Identifier.isElementId element.id = true) ∧
      (elements.map Element.id).Nodup := by
  unfold importedElements at imported
  split at imported
  · cases imported
    have named := Layout.named_ofSchema manifest.schema.properties manifest.name
    exact ⟨named.ids, named.distinct⟩
  · have valid := Snapshot.valid_of_checkElements ((under_accepted_iff _ _ _).1 imported)
    exact ⟨fun element member => (valid.1 element member).id, valid.2⟩

theorem regular_of_importedTemplate
    {source : ImportSource}
    {members : Table Json}
    {givenId : Json}
    {template : Template}
    (described : importedTemplate source members givenId = .ok template) : template.Regular := by
  have manifestValid := Manifest.valid_of_ofMembers (manifest_of_importedTemplate described)
  obtain ⟨manifest, _, described⟩ := ok_of_bind described
  obtain ⟨snapshot, read, described⟩ := ok_of_bind described
  have content : template.elements = snapshot.elements ∧ template.animation = snapshot.animation := by
    dsimp only at described
    split at described
    · split at described
      · cases described
        exact ⟨rfl, rfl⟩
      · cases described
        exact ⟨rfl, rfl⟩
    · cases described
      exact ⟨rfl, rfl⟩
  obtain ⟨_, animation, mapped, settings, rfl⟩ :=
    (seq_accepted_iff _ _ _).1 ((Checked.orInvalid_eq_ok _ _ _).1 read)
  obtain ⟨elements, imported, rfl⟩ := (map_accepted_iff _ _ _).1 mapped
  obtain ⟨ids, distinct⟩ := ids_of_importedElements imported
  refine ⟨manifestValid, content.1 ▸ ids, content.1 ▸ distinct, content.2 ▸ ?_⟩
  exact AnimationSettings.valid_of_optional_check ((under_accepted_iff _ _ _).1 settings)

/-- Every template that a session makes or reads is regular. -/
theorem arising_regular : Arising Template.Regular where
  carried carries regular := Template.regular_of_carries carries regular
  created made := fits_of_newTemplate Template.regular_of_carries
    (fun ofPreset => (Template.valid_of_ofPreset ofPreset).regular) made
  read read := (Template.valid_of_read read).regular
  imported made := regular_of_importedTemplate made

end Session
end BroadcastGraphics
