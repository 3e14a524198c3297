import BroadcastGraphics.Proofs.ImportPolicy
import BroadcastGraphics.Proofs.SnapshotRoundTrip

/-!
# Written templates are imported again

A template in its written form can be imported like any other one.  What comes in is the template as
it is read back, with its component source cleaned; and it comes in unless it is refused.  More is
asked of it than of an edit: a name that is not empty, and names of further members that are texts.
-/

namespace BroadcastGraphics

open Checked

namespace Checked

/-- Every item of a list that is accepted is accepted by itself. -/
theorem accepted_of_mem_items
    {α : Type}
    {check : Json -> Checked α}
    {list : List Json}
    {index : Nat}
    {values : List α}
    (accepted : items check index list = .accepted values) :
    ∀ item ∈ list, ∃ value, check item = .accepted value := by
  induction list generalizing index values with
  | nil => exact nofun
  | cons first rest ih =>
    obtain ⟨_, others, mapped, restAccepted, _⟩ := (seq_accepted_iff _ _ _).1 accepted
    obtain ⟨value, firstAccepted, _⟩ := (map_accepted_iff _ _ _).1 mapped
    intro item member
    rcases List.mem_cons.1 member with rfl | later
    · exact ⟨value, (under_accepted_iff _ _ _).1 firstAccepted⟩
    · exact ih restAccepted item later

end Checked

/-! ## Elements that are read have a place -/

/-- A number that is read from its written form is finite. -/
theorem Binary64.isFinite_of_plainJson
    {number read : Binary64}
    (accepted : Check.finiteNumber number.plainJson = .accepted read) : number.isFinite = true := by
  unfold plainJson at accepted
  cases isWhole : number.whole? with
  | some whole =>
    cases number with
    | finite negative rank => rfl
    | _ => cases isWhole
  | none =>
    rw [isWhole] at accepted
    change (if number.isFinite then _ else _) = _ at accepted
    split at accepted
    · assumption
    · cases accepted

/-- A field with a default that is present is read from its member. -/
theorem Field.checked_of_withDefault
    {α : Type}
    {check : Json -> Checked α}
    {default result : α}
    {members : Table Json}
    {name : String}
    {value : Json}
    (accepted : (plain name).withDefault default check members = .accepted result)
    (present : Table.get? members name = some value) : check value = .accepted result := by
  unfold withDefault at accepted
  rw [find?_plain, present] at accepted
  exact (under_accepted_iff _ _ _).1 accepted

/-- An element that is read from its written form lies at a finite place. -/
theorem Element.placed_of_check
    {element read : Element}
    (accepted : check element.toJson = .accepted read) : element.Placed := by
  obtain ⟨members, same, accepted⟩ := (Check.record_accepted_iff _ _ _ _).1 accepted
  cases same
  rw [presentMembers_members] at accepted
  obtain ⟨_, _, x, y, width, height, _⟩ := (ofMembers_accepted_iff _ _).1 accepted
  exact ⟨Binary64.isFinite_of_plainJson (Field.checked_of_withDefault x rfl),
    Binary64.isFinite_of_plainJson (Field.checked_of_withDefault y rfl),
    Binary64.isFinite_of_plainJson (Field.checked_of_withDefault width rfl),
    Binary64.isFinite_of_plainJson (Field.checked_of_withDefault height rfl)⟩

/-- Elements that are read from their written forms lie at finite places. -/
theorem Snapshot.placed_of_checkElements
    {elements read : List Element}
    (accepted : checkElements (.arr (elements.map Element.toJson)) = .accepted read) :
    ∀ element ∈ elements, element.Placed := by
  obtain ⟨values, listed, _⟩ := (andThen_accepted_iff _ _ _).1 accepted
  intro element member
  obtain ⟨value, single⟩ := accepted_of_mem_items listed _ (List.mem_map_of_mem member)
  exact Element.placed_of_check single

/-! ## Manifests -/

namespace Manifest

/-- The names of all further members that are written are texts. -/
def TextNames (manifest : Manifest) : Prop :=
  ∀ name ∈ Table.names (Json.settledMembers manifest.extras), Json.Name.isText name = true

instance (manifest : Manifest) : Decidable manifest.TextNames :=
  inferInstanceAs (Decidable (∀ name ∈ _, _))

theorem names_members (manifest : Manifest) :
    Table.names manifest.members =
      fields.map Field.writtenName ++ Table.names (Json.settledMembers manifest.extras) := by
  unfold members Table.names
  rw [List.map_append, List.map_fst_zip (by simp [fields, values])]
  rfl

/-- Names are accepted if all of them are texts. -/
theorem textNames_accepted_iff
    (behind : List Step)
    (cause : Cause)
    (members : Table Json) :
    Check.textNames behind cause members = .accepted () ↔
      ∀ name ∈ Table.names members, Json.Name.isText name = true := by
  have others : (members.filter fun member => !Json.Name.isText member.1) = [] ↔
      ∀ name ∈ Table.names members, Json.Name.isText name = true := by
    rw [List.filter_eq_nil_iff]
    unfold Table.names
    simp
  rw [← others]
  unfold Check.textNames
  split
  · rename_i none
    exact iff_of_true rfl none
  · rename_i some
    exact iff_of_false nofun some

/-- The written members of a manifest are imported as the manifest is read back, if their names are
texts. -/
theorem importedManifest_members_iff
    {manifest : Manifest}
    (valid : manifest.Valid)
    (read : Manifest) :
    Session.importedManifest manifest.members = .accepted read ↔
      manifest.TextNames ∧ read = manifest.settled := by
  have again : ofMembers manifest.members = .accepted manifest.settled := check_toJson valid
  have fieldNames : ∀ name ∈ fields.map Field.writtenName, Json.Name.isText name = true := by
    decide
  have texts : Check.textNames [] .notTextName manifest.members = .accepted () ↔
      manifest.TextNames := by
    rw [textNames_accepted_iff, names_members]
    refine ⟨fun all name member => all name (List.mem_append_right _ member), fun all name member => ?_⟩
    rcases List.mem_append.1 member with ofField | further
    · exact fieldNames name ofField
    · exact all name further
  unfold Session.importedManifest
  rw [seq_accepted_iff]
  constructor
  · rintro ⟨_, ⟨⟩, mapped, named, rfl⟩
    obtain ⟨inner, same, rfl⟩ := (map_accepted_iff _ _ _).1 mapped
    rw [again] at same
    cases same
    exact ⟨texts.1 named, rfl⟩
  · rintro ⟨all, rfl⟩
    exact ⟨_, (), (map_accepted_iff _ _ _).2 ⟨_, again, rfl⟩, texts.2 all, rfl⟩

end Manifest

/-! ## Templates -/

namespace Template

/-- The template can be imported in its written form: it has a name, further members are named by
texts, and the elements lie at finite places. -/
structure Importable (template : Template) : Prop where
  named : template.manifest.name ≠ ""
  texts : template.manifest.TextNames
  placed : ∀ element ∈ template.elements, element.Placed

instance (template : Template) : Decidable template.Importable :=
  decidable_of_iff (template.manifest.name ≠ "" ∧ template.manifest.TextNames ∧
      ∀ element ∈ template.elements, element.Placed)
    ⟨fun ⟨named, texts, placed⟩ => ⟨named, texts, placed⟩,
      fun ⟨named, texts, placed⟩ => ⟨named, texts, placed⟩⟩

/-- The template as it is imported in its written form: read back, with what is kept of its component
source. -/
def imported (template : Template) : Template :=
  { template.reread with
    component :=
      (ComponentSource.ofJson? (Json.ofText? template.component)).map ComponentSource.cleaned }

/-- What an import of the template in its written form is made of. -/
def source (template : Template) : Session.ImportSource where
  manifest := template.manifest.toJson
  component := Json.ofText? template.component
  elements := .arr (template.elements.map Element.toJson)
  animation := Snapshot.animationJson template.animation

theorem editorSource_toJson (template : Template) :
    Session.editorSource template.toJson = .ok template.source :=
  rfl

section Imported

variable {template : Template} (regular : template.Regular)
include regular

/-- What the parts of the template describe besides the manifest. -/
theorem importedSnapshot_iff
    (read : Snapshot) :
    Session.importedSnapshot template.manifest.settled template.source.elements
        template.source.animation = .accepted read ↔
      (∀ element ∈ template.elements, element.Placed) ∧
        read = { template.reread.snapshot with component := none } := by
  unfold Session.importedSnapshot
  have animation := Snapshot.optional_animationJson regular.animation
  constructor
  · intro accepted
    obtain ⟨_, settings, mapped, settingsRead, rfl⟩ := (seq_accepted_iff _ _ _).1 accepted
    obtain ⟨elements, elementsRead, rfl⟩ := (map_accepted_iff _ _ _).1 mapped
    have elementsRead := (under_accepted_iff _ _ _).1 elementsRead
    have settingsRead := (under_accepted_iff _ _ _).1 settingsRead
    have placed := Snapshot.placed_of_checkElements elementsRead
    have again := Snapshot.checkElements_toJson (regular.valid placed)
    have sameElements := Checked.accepted.inj (elementsRead.symm.trans again)
    have sameSettings := Checked.accepted.inj (settingsRead.symm.trans animation)
    subst sameElements sameSettings
    exact ⟨placed, rfl⟩
  · rintro ⟨placed, rfl⟩
    have again := Snapshot.checkElements_toJson (regular.valid placed)
    refine (seq_accepted_iff _ _ _).2 ⟨_, template.animation, (map_accepted_iff _ _ _).2
      ⟨template.elements.map Element.settled, (under_accepted_iff _ _ _).2 again, rfl⟩,
      (under_accepted_iff _ _ _).2 animation, rfl⟩

/-- The template is described by its written form if it can be imported, its name apart. -/
theorem importedTemplate_source_iff
    (read : Template) :
    Session.importedTemplate template.source template.manifest.members (.str template.id) =
        .ok read ↔
      template.manifest.TextNames ∧ (∀ element ∈ template.elements, element.Placed) ∧
        read = template.imported := by
  have imported (texts : template.manifest.TextNames)
      (placed : ∀ element ∈ template.elements, element.Placed) :
      Session.importedTemplate template.source template.manifest.members (.str template.id) =
        .ok template.imported := by
    have manifestRead :=
      (Manifest.importedManifest_members_iff regular.manifest _).2 ⟨texts, rfl⟩
    have snapshotRead := (importedSnapshot_iff regular _).2 ⟨placed, rfl⟩
    have sameId : Json.str template.id = .str template.manifest.settled.id := rfl
    rw [Session.importedTemplate_of_read manifestRead snapshotRead, if_pos sameId]
    rfl
  constructor
  · intro described
    obtain ⟨manifest, manifestRead, opened⟩ := ok_of_bind described
    obtain ⟨snapshot, snapshotRead, _⟩ := ok_of_bind opened
    rw [Checked.orInvalid_eq_ok] at manifestRead snapshotRead
    obtain ⟨texts, rfl⟩ := (Manifest.importedManifest_members_iff regular.manifest _).1 manifestRead
    obtain ⟨placed, _⟩ := (importedSnapshot_iff regular _).1 snapshotRead
    exact ⟨texts, placed, Except.ok.inj (described.symm.trans (imported texts placed))⟩
  · rintro ⟨texts, placed, rfl⟩
    exact imported texts placed

end Imported

end Template

namespace Session

section Planning

variable {session : Session} {template : Template}

/-- The written manifest of a template has an id, and a name unless that is empty. -/
theorem identifiedMembers_toJson
    (slug : Identifier.isSlug template.id = true) :
    identifiedMembers template.manifest.toJson =
      if template.manifest.name = "" then .error (.badImport .noIdentity)
      else .ok template.manifest.members := by
  have nonempty : template.manifest.id ≠ "" := by
    intro empty
    change Identifier.isSlug template.manifest.id = true at slug
    rw [empty] at slug
    cases slug
  have looked (name : String) (value : Json)
      (present : Table.get? template.manifest.members name = some value) :
      Json.memberOrNull template.manifest.members name = value := by
    rw [Json.memberOrNull, present]
    rfl
  change (if _ then _ else _ : Except Fault (Table Json)) = _
  rw [looked "id" (.str template.manifest.id) rfl, looked "name" (.str template.manifest.name) rfl]
  have truthy (text : String) : (Json.str text).isTruthy = !text.isEmpty := rfl
  by_cases empty : template.manifest.name = ""
  · rw [if_pos empty, if_neg (by simp [truthy, empty])]
  · rw [if_neg empty, if_pos (by simp [truthy, empty, nonempty])]

variable (regular : template.Regular)
  (free : session.number? template.id = none)
  {policy : Json} {known : ConflictPolicy}
  (isPolicy : ConflictPolicy.ofJson policy = .ok known)
include regular free isPolicy

/-- Under a free id, a template that can be imported is planned to be added, and another one is
refused for what it is. -/
theorem plan_source :
    if template.Importable then
      session.plan template.source policy = .ok (.add template.imported none)
    else ∃ fault, session.plan template.source policy = .error fault ∧ isEntryFault fault = true := by
  have looked : session.numberOfValue (.str template.id) = .ok none := congrArg Except.ok free
  have identified := @identifiedMembers_toJson template regular.manifest.id
  by_cases empty : template.manifest.name = ""
  · rw [if_neg fun importable => importable.named empty]
    rw [if_pos empty] at identified
    refine ⟨.badImport .noIdentity, ?_, rfl⟩
    unfold plan
    rw [isPolicy]
    change (identifiedMembers template.manifest.toJson >>= _) = _
    rw [identified]
    rfl
  · rw [if_neg empty] at identified
    have planned : session.plan template.source policy =
        (importedTemplate template.source template.manifest.members (.str template.id)).map
          fun read => .add read none := by
      unfold plan
      rw [isPolicy]
      have sameManifest : template.source.manifest = template.manifest.toJson := rfl
      have givenId : Json.memberOrNull template.manifest.members "id" = .str template.id := rfl
      simp only [bind, Except.bind, sameManifest, identified, givenId, looked]
      cases importedTemplate template.source template.manifest.members (.str template.id) <;> rfl
    rw [planned]
    split
    · rename_i importable
      rw [(Template.importedTemplate_source_iff regular _).2
        ⟨importable.texts, importable.placed, rfl⟩]
      rfl
    · rename_i refused
      cases described : importedTemplate template.source template.manifest.members
          (.str template.id) with
      | ok read =>
        obtain ⟨texts, placed, _⟩ := (Template.importedTemplate_source_iff regular _).1 described
        exact absurd ⟨empty, texts, placed⟩ refused
      | error fault =>
        obtain ⟨record, issues, rfl⟩ := invalid_of_importedTemplate described
        exact ⟨_, rfl, rfl⟩

end Planning

end Session

end BroadcastGraphics
