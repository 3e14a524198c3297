import BroadcastGraphics.Proofs.ElementNames
import BroadcastGraphics.Proofs.ReachedTemplate
import BroadcastGraphics.Proofs.ValueForm

/-!
# What an accepted edit stores

An edit of an element or of the manifest reads what was there with its members written over it.  What
is stored afterwards is what it reads, unless that is equal by value to what was there: then the old
one stays, in its order and with its kinds of numbers.
-/

namespace BroadcastGraphics

open Json (Standard)

namespace Template

/-- What is stored has the form by value of what was asked for.  It is what was asked for if that
differs by value from what was there, and otherwise it is one of the two. -/
structure Follows (before asked stored : Json) : Prop where
  alike : stored.byValue = asked.byValue
  whole : asked.byValue ≠ before.byValue -> stored = asked
  either : stored = asked ∨ stored = before

theorem follows_self (before asked : Json) : Follows before asked asked :=
  ⟨rfl, fun _ => rfl, Or.inl rfl⟩

/-- What is there stays when nothing else by value is asked for. -/
theorem follows_of_alike
    {before asked : Json}
    (alike : asked.byValue = before.byValue) : Follows before asked before :=
  ⟨alike.symm, fun differs => absurd alike differs, Or.inr rfl⟩

variable {template : Template}

/-- With distinct ids, an element is found under its id. -/
theorem element?_of_mem
    (distinct : (template.elements.map Element.id).Nodup)
    {element : Element}
    (member : element ∈ template.elements) : template.element? element.id = some element := by
  unfold element?
  generalize template.elements = elements at distinct member ⊢
  induction elements with
  | nil => cases member
  | cons first rest ih =>
    obtain ⟨here, others⟩ := List.nodup_cons.1 distinct
    rcases List.mem_cons.1 member with rfl | later
    · exact List.find?_cons_of_pos (beq_self_eq_true element.id)
    · have elsewhere : ¬(first.id == element.id) = true := fun same =>
        here (beq_iff_eq.1 same ▸ List.mem_map_of_mem later)
      rw [List.find?_cons, Bool.eq_false_of_not_eq_true elsewhere]
      exact ih others later

/-- An edit of an element that is carried out stores what it asks for, as far as that differs by
value from what was there. -/
theorem updateElement_follows
    (reached : Reached template)
    {id : String}
    {updates : Json}
    (meets : updates.Meets .any)
    (done : (template.updateElement id updates).outcome = .ok true) :
    ∃ members before asked stored, updates.toMembers = .ok members ∧
      template.element? id = some before ∧
      Element.ofMembers (Table.merge before.members members) = .accepted asked ∧
      (template.updateElement id updates).template.element? asked.id = some stored ∧
      Follows before.toJson asked.toJson stored.toJson := by
  obtain ⟨members, before, asked, isMembers, present, read, result⟩ := updateElement_of_found done
  have sameId := id_of_element? present
  rcases result with ⟨same, unchanged⟩ | replaced
  · have held := reached.meets.elements before (mem_of_element? present)
    have given := Json.meetsValues_of_toMembers Standard.closed_any meets isMembers
    have askedMeets : asked.Meets .any := Element.meets_of_ofMembers Standard.closed_any
      ((held.members Standard.closed_any.toBasic).values.merge given) read
    refine ⟨members, before, asked, before, isMembers, present, read, ?_, ?_⟩
    · rw [unchanged, Element.id_eq_of_sameValue same, sameId]
      exact present
    · exact follows_of_alike (Element.byValue_toJson_of_sameValue askedMeets same)
  · refine ⟨members, before, asked, asked, isMembers, present, read, ?_, follows_self _ _⟩
    have after : Reached (template.run (.updateElement id updates)).template := .call reached meets
    have isThere : id ∈ template.elements.map Element.id :=
      (isSome_element?_iff id).1 (Option.isSome_of_mem present)
    refine element?_of_mem after.valid.distinct ?_
    change asked ∈ (template.updateElement id updates).template.elements
    rw [replaced]
    exact mem_replaceElement_self isThere asked

/-- An edit of the manifest that is carried out stores what it asks for, as far as that differs by
value from what was there. -/
theorem updateManifest_follows
    (reached : Reached template)
    {updates : Table Json}
    (meets : Json.Meets .any (.obj updates))
    {fromText : Bool}
    {answer : Manifest}
    (done : (template.updateManifest (.obj updates) fromText).outcome = .ok answer) :
    ∃ asked, template.manifest.edited updates = .accepted asked ∧
      Follows template.manifest.toJson asked.toJson
        (template.updateManifest (.obj updates) fromText).template.manifest.toJson := by
  unfold updateManifest at done ⊢
  dsimp only at done ⊢
  split at done
  · cases done
  · rename_i asked read
    have accepted := (Checked.orInvalid_eq_ok _ _ _).1 read
    refine ⟨asked, accepted, ?_⟩
    split
    · rename_i quiet
      have askedMeets := reached.meets.manifest.edited Standard.closed_any meets accepted
      have apart := (Manifest.valid_of_ofMembers accepted).extras
      exact follows_of_alike
        (Manifest.byValue_toJson_of_sameValue askedMeets apart (Bool.and_eq_true_iff.1 quiet).1)
    · exact follows_self _ _

/-- Every edit of an element that answers yes, and every edit of the manifest that is not refused,
takes effect as far as it differs by value from what was there: what is stored is written exactly as
what the edit reads, unless that has the form by value of what was there, which then stays. -/
theorem accepted_edit_takes_effect
    (reached : Reached template) :
    (∀ (id : String) (updates : Json), updates.Meets .any ->
        (template.updateElement id updates).outcome = .ok true ->
        ∃ members before asked stored, updates.toMembers = .ok members ∧
          template.element? id = some before ∧
          Element.ofMembers (Table.merge before.members members) = .accepted asked ∧
          (template.updateElement id updates).template.element? asked.id = some stored ∧
          Follows before.toJson asked.toJson stored.toJson) ∧
      ∀ (updates : Table Json) (fromText : Bool) (answer : Manifest),
        Json.Meets .any (.obj updates) ->
        (template.updateManifest (.obj updates) fromText).outcome = .ok answer ->
        ∃ asked, template.manifest.edited updates = .accepted asked ∧
          Follows template.manifest.toJson asked.toJson
            (template.updateManifest (.obj updates) fromText).template.manifest.toJson :=
  ⟨fun _ _ meets done => updateElement_follows reached meets done,
    fun _ _ _ meets done => updateManifest_follows reached meets done⟩

/-- A snapshot with a title in two colors and a vendor's member in the manifest. -/
def colored : Json :=
  .obj [("manifest", .obj [("id", .str "demo"), ("name", .str "Demo"), ("rate", .int 1)]),
    ("elements", .arr [.obj [("id", .str "title"), ("type", .str "text"),
      ("style", .obj [("color", .str "red"), ("backgroundColor", .str "blue")])]])]

/-- The template that is read from it. -/
def coloredTemplate : Template :=
  .ofSnapshot
    { manifest := { id := "demo", name := "Demo", extras := [("rate", .int 1)] }
      elements := [{ id := "title", kind := .text
                     style := [("color", "red"), ("backgroundColor", "blue")] }] }

theorem reached_coloredTemplate : Reached coloredTemplate := by
  have meets : colored.Meets .any := by
    simp [colored, Json.Meets, Json.MeetsMembers, Json.MeetsItems, Table.Distinct, Table.names,
      Standard.any]
  exact .ofSnapshot meets rfl

/-- The properties of the style in another order. -/
def recolored : Json :=
  .obj [("style", .obj [("backgroundColor", .str "blue"), ("color", .str "red")])]

/-- Another number for the vendor's member is stored, and a style in another order has the form by
value of the one that stays. -/
theorem accepted_edit_takes_effect_of_rate :
    (∃ asked, coloredTemplate.manifest.edited [("rate", .int 2)] = .accepted asked ∧
      (coloredTemplate.updateManifest (.obj [("rate", .int 2)])).template.manifest.toJson =
        asked.toJson) ∧
      ∃ before asked stored : Element, coloredTemplate.element? "title" = some before ∧
        (coloredTemplate.updateElement "title" recolored).template.element? asked.id = some stored ∧
        Follows before.toJson asked.toJson stored.toJson := by
  obtain ⟨ofElement, ofManifest⟩ := accepted_edit_takes_effect reached_coloredTemplate
  constructor
  · obtain ⟨asked, read, follows⟩ := ofManifest [("rate", .int 2)] false _
      (by simp [Json.Meets, Json.MeetsMembers, Table.Distinct, Table.names, Standard.any]) rfl
    cases read
    exact ⟨_, rfl, follows.either.resolve_right (by decide)⟩
  · have given : recolored.Meets .any := by
      simp [recolored, Json.Meets, Json.MeetsMembers, Table.Distinct, Table.names, Standard.any]
    obtain ⟨_, before, asked, stored, _, present, _, isStored, follows⟩ :=
      ofElement "title" recolored given (by decide +kernel)
    exact ⟨before, asked, stored, present, isStored, follows⟩

/-- The truth value that equals a number does not come in its place. -/
theorem number_stays_under_equal_truth :
    ∃ asked, coloredTemplate.manifest.edited [("rate", .bool true)] = .accepted asked ∧
      (∃ answer, (coloredTemplate.updateManifest (.obj [("rate", .bool true)])).outcome =
        .ok answer) ∧
      (coloredTemplate.updateManifest (.obj [("rate", .bool true)])).template.manifest.toJson ≠
        asked.toJson :=
  ⟨_, rfl, ⟨_, rfl⟩, by decide⟩

end Template
end BroadcastGraphics
