import BroadcastGraphics.Proofs.DataStandard

/-!
# What is written of the data of templates

Writing a record leaves members out and puts nothing in place of numbers without digits, and it
makes no text and no integer but the names of its fields and the whole numbers among its places.  So
a snapshot is written as a value that meets every standard that its data meets.
-/

namespace BroadcastGraphics

open Checked

variable {standard : Json.Standard}

namespace Json

mutual

theorem Meets.finiteOnly :
    ∀ {value : Json}, value.Meets standard -> value.finiteOnly.Meets standard
  | .null, meets => meets
  | .bool _, meets => meets
  | .int _, meets => meets
  | .str _, meets => meets
  | .float number, meets => by
      rw [Json.finiteOnly]
      split
      · exact meets
      · exact meets_null
  | .arr items, meets => by
      rw [Json.finiteOnly, meets_arr]
      exact MeetsItems.finiteItems ((meets_arr items).1 meets)
  | .obj members, meets => by
      have names : Table.names (finiteMembers members) = Table.names members := by
        rw [finiteMembers_eq_map]
        exact List.map_map
      rw [Json.finiteOnly]
      refine meets_obj ?_ ((meetsMembers_iff _).1 (MeetsMembers.finiteMembers meets.members))
      unfold Table.Distinct
      rw [names]
      exact meets.distinct

theorem MeetsItems.finiteItems :
    ∀ {items : List Json}, MeetsItems standard items -> MeetsItems standard (finiteItems items)
  | [], _ => trivial
  | _ :: _, meets => ⟨Meets.finiteOnly meets.1, MeetsItems.finiteItems meets.2⟩

theorem MeetsMembers.finiteMembers :
    ∀ {members : List (String × Json)}, MeetsMembers standard members ->
      MeetsMembers standard (finiteMembers members)
  | [], _ => trivial
  | (_, _) :: _, meets =>
      ⟨meets.1, Meets.finiteOnly meets.2.1, MeetsMembers.finiteMembers meets.2.2⟩

end

/-- Members as they are written. -/
theorem Meets.settled
    {members : Table Json}
    (meets : Meets standard (.obj members)) : Meets standard (.obj (settledMembers members)) := by
  have written := (meets.sublist (List.filter_sublist (p := fun member => !member.2.isNull))).finiteOnly
  rw [Json.finiteOnly] at written
  exact written

/-- Entries of a table that are written in another way. -/
theorem Meets.rewritten
    {α : Type}
    {before after : α -> Json}
    {table : Table α}
    (meets : Meets standard (.obj (Table.mapEntries before table)))
    (rewrite : ∀ entry ∈ table, (before entry.2).Meets standard -> (after entry.2).Meets standard) :
    Meets standard (.obj (Table.mapEntries after table)) := by
  have names : Table.names (Table.mapEntries after table) =
      Table.names (Table.mapEntries before table) := by
    simp [Table.names, Table.mapEntries]
  refine meets_obj ?_ fun member isThere => ?_
  · unfold Table.Distinct
    rw [names]
    exact meets.distinct
  · obtain ⟨entry, isEntry, rfl⟩ := List.mem_map.1 isThere
    have held := meets.each (entry.1, before entry.2) (List.mem_map_of_mem isEntry)
    exact ⟨held.1, rewrite entry isEntry held.2⟩

end Json

/-! ## Manifests -/

section Manifests

variable (closed : standard.Closed)
include closed

theorem GraphicSchema.Meets.toJson
    {schema : GraphicSchema}
    (meets : schema.Meets standard) : schema.toJson.Meets standard := by
  have properties : Json.Meets standard
      (.obj (Table.mapEntries SchemaProperty.toJson schema.properties)) :=
    meets.properties.rewritten fun property _ held => held.settled
  refine Field.meets_append rfl (by decide) meets.apart.settled ?_
    meets.extras.settled
  simp [meets.kind, properties, closed.plain _ (show Json.IsPlain "type" by decide),
    closed.plain _ (show Json.IsPlain "properties" by decide)]

theorem Manifest.Meets.toJson
    {manifest : Manifest}
    (meets : manifest.Meets standard)
    (apart : Field.Apart fields manifest.extras) : manifest.toJson.Meets standard := by
  have texts := meets.texts
  simp only [List.forall_mem_cons] at texts
  obtain ⟨schemaUrl, id, version, name, description, _, _, main, _⟩ := texts
  have actions : Json.MeetsItems standard (manifest.customActions.map CustomAction.toJson) := by
    rw [Json.meetsItems_iff]
    intro item member
    obtain ⟨action, isAction, rfl⟩ := List.mem_map.1 member
    exact (meets.actions action isAction).settled
  have values : Json.MeetsItems standard manifest.values := by
    simp [Manifest.values, Json.MeetsItems, schemaUrl, id, version, name, description,
      meets.author closed, main, meets.schema.toJson closed, meets.steps, actions]
  have held := @Json.meets_zip standard (fields.map Field.writtenName) manifest.values (by decide)
    (Nat.le_refl 12) (fun name member => closed.plain name (by revert name; decide)) values
  exact Field.meets_append (List.map_fst_zip (Nat.le_refl 12)) (by decide) apart.settled held.each
    meets.extras.settled

end Manifests

/-! ## Snapshots -/

theorem AnimationSettings.meets_of_optional
    (closed : standard.Closed)
    {value : Json}
    {animation : Option AnimationSettings}
    (meets : value.Meets standard)
    (accepted : Check.optional AnimationSettings.check value = .accepted animation) :
    ∀ settings ∈ animation, settings.Meets standard := by
  intro settings isThere
  rcases Check.optional_accepted accepted with rfl | ⟨inner, rfl, checked⟩
  · cases isThere
  · cases isThere
    obtain ⟨members, rfl, read⟩ := (Check.record_accepted_iff _ _ _ _).1 checked
    exact AnimationSettings.meets_of_ofMembers closed meets.values read

namespace Snapshot

/-- The data of a snapshot meets the standard. -/
structure Meets (standard : Json.Standard) (snapshot : Snapshot) : Prop where
  manifest : snapshot.manifest.Meets standard
  elements : ∀ element ∈ snapshot.elements, element.Meets standard
  animation : ∀ settings ∈ snapshot.animation, settings.Meets standard
  component : ∀ source ∈ snapshot.component, standard.text source

variable (closed : standard.Closed)
include closed

/-- A snapshot that is read from a value of a standard meets it. -/
theorem meets_of_read
    {value : Json}
    {snapshot : Snapshot}
    (meets : value.Meets standard)
    (accepted : read value = .ok snapshot) : snapshot.Meets standard := by
  obtain ⟨members, rfl, read⟩ :=
    (Check.record_accepted_iff _ _ _ _).1 ((orInvalid_eq_ok _ _ _).1 accepted)
  obtain ⟨manifest, elements, animation, component⟩ := (ofMembers_accepted_iff _ _).1 read
  constructor
  · refine Field.meets_of_required (Manifest.Meets standard) meets.values manifest
      fun value meetsValue checked => ?_
    obtain ⟨members, rfl, read⟩ := (Check.record_accepted_iff _ _ _ _).1 checked
    exact Manifest.meets_of_ofMembers closed meetsValue read
  · refine Field.meets_of_withDefault
      (fun elements : List Element => ∀ element ∈ elements, element.Meets standard) meets.values
      elements (fun _ none => nomatch none) fun value meetsValue checked element member => ?_
    obtain ⟨inner, listed, checked⟩ := (andThen_accepted_iff _ _ _).1 checked
    split at checked
    · cases checked
    · cases checked
      obtain ⟨items, rfl, listed⟩ := Check.exists_of_list listed
      obtain ⟨item, isThere, checked⟩ := exists_of_mem_items listed element member
      obtain ⟨members, rfl, read⟩ := (Check.record_accepted_iff _ _ _ _).1 checked
      rw [Json.meets_arr, Json.meetsItems_iff] at meetsValue
      exact Element.meets_of_ofMembers closed (meetsValue _ isThere).values read
  · exact Field.meets_of_withDefault
      (fun animation : Option AnimationSettings => ∀ settings ∈ animation, settings.Meets standard)
      meets.values animation (fun _ none => nomatch none)
      fun _ => AnimationSettings.meets_of_optional closed
  · exact Field.meets_of_withDefault (fun component => ∀ source ∈ component, standard.text source)
      meets.values component (fun _ none => nomatch none) fun _ => Check.text_of_optional

/-- It is written as a value that does. -/
theorem Meets.toJson
    {snapshot : Snapshot}
    (meets : snapshot.Meets standard)
    (valid : snapshot.Valid) : snapshot.toJson.Meets standard := by
  have elements : Json.MeetsItems standard (snapshot.elements.map Element.toJson) := by
    rw [Json.meetsItems_iff]
    intro item member
    obtain ⟨element, isElement, rfl⟩ := List.mem_map.1 member
    exact (meets.elements element isElement).toJson closed.toBasic
  have animation : (animationJson snapshot.animation).Meets standard := by
    unfold animationJson
    split
    · rename_i settings isThere
      exact (meets.animation settings isThere).toJson closed.toBasic
    · exact Json.meets_null
  refine Json.meets_plainMembers closed.toBasic (by simp [Table.Distinct, members]) ?_ ?_
  · simp only [members, Table.names_cons, Table.names_nil]
    decide
  · simp [Json.MeetsValues, members, meets.manifest.toJson closed valid.manifest.extras, elements,
      animation, Json.meets_ofText? meets.component]

end Snapshot

end BroadcastGraphics
