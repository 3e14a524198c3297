import BroadcastGraphics.Proofs.AcceptedRecords
import BroadcastGraphics.Proofs.JsonStandard
import BroadcastGraphics.Proofs.SessionAction

/-!
# What the data of templates is made of

Records are read from values and edits write values over records, so that the records of a template
meet every standard that the values it was given meet, provided that the standard is closed under
the few ways in which texts and integers are made from others.
-/

namespace BroadcastGraphics

namespace Json

/-- The text has characters of ASCII only. -/
def IsPlain (text : String) : Prop :=
  ∀ character ∈ text.toList, character.toNat < 128

instance (text : String) : Decidable (IsPlain text) :=
  inferInstanceAs (Decidable (∀ character ∈ text.toList, _))

/-- The texts and integers that records have of themselves are up to the standard. -/
structure Standard.Basic (standard : Standard) : Prop where
  plain : ∀ text, IsPlain text -> standard.text text
  small : ∀ value : Int, value.natAbs ≤ 1000 -> standard.integer value
  whole : ∀ (number : Binary64) (value : Int), number.whole? = some value -> standard.integer value

/-- Whatever is made from values that meet the standard is up to it. -/
structure Standard.Closed (standard : Standard) : Prop extends Standard.Basic standard where
  single : ∀ text character, standard.text text -> character ∈ text.toList ->
    standard.text (String.singleton character)
  shown : ∀ value : Json, value.Meets standard -> standard.text value.display
  named : ∀ name, standard.text name -> (Name.toJson name).Meets standard
  read : ∀ (value : Json) (number : Int), value.Meets standard ->
    Check.integer value = .accepted number -> standard.integer number

section Fields

variable {standard : Standard}

theorem Meets.further
    {members : Table Json}
    (meets : Meets standard (.obj members))
    (fields : List Field) : Meets standard (.obj (Field.further fields members)) :=
  meets.sublist List.filter_sublist

/-- Members renamed to the given names of fields. -/
theorem Meets.byGivenName
    {fields : List Field}
    {updates : Table Json}
    (meetsNames : ∀ field ∈ fields, standard.text field.givenName)
    (meets : Meets standard (.obj updates)) :
    Meets standard (.obj (Field.byGivenName fields updates)) := by
  rw [Field.byGivenName_eq_foldl]
  have step : ∀ (rest renamed : Table Json), Meets standard (.obj renamed) ->
      (∀ update ∈ rest, standard.text update.1 ∧ update.2.Meets standard) ->
      Meets standard (.obj (rest.foldl (fun renamed member =>
        Table.put renamed (Field.givenNameOf fields member.1) member.2) renamed)) := by
    intro rest
    induction rest with
    | nil => exact fun renamed meetsRenamed _ => meetsRenamed
    | cons update rest ih =>
      intro renamed meetsRenamed each
      have here := each update List.mem_cons_self
      refine ih _ ?_ fun member later => each member (List.mem_cons_of_mem _ later)
      refine meetsRenamed.put ?_ here.2
      rcases Field.givenNameOf_cases fields update.1 with ⟨field, isField, given⟩ | ⟨_, given⟩
      · rw [given]
        exact meetsNames field isField
      · rw [given]
        exact here.1
  exact step updates [] meets_nil meets.each

end Fields

/-! ## Members of lists of pairs -/

section Pairs

variable {standard : Standard}

theorem MeetsValues.namePut
    {members : Table Json}
    {value : Json}
    (meets : MeetsValues standard members)
    (scalar : Json)
    (meetsValue : value.Meets standard) : MeetsValues standard (Name.put members scalar value) := by
  unfold Name.put
  split
  · exact meets.put _ meetsValue
  · split <;> exact meets.put _ meetsValue

variable (closed : standard.Closed)
include closed

theorem meets_of_pairAt
    {index : Nat}
    {item : Json}
    {pair : Json × Json}
    (meets : item.Meets standard)
    (isPair : pairAt index item = .ok pair) : pair.2.Meets standard := by
  unfold pairAt at isPair
  split at isPair
  · cases isPair
    rw [Meets, MeetsItems, MeetsItems] at meets
    exact meets.2.1
  · cases isPair
  · split at isPair
    · rename_i characters
      cases isPair
      rw [Meets] at meets ⊢
      exact closed.single _ _ meets (by rw [characters]; simp)
    · cases isPair
  · rename_i first value second other
    cases isPair
    exact closed.named second (meets.each (second, other) (by simp)).1
  · cases isPair
  · cases isPair

theorem MeetsValues.putPairs
    {items : List Json}
    (meetsItems : MeetsItems standard items)
    {members : Table Json}
    (meets : MeetsValues standard members)
    (index : Nat) : MeetsValues standard (Json.putPairs members index items).1 := by
  induction items generalizing members index with
  | nil => exact meets
  | cons item rest ih =>
    unfold Json.putPairs
    split
    · rename_i after put
      refine ih meetsItems.2 ?_ (index + 1)
      obtain ⟨pair, isPair, put⟩ := ok_of_bind put
      dsimp only at put
      split at put
      · cases put
        exact meets.namePut _ (meets_of_pairAt closed meetsItems.1 isPair)
      · cases put
    · exact meets

/-- The members that a value stands for, be it an object or a list of pairs. -/
theorem meetsValues_of_toMembers
    {value : Json}
    {members : Table Json}
    (meets : value.Meets standard)
    (isMembers : value.toMembers = .ok members) : MeetsValues standard members := by
  have nothing : MeetsValues standard [] := fun _ member => nomatch member
  have ofPut (meetsPut : MeetsValues standard (putMembers [] value).1)
      (notObject : ∀ given, value ≠ .obj given) : MeetsValues standard members := by
    unfold toMembers at isMembers
    split at isMembers
    · exact absurd rfl (notObject _)
    · split at isMembers
      · rename_i put
        cases isMembers
        rwa [put] at meetsPut
      · cases isMembers
  cases value with
  | obj given =>
    cases isMembers
    exact meets.values
  | arr items =>
    rw [Meets] at meets
    exact ofPut (MeetsValues.putPairs closed meets nothing 0) fun _ same => by cases same
  | str text =>
    rw [Meets] at meets
    refine ofPut (MeetsValues.putPairs closed ?_ nothing 0) fun _ same => by cases same
    rw [meetsItems_iff]
    intro item member
    obtain ⟨character, isThere, rfl⟩ := List.mem_map.1 member
    rw [Meets]
    exact closed.single text character meets isThere
  | _ => cases isMembers

end Pairs
end Json

open Checked

variable {standard : Json.Standard}

/-! ## Fields -/

namespace Field

variable {α : Type} {field : Field} {members : Table Json} {check : Json -> Checked α}

theorem meets_of_withDefault
    (Holds : α -> Prop)
    {default result : α}
    (meets : Json.MeetsValues standard members)
    (accepted : field.withDefault default check members = .accepted result)
    (atDefault : Holds default)
    (checked : ∀ value : Json, value.Meets standard -> check value = .accepted result ->
      Holds result) : Holds result :=
  holds_of_withDefault Holds accepted atDefault
    fun _ value present => checked value (meets.get? present)

theorem meets_of_required
    (Holds : α -> Prop)
    {result : α}
    (meets : Json.MeetsValues standard members)
    (accepted : field.required check members = .accepted result)
    (checked : ∀ value : Json, value.Meets standard -> check value = .accepted result ->
      Holds result) : Holds result :=
  holds_of_required Holds accepted fun _ value present => checked value (meets.get? present)

/-- Fields with one name each, followed by further members. -/
theorem meets_append
    {fields : List Field}
    {held extras : Table Json}
    (names : Table.names held = fields.map writtenName)
    (distinct : (fields.map writtenName).Nodup)
    (apart : Apart fields extras)
    (meetsHeld : ∀ member ∈ held, standard.text member.1 ∧ member.2.Meets standard)
    (meetsExtras : Json.Meets standard (.obj extras)) :
    Json.Meets standard (.obj (held ++ extras)) := by
  refine Json.meets_obj ?_ fun member isThere => ?_
  · unfold Table.Distinct Table.names
    rw [List.map_append, List.nodup_append]
    change (Table.names held).Nodup ∧ _ ∧ ∀ name ∈ Table.names held, _
    rw [names]
    refine ⟨distinct, meetsExtras.distinct, fun name isHeld other isExtra same => ?_⟩
    obtain ⟨field, isField, rfl⟩ := List.mem_map.1 isHeld
    exact apart field isField (same ▸ isExtra)
  · rcases List.mem_append.1 isThere with isHeld | isExtra
    · exact meetsHeld member isHeld
    · exact meetsExtras.each member isExtra

end Field

namespace Check

theorem text_of_meets
    {value : Json}
    {text : String}
    (meets : value.Meets standard)
    (accepted : Check.text value = .accepted text) : standard.text text := by
  rw [eq_str_of_text accepted, Json.Meets] at meets
  exact meets

theorem integer_of_checkStepCount
    (closed : standard.Closed)
    {value : Json}
    {count : Int}
    (meets : value.Meets standard)
    (accepted : Manifest.checkStepCount value = .accepted count) : standard.integer count := by
  obtain ⟨inner, read, accepted⟩ := (andThen_accepted_iff _ _ _).1 accepted
  split at accepted
  · cases accepted
  · exact Checked.accepted.inj accepted ▸ closed.read value inner meets read

theorem integer_of_positiveInteger
    (closed : standard.Closed)
    {value : Json}
    {number : Int}
    (meets : value.Meets standard)
    (accepted : positiveInteger value = .accepted number) : standard.integer number := by
  obtain ⟨inner, read, accepted⟩ := (andThen_accepted_iff _ _ _).1 accepted
  split at accepted
  · exact Checked.accepted.inj accepted ▸ closed.read value inner meets read
  · cases accepted

end Check

/-! ## Manifests -/

section Manifests

variable (closed : standard.Closed)
include closed

theorem SchemaProperty.meets_of_ofMembers
    {members : Table Json}
    {property : SchemaProperty}
    (meets : Json.Meets standard (.obj members))
    (accepted : SchemaProperty.ofMembers members = .accepted property) :
    Json.Meets standard (.obj property.members) := by
  obtain ⟨kind, title, default, extras⟩ := (SchemaProperty.ofMembers_accepted_iff _ _).1 accepted
  have kindMeets : standard.text property.kind :=
    Field.meets_of_withDefault standard.text meets.values kind (closed.plain _ (by decide))
      fun _ => Check.text_of_meets
  have titleMeets : standard.text property.title :=
    Field.meets_of_withDefault standard.text meets.values title (closed.plain _ (by decide))
      fun _ => Check.text_of_meets
  have defaultMeets : property.default.Meets standard :=
    Field.meets_of_withDefault (Json.Meets standard) meets.values default Json.meets_null
      fun value meetsValue any => Checked.accepted.inj any ▸ meetsValue
  refine Field.meets_append rfl (by decide) (SchemaProperty.valid_of_ofMembers accepted) ?_
    (extras ▸ meets.further _)
  simp [kindMeets, titleMeets, defaultMeets, closed.plain _ (show Json.IsPlain "type" by decide),
    closed.plain _ (show Json.IsPlain "title" by decide),
    closed.plain _ (show Json.IsPlain "default" by decide)]

theorem CustomAction.meets_of_ofMembers
    {members : Table Json}
    {action : CustomAction}
    (meets : Json.Meets standard (.obj members))
    (accepted : CustomAction.ofMembers members = .accepted action) :
    Json.Meets standard (.obj action.members) := by
  obtain ⟨id, name, description, extras⟩ := (CustomAction.ofMembers_accepted_iff _ _).1 accepted
  have idMeets : standard.text action.id :=
    Field.meets_of_required standard.text meets.values id fun _ => Check.text_of_meets
  have nameMeets : standard.text action.name :=
    Field.meets_of_required standard.text meets.values name fun _ => Check.text_of_meets
  have descriptionMeets : standard.text action.description :=
    Field.meets_of_withDefault standard.text meets.values description (closed.plain _ (by decide))
      fun _ => Check.text_of_meets
  refine Field.meets_append rfl (by decide) (CustomAction.valid_of_ofMembers accepted) ?_
    (extras ▸ meets.further _)
  simp [idMeets, nameMeets, descriptionMeets, closed.plain _ (show Json.IsPlain "id" by decide),
    closed.plain _ (show Json.IsPlain "name" by decide),
    closed.plain _ (show Json.IsPlain "description" by decide)]

/-- The texts of a schema are up to the standard, and its properties and further members meet it. -/
structure GraphicSchema.Meets (standard : Json.Standard) (schema : GraphicSchema) : Prop where
  kind : standard.text schema.kind
  properties : Json.Meets standard
    (.obj (Table.mapEntries (fun property => .obj property.members) schema.properties))
  extras : Json.Meets standard (.obj schema.extras)
  apart : Field.Apart fields schema.extras

omit closed in
/-- Entries that are read one by one under their names make an object. -/
theorem Json.meets_entries
    {α : Type}
    {check : Json -> Checked α}
    {write : α -> Json}
    {value : Json}
    {entries : Table α}
    (meets : value.Meets standard)
    (accepted : Check.mapping check value = .accepted entries)
    (checked : ∀ (value : Json) (result : α), value.Meets standard ->
      check value = .accepted result -> (write result).Meets standard) :
    Json.Meets standard (.obj (Table.mapEntries write entries)) := by
  obtain ⟨table, rfl, accepted⟩ := Check.exists_of_mapping accepted
  refine Json.meets_obj ?_ fun member isThere => ?_
  · have names : Table.names (Table.mapEntries write entries) = Table.names table :=
      (List.map_map).trans (names_of_entries accepted)
    unfold Table.Distinct
    rw [names]
    exact meets.distinct
  · obtain ⟨entry, isEntry, rfl⟩ := List.mem_map.1 isThere
    obtain ⟨value, isThere, isChecked⟩ := exists_of_mem_entries accepted entry isEntry
    exact (meets.each _ isThere).imp_right fun meetsValue => checked value entry.2 meetsValue isChecked

theorem GraphicSchema.meets_of_ofMembers
    {members : Table Json}
    {schema : GraphicSchema}
    (meets : Json.Meets standard (.obj members))
    (accepted : GraphicSchema.ofMembers members = .accepted schema) : schema.Meets standard := by
  have valid := GraphicSchema.valid_of_ofMembers accepted
  obtain ⟨kind, properties, extras⟩ := (GraphicSchema.ofMembers_accepted_iff _ _).1 accepted
  constructor
  · exact Field.meets_of_withDefault standard.text meets.values kind (closed.plain _ (by decide))
      fun _ => Check.text_of_meets
  · refine Field.meets_of_withDefault (fun properties => Json.Meets standard
      (.obj (Table.mapEntries (fun property => .obj property.members) properties))) meets.values
      properties Json.meets_nil fun value meetsValue checked => ?_
    refine Json.meets_entries meetsValue checked fun value property meetsProperty checked => ?_
    obtain ⟨members, rfl, read⟩ := (Check.record_accepted_iff _ _ _ _).1 checked
    exact SchemaProperty.meets_of_ofMembers closed meetsProperty read
  · exact extras ▸ meets.further _
  · exact valid.extras

theorem GraphicSchema.Meets.members
    {schema : GraphicSchema}
    (meets : schema.Meets standard) : Json.Meets standard (.obj schema.members) := by
  refine Field.meets_append rfl (by decide) meets.apart ?_ meets.extras
  simp [meets.kind, meets.properties, closed.plain _ (show Json.IsPlain "type" by decide),
    closed.plain _ (show Json.IsPlain "properties" by decide)]

/-- The texts and numbers of a manifest are up to the standard, and its parts and further members
meet it. -/
structure Manifest.Meets (standard : Json.Standard) (manifest : Manifest) : Prop where
  texts : ∀ text ∈ [manifest.schemaUrl, manifest.id, manifest.version, manifest.name,
    manifest.description, manifest.author.name, manifest.author.email, manifest.main],
    standard.text text
  steps : standard.integer manifest.stepCount
  schema : manifest.schema.Meets standard
  actions : ∀ action ∈ manifest.customActions, Json.Meets standard (.obj action.members)
  extras : Json.Meets standard (.obj manifest.extras)

theorem Author.texts_of_check
    {value : Json}
    {author : Author}
    (meets : value.Meets standard)
    (accepted : Author.check value = .accepted author) :
    standard.text author.name ∧ standard.text author.email := by
  obtain ⟨members, rfl, read⟩ := (Check.record_accepted_iff _ _ _ _).1 accepted
  simp only [Author.ofMembers, seq_accepted_iff, map_accepted_iff] at read
  obtain ⟨_, _, ⟨_, name, rfl⟩, email, rfl⟩ := read
  exact ⟨Field.meets_of_withDefault standard.text meets.values name (closed.plain _ (by decide))
      fun _ => Check.text_of_meets,
    Field.meets_of_withDefault standard.text meets.values email (closed.plain _ (by decide))
      fun _ => Check.text_of_meets⟩

/-- A manifest that is read from members of a standard meets it. -/
theorem Manifest.meets_of_ofMembers
    {members : Table Json}
    {manifest : Manifest}
    (meets : Json.Meets standard (.obj members))
    (accepted : Manifest.ofMembers members = .accepted manifest) : manifest.Meets standard := by
  obtain ⟨schemaUrl, id, version, name, description, author, main, schema, _, _, steps, actions,
    extras⟩ := (Manifest.ofMembers_accepted_iff _ _).1 accepted
  have text : ∀ {field : Field} {default result : String},
      field.withDefault default Check.text members = .accepted result ->
      Json.IsPlain default -> standard.text result := fun read plain =>
    Field.meets_of_withDefault standard.text meets.values read (closed.plain _ plain)
      fun _ => Check.text_of_meets
  have idMeets : standard.text manifest.id :=
    Field.meets_of_required standard.text meets.values id fun value meetsValue checked => by
      obtain ⟨inner, isText, checked⟩ := (andThen_accepted_iff _ _ _).1 checked
      split at checked
      · exact Checked.accepted.inj checked ▸ Check.text_of_meets meetsValue isText
      · cases checked
  have authorMeets : standard.text manifest.author.name ∧ standard.text manifest.author.email :=
    Field.meets_of_withDefault (fun author => standard.text author.name ∧ standard.text author.email)
      meets.values author ⟨closed.plain _ (by decide), closed.plain _ (by decide)⟩
      fun _ => Author.texts_of_check closed
  constructor
  · simp only [List.forall_mem_cons]
    exact ⟨text schemaUrl (by decide), idMeets, text version (by decide),
      Field.meets_of_required standard.text meets.values name fun _ => Check.text_of_meets,
      text description (by decide), authorMeets.1, authorMeets.2, text main (by decide),
      fun _ none => nomatch none⟩
  · exact Field.meets_of_withDefault standard.integer meets.values steps
      (closed.small _ (by decide)) fun _ => Check.integer_of_checkStepCount closed
  · refine Field.meets_of_withDefault (GraphicSchema.Meets standard) meets.values schema ?_
      fun value meetsValue checked => ?_
    · exact ⟨closed.plain _ (by decide), Json.meets_nil, Json.meets_nil,
        fun _ _ => List.not_mem_nil⟩
    · obtain ⟨members, rfl, read⟩ := (Check.record_accepted_iff _ _ _ _).1 checked
      exact GraphicSchema.meets_of_ofMembers closed meetsValue read
  · refine Field.meets_of_withDefault
      (fun actions => ∀ action ∈ actions, Json.Meets standard (.obj action.members)) meets.values
      actions (fun _ none => nomatch none) fun value meetsValue checked action member => ?_
    obtain ⟨items, rfl, checked⟩ := Check.exists_of_list checked
    obtain ⟨item, isThere, checked⟩ := exists_of_mem_items checked action member
    obtain ⟨members, rfl, read⟩ := (Check.record_accepted_iff _ _ _ _).1 checked
    rw [Json.meets_arr, Json.meetsItems_iff] at meetsValue
    exact CustomAction.meets_of_ofMembers closed (meetsValue _ isThere) read
  · exact extras ▸ meets.further _

theorem Manifest.Meets.author
    {manifest : Manifest}
    (meets : manifest.Meets standard) : manifest.author.toJson.Meets standard := by
  have texts := meets.texts
  simp only [List.forall_mem_cons] at texts
  obtain ⟨_, _, _, _, _, name, email, _⟩ := texts
  exact @Json.meets_zip standard ["name", "email"]
    [.str manifest.author.name, .str manifest.author.email] (by decide) (Nat.le_refl 2)
    (fun name member => closed.plain name (by revert name; decide))
    (by simp [Json.MeetsItems, name, email])

theorem Manifest.Meets.fullValues
    {manifest : Manifest}
    (meets : manifest.Meets standard) : Json.MeetsItems standard manifest.fullValues := by
  have texts := meets.texts
  simp only [List.forall_mem_cons] at texts
  obtain ⟨schemaUrl, id, version, name, description, _, _, main, _⟩ := texts
  have actions : Json.MeetsItems standard
      (manifest.customActions.map fun action => .obj action.members) := by
    rw [Json.meetsItems_iff]
    intro item member
    obtain ⟨action, isAction, rfl⟩ := List.mem_map.1 member
    exact meets.actions action isAction
  simp [Manifest.fullValues, Json.MeetsItems, schemaUrl, id, version, name, description,
    meets.author closed, main, meets.schema.members closed, meets.steps, actions]

theorem Manifest.Meets.givenMembers
    {manifest : Manifest}
    (meets : manifest.Meets standard) : Json.Meets standard (.obj manifest.givenMembers) := by
  refine Json.Meets.merge (Json.meets_zip (by decide) (by simp [Manifest.fields,
    Manifest.fullValues]) (fun name member => closed.plain name ?_) (meets.fullValues closed))
    meets.extras.each
  revert name
  decide

theorem Manifest.Meets.edited
    {manifest edited : Manifest}
    {updates : Table Json}
    (meets : manifest.Meets standard)
    (meetsUpdates : Json.Meets standard (.obj updates))
    (accepted : manifest.edited updates = .accepted edited) : edited.Meets standard := by
  refine Manifest.meets_of_ofMembers closed ((meets.givenMembers closed).merge ?_) accepted
  refine (meetsUpdates.byGivenName fun field member => closed.plain _ ?_).each
  revert field
  decide

end Manifests

/-! ## Elements and settings -/

section Elements

variable (closed : standard.Closed) (basic : standard.Basic)

include basic in
theorem Binary64.meets_plainJson
    (number : Binary64) : number.plainJson.Meets standard := by
  unfold plainJson
  split
  · rename_i whole isWhole
    exact (Json.meets_int _).2 (basic.whole number whole isWhole)
  · exact Json.meets_float number

theorem Json.meets_ofText?
    {text? : Option String}
    (meets : ∀ text ∈ text?, standard.text text) : (Json.ofText? text?).Meets standard := by
  cases text? with
  | none => exact Json.meets_null
  | some text => exact (Json.meets_str text).2 (meets text rfl)

include basic in
/-- Members under names of ASCII make an object if the names are distinct. -/
theorem Json.meets_plainMembers
    {members : Table Json}
    (distinct : Table.Distinct members)
    (plain : ∀ name ∈ Table.names members, Json.IsPlain name)
    (meets : Json.MeetsValues standard members) : Json.Meets standard (.obj members) :=
  Json.meets_obj distinct fun member isThere =>
    ⟨basic.plain _ (plain _ (Table.mem_names_of_mem isThere)), meets member isThere⟩

/-- The texts of an element are up to the standard, and its style meets it. -/
structure Element.Meets (standard : Json.Standard) (element : Element) : Prop where
  id : standard.text element.id
  content : ∀ content ∈ element.content, standard.text content
  style : element.styleJson.Meets standard

theorem Check.text_of_optional
    {value : Json}
    {text? : Option String}
    (meets : value.Meets standard)
    (accepted : Check.optional Check.text value = .accepted text?) :
    ∀ text ∈ text?, standard.text text := by
  intro text isThere
  rcases Check.optional_accepted accepted with rfl | ⟨inner, rfl, checked⟩
  · cases isThere
  · cases isThere
    exact Check.text_of_meets meets checked

include closed in
/-- The style that a value gives: every value is shown as a text. -/
theorem Element.meets_of_checkStyle
    {value : Json}
    {style : Table String}
    (meets : value.Meets standard)
    (accepted : Element.checkStyle value = .accepted style) :
    Json.Meets standard (.obj (Table.mapEntries Json.str style)) := by
  cases value with
  | null =>
    cases accepted
    exact Json.meets_nil
  | obj members =>
    cases accepted
    have present := meets.sublist
      (List.filter_sublist : (Json.presentMembers members).Sublist members)
    unfold Table.mapEntries
    rw [List.map_map]
    refine Json.meets_obj ?_ fun member isThere => ?_
    · unfold Table.Distinct Table.names
      rw [List.map_map]
      exact present.distinct
    · obtain ⟨given, isGiven, rfl⟩ := List.mem_map.1 isThere
      have each := present.each given isGiven
      exact ⟨each.1, (Json.meets_str _).2 (closed.shown given.2 each.2)⟩
  | _ => cases accepted

include closed in
/-- An element that is read from values of a standard meets it. -/
theorem Element.meets_of_ofMembers
    {members : Table Json}
    {element : Element}
    (meets : Json.MeetsValues standard members)
    (accepted : Element.ofMembers members = .accepted element) : element.Meets standard := by
  have id := Element.id_of_ofMembers accepted
  obtain ⟨_, _, _, _, _, _, content, style⟩ := (Element.ofMembers_accepted_iff _ _).1 accepted
  constructor
  · exact (Json.meets_str _).1 (meets.get? id)
  · exact Field.meets_of_withDefault (fun content => ∀ text ∈ content, standard.text text) meets
      content (fun _ none => nomatch none) fun _ => Check.text_of_optional
  · exact Field.meets_of_withDefault
      (fun style => Json.Meets standard (.obj (Table.mapEntries Json.str style))) meets style
      Json.meets_nil fun _ => Element.meets_of_checkStyle closed

include basic in
theorem Element.Meets.members
    {element : Element}
    (meets : element.Meets standard) : Json.Meets standard (.obj element.members) := by
  refine Json.meets_plainMembers basic (by simp [Table.Distinct, Element.members]) ?_ ?_
  · simp only [Element.members, Table.names_cons, Table.names_nil]
    decide
  · have kind : standard.text element.kind.name :=
      basic.plain _ (by cases element.kind <;> decide)
    simp [Json.MeetsValues, Element.members, meets.id, kind, Binary64.meets_plainJson basic,
      Json.meets_ofText? meets.content, meets.style]

include basic in
theorem Element.Meets.toJson
    {element : Element}
    (meets : element.Meets standard) : element.toJson.Meets standard :=
  (meets.members basic).sublist List.filter_sublist

/-- The durations of settings are up to the standard. -/
structure AnimationSettings.Meets (standard : Json.Standard) (settings : AnimationSettings) :
    Prop where
  slideIn : standard.integer settings.slideInDuration
  slideOut : standard.integer settings.slideOutDuration

include closed in
theorem AnimationSettings.meets_of_ofMembers
    {members : Table Json}
    {settings : AnimationSettings}
    (meets : Json.MeetsValues standard members)
    (accepted : AnimationSettings.ofMembers members = .accepted settings) :
    settings.Meets standard := by
  obtain ⟨slideIn, slideOut, _⟩ := (AnimationSettings.ofMembers_accepted_iff _ _).1 accepted
  exact ⟨Field.meets_of_withDefault standard.integer meets slideIn (closed.small _ (by decide))
      fun _ => Check.integer_of_positiveInteger closed,
    Field.meets_of_withDefault standard.integer meets slideOut (closed.small _ (by decide))
      fun _ => Check.integer_of_positiveInteger closed⟩

include basic in
theorem AnimationSettings.meets_standard : AnimationSettings.standard.Meets standard :=
  ⟨basic.small _ (by decide), basic.small _ (by decide)⟩

include basic in
theorem AnimationSettings.Meets.values
    {settings : AnimationSettings}
    (meets : settings.Meets standard) : Json.MeetsItems standard settings.values := by
  have easing : ∀ easing : Easing, standard.text easing.name := fun easing =>
    basic.plain _ (by cases easing <;> decide)
  have direction : ∀ direction : Direction, standard.text direction.name := fun direction =>
    basic.plain _ (by cases direction <;> decide)
  have exit : (Json.ofText? (settings.slideOutDirection.map Direction.name)).Meets standard := by
    refine Json.meets_ofText? fun text isThere => ?_
    obtain ⟨side, _, rfl⟩ := Option.mem_map.1 isThere
    exact direction side
  simp [AnimationSettings.values, Json.MeetsItems, meets.slideIn, meets.slideOut, easing, direction,
    exit]

include basic in
theorem AnimationSettings.Meets.toJson
    {settings : AnimationSettings}
    (meets : settings.Meets standard) : settings.toJson.Meets standard := by
  refine Json.meets_zip (by decide) (Nat.le_refl 6) (fun name member => basic.plain name ?_)
    (meets.values basic)
  revert name
  decide

include closed in
theorem AnimationSettings.Meets.edited
    {settings edited : AnimationSettings}
    {updates : Table Json}
    (meets : settings.Meets standard)
    (meetsUpdates : Json.Meets standard (.obj updates))
    (accepted : settings.edited updates = .accepted edited) : edited.Meets standard := by
  have plain : ∀ field ∈ AnimationSettings.fields, standard.text field.givenName :=
    fun field member => closed.plain _ (by revert field; decide)
  have given : Json.Meets standard (.obj settings.givenMembers) := by
    refine Json.meets_zip (by decide) (Nat.le_refl 6) (fun name member => closed.plain name ?_)
      (meets.values closed.toBasic)
    revert name
    decide
  exact AnimationSettings.meets_of_ofMembers closed
    (given.values.merge (meetsUpdates.byGivenName plain).values) accepted

end Elements

end BroadcastGraphics
