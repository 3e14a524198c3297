import BroadcastGraphics.Snapshot

/-!
# Reading records field by field

A record is accepted exactly when each of its fields is.  The lemmas here turn the reader of a
record into a list of conditions, one for each field, and say where a field is looked for.
-/

namespace BroadcastGraphics

open Checked

namespace Json

variable {members : Table Json} {name : String} {value : Json}

theorem memberOrNull_of_get?
    (present : Table.get? members name = some value) : memberOrNull members name = value := by
  unfold memberOrNull
  rw [present, Option.getD_some]

/-- What is read of a member and is not nothing stands there. -/
theorem get?_of_memberOrNull
    (given : memberOrNull members name = value)
    (notNull : value ≠ .null) : Table.get? members name = some value := by
  unfold memberOrNull at given
  cases present : Table.get? members name with
  | none =>
    rw [present] at given
    exact absurd given.symm notNull
  | some found =>
    rw [present] at given
    exact congrArg some given

end Json

theorem Field.find?_plain
    (name : String)
    (members : Table Json) :
    (Field.plain name).find? members = (Table.get? members name).map fun value => (name, value) := by
  unfold Field.find? Field.plain
  cases Table.get? members name <;> rfl

/-- A required field with one name is read from the member of that name. -/
theorem Field.required_plain_accepted_iff
    {α : Type}
    (name : String)
    (check : Json -> Checked α)
    (members : Table Json)
    (value : α) :
    (Field.plain name).required check members = .accepted value ↔
      ∃ member, Table.get? members name = some member ∧ check member = .accepted value := by
  unfold Field.required
  rw [Field.find?_plain]
  cases Table.get? members name with
  | none => simp
  | some member => simp

namespace Field

/-! ## Where a field is found -/

section Found

variable {α : Type} {field : Field} {members : Table Json} {name : String} {value : Json}

theorem find?_written
    (present : Table.get? members field.writtenName = some value) :
    field.find? members = some (field.writtenName, value) := by
  unfold find?
  rw [present]

theorem find?_given
    (absent : Table.get? members field.writtenName = none)
    (present : Table.get? members field.givenName = some value) :
    field.find? members = some (field.givenName, value) := by
  unfold find?
  rw [absent, present]
  rfl

/-- A field is found in a member that has one of its names. -/
theorem get?_of_find?
    (found : field.find? members = some (name, value)) :
    Table.get? members name = some value ∧
      (name = field.writtenName ∨ name = field.givenName) := by
  unfold find? at found
  cases written : Table.get? members field.writtenName with
  | some other =>
    rw [written] at found
    cases found
    exact ⟨written, Or.inl rfl⟩
  | none =>
    rw [written] at found
    cases given : Table.get? members field.givenName with
    | some other =>
      rw [given] at found
      cases found
      exact ⟨given, Or.inr rfl⟩
    | none =>
      rw [given] at found
      cases found

theorem required_found
    {check : Json -> Checked α}
    {result : α}
    (found : field.find? members = some (name, value))
    (accepted : check value = .accepted result) :
    field.required check members = .accepted result := by
  unfold required
  rw [found]
  dsimp only
  rw [accepted]
  rfl

theorem withDefault_found
    {check : Json -> Checked α}
    {default result : α}
    (found : field.find? members = some (name, value))
    (accepted : check value = .accepted result) :
    field.withDefault default check members = .accepted result := by
  unfold withDefault
  rw [found]
  dsimp only
  rw [accepted]
  rfl

theorem withDefault_absent
    {check : Json -> Checked α}
    {default : α}
    (absent : field.find? members = none) :
    field.withDefault default check members = .accepted default := by
  unfold withDefault
  rw [absent]

/-- A field with a default holds what its member is checked as, or the default. -/
theorem withDefault_accepted
    {check : Json -> Checked α}
    {default result : α}
    (accepted : field.withDefault default check members = .accepted result) :
    result = default ∨ ∃ name value, field.find? members = some (name, value) ∧
      check value = .accepted result := by
  unfold withDefault at accepted
  cases found : field.find? members with
  | none =>
    rw [found] at accepted
    exact Or.inl (Checked.accepted.inj accepted).symm
  | some member =>
    rw [found] at accepted
    exact Or.inr ⟨member.1, member.2, rfl, (under_accepted_iff _ _ _).1 accepted⟩

end Found

/-! ## Given names -/

/-- The given name of the field that is written under a name, and the name itself if there is no such
field. -/
def givenNameOf (fields : List Field) (name : String) : String :=
  ((fields.find? fun field => field.writtenName == name).map givenName).getD name

theorem givenNameOf_cases
    (fields : List Field)
    (name : String) :
    (∃ field ∈ fields, givenNameOf fields name = field.givenName) ∨
      (∀ field ∈ fields, field.writtenName ≠ name) ∧ givenNameOf fields name = name := by
  unfold givenNameOf
  cases found : fields.find? fun field => field.writtenName == name with
  | none => exact Or.inr ⟨fun field isField same =>
      List.find?_eq_none.1 found field isField (beq_iff_eq.2 same), rfl⟩
  | some field => exact Or.inl ⟨field, List.mem_of_find?_eq_some found, rfl⟩

theorem byGivenName_eq_foldl
    (fields : List Field)
    (members : Table Json) :
    byGivenName fields members =
      members.foldl (fun renamed member =>
        Table.put renamed (givenNameOf fields member.1) member.2) [] := by
  unfold byGivenName givenNameOf
  congr 1
  funext renamed member
  cases fields.find? fun field => field.writtenName == member.1 <;> rfl

/-! ## Further members -/

/-- No member has the written name of a field. -/
def Apart {α : Type} (fields : List Field) (extras : Table α) : Prop :=
  ∀ field ∈ fields, field.writtenName ∉ Table.names extras

/-- Further members do not have the written name of a field. -/
theorem apart_further
    (fields : List Field)
    (members : Table Json) :
    Apart fields (further fields members) := by
  intro field isField member
  obtain ⟨entry, isFurther, named⟩ := List.mem_map.1 member
  obtain ⟨isMember, notFound⟩ := List.mem_filter.1 isFurther
  rw [Bool.not_eq_true', List.any_eq_false] at notFound
  refine notFound field isField ?_
  have present : Table.has members field.writtenName = true := by
    rw [Table.has_iff_mem_names, ← named]
    exact List.mem_map_of_mem isMember
  obtain ⟨value, found⟩ := Option.isSome_iff_exists.1 present
  rw [find?_written found, named]
  exact beq_self_eq_true _

/-- Where the first members hold the fields, the others are further members. -/
theorem further_append
    {fields : List Field}
    {held extras : Table Json}
    (holds : ∀ name ∈ Table.names held, ∃ field ∈ fields,
      (field.find? (held ++ extras)).map Prod.fst = some name)
    (found : ∀ field ∈ fields, ∀ name,
      (field.find? (held ++ extras)).map Prod.fst = some name -> name ∉ Table.names extras) :
    further fields (held ++ extras) = extras := by
  unfold further
  rw [List.filter_append, List.filter_eq_nil_iff.2, List.nil_append, List.filter_eq_self.2]
  · intro entry member
    rw [Bool.not_eq_true', List.any_eq_false]
    intro field isField same
    exact found field isField entry.1 (eq_of_beq same) (List.mem_map_of_mem member)
  · intro entry member isKept
    obtain ⟨field, isField, same⟩ := holds entry.1 (List.mem_map_of_mem member)
    rw [Bool.not_eq_true', List.any_eq_false] at isKept
    refine isKept field isField ?_
    rw [same]
    exact beq_self_eq_true _

end Field

/-! ## Records -/

theorem SchemaProperty.ofMembers_accepted_iff
    (members : Table Json)
    (property : SchemaProperty) :
    SchemaProperty.ofMembers members = .accepted property ↔
      (Field.plain "type").withDefault "string" Check.text members = .accepted property.kind ∧
      (Field.plain "title").withDefault "" Check.text members = .accepted property.title ∧
      (Field.plain "default").withDefault .null Check.anything members
        = .accepted property.default ∧
      Field.further SchemaProperty.fields members = property.extras := by
  simp only [SchemaProperty.ofMembers, seq_accepted_iff, map_accepted_iff]
  constructor
  · rintro ⟨_, _, ⟨_, _, ⟨_, kind, rfl⟩, title, rfl⟩, default, rfl⟩
    exact ⟨kind, title, default, rfl⟩
  · rintro ⟨kind, title, default, extras⟩
    refine ⟨_, _, ⟨_, _, ⟨_, kind, rfl⟩, title, rfl⟩, default, ?_⟩
    rw [extras]

theorem GraphicSchema.ofMembers_accepted_iff
    (members : Table Json)
    (schema : GraphicSchema) :
    GraphicSchema.ofMembers members = .accepted schema ↔
      (Field.plain "type").withDefault "object" Check.text members = .accepted schema.kind ∧
      (Field.plain "properties").withDefault [] (Check.mapping SchemaProperty.check) members
        = .accepted schema.properties ∧
      Field.further GraphicSchema.fields members = schema.extras := by
  simp only [GraphicSchema.ofMembers, seq_accepted_iff, map_accepted_iff]
  constructor
  · rintro ⟨_, _, ⟨_, kind, rfl⟩, properties, rfl⟩
    exact ⟨kind, properties, rfl⟩
  · rintro ⟨kind, properties, extras⟩
    refine ⟨_, _, ⟨_, kind, rfl⟩, properties, ?_⟩
    rw [extras]

theorem CustomAction.ofMembers_accepted_iff
    (members : Table Json)
    (action : CustomAction) :
    CustomAction.ofMembers members = .accepted action ↔
      (Field.plain "id").required Check.text members = .accepted action.id ∧
      (Field.plain "name").required Check.text members = .accepted action.name ∧
      (Field.plain "description").withDefault "" Check.text members
        = .accepted action.description ∧
      Field.further CustomAction.fields members = action.extras := by
  simp only [CustomAction.ofMembers, seq_accepted_iff, map_accepted_iff]
  constructor
  · rintro ⟨_, _, ⟨_, _, ⟨_, id, rfl⟩, name, rfl⟩, description, rfl⟩
    exact ⟨id, name, description, rfl⟩
  · rintro ⟨id, name, description, extras⟩
    refine ⟨_, _, ⟨_, _, ⟨_, id, rfl⟩, name, rfl⟩, description, ?_⟩
    rw [extras]

/-- An element is accepted exactly when each of its fields is. -/
theorem Element.ofMembers_accepted_iff
    (members : Table Json)
    (element : Element) :
    Element.ofMembers members = .accepted element ↔
      (Field.plain "id").required Element.checkId members = .accepted element.id ∧
      (Field.plain "type").required (Check.choice ElementKind.options) members
        = .accepted element.kind ∧
      (Field.plain "x").withDefault Binary64.zero Check.finiteNumber members
        = .accepted element.x ∧
      (Field.plain "y").withDefault Binary64.zero Check.finiteNumber members
        = .accepted element.y ∧
      (Field.plain "width").withDefault (Binary64.ofInt 100) Check.finiteNumber members
        = .accepted element.width ∧
      (Field.plain "height").withDefault (Binary64.ofInt 100) Check.finiteNumber members
        = .accepted element.height ∧
      (Field.plain "content").withDefault none (Check.optional Check.text) members
        = .accepted element.content ∧
      (Field.plain "style").withDefault [] Element.checkStyle members
        = .accepted element.style := by
  simp only [Element.ofMembers, seq_accepted_iff, map_accepted_iff]
  constructor
  · rintro ⟨_, _, ⟨_, _, ⟨_, _, ⟨_, _, ⟨_, _, ⟨_, _, ⟨_, _, ⟨_, id, rfl⟩, kind, rfl⟩, x, rfl⟩, y,
      rfl⟩, width, rfl⟩, height, rfl⟩, content, rfl⟩, style, rfl⟩
    exact ⟨id, kind, x, y, width, height, content, style⟩
  · rintro ⟨id, kind, x, y, width, height, content, style⟩
    exact ⟨_, _, ⟨_, _, ⟨_, _, ⟨_, _, ⟨_, _, ⟨_, _, ⟨_, _, ⟨_, id, rfl⟩, kind, rfl⟩, x, rfl⟩, y,
      rfl⟩, width, rfl⟩, height, rfl⟩, content, rfl⟩, style, rfl⟩

/-- Settings are accepted exactly when each of their fields is. -/
theorem AnimationSettings.ofMembers_accepted_iff
    (members : Table Json)
    (settings : AnimationSettings) :
    AnimationSettings.ofMembers members = .accepted settings ↔
      slideInDurationField.withDefault standard.slideInDuration Check.positiveInteger members
        = .accepted settings.slideInDuration ∧
      slideOutDurationField.withDefault standard.slideOutDuration Check.positiveInteger members
        = .accepted settings.slideOutDuration ∧
      slideInEasingField.withDefault standard.slideInEasing (Check.choice Easing.options) members
        = .accepted settings.slideInEasing ∧
      slideOutEasingField.withDefault standard.slideOutEasing (Check.choice Easing.options) members
        = .accepted settings.slideOutEasing ∧
      slideInDirectionField.withDefault standard.slideInDirection
        (Check.choice Direction.options) members = .accepted settings.slideInDirection ∧
      slideOutDirectionField.withDefault standard.slideOutDirection
        (Check.optional (Check.choice Direction.options)) members
        = .accepted settings.slideOutDirection := by
  simp only [AnimationSettings.ofMembers, seq_accepted_iff, map_accepted_iff]
  constructor
  · rintro ⟨_, _, ⟨_, _, ⟨_, _, ⟨_, _, ⟨_, _, ⟨_, inDuration, rfl⟩, outDuration, rfl⟩, inEasing,
      rfl⟩, outEasing, rfl⟩, inDirection, rfl⟩, outDirection, rfl⟩
    exact ⟨inDuration, outDuration, inEasing, outEasing, inDirection, outDirection⟩
  · rintro ⟨inDuration, outDuration, inEasing, outEasing, inDirection, outDirection⟩
    exact ⟨_, _, ⟨_, _, ⟨_, _, ⟨_, _, ⟨_, _, ⟨_, inDuration, rfl⟩, outDuration, rfl⟩, inEasing,
      rfl⟩, outEasing, rfl⟩, inDirection, rfl⟩, outDirection, rfl⟩

/-- A snapshot is accepted exactly when each of its fields is. -/
theorem Snapshot.ofMembers_accepted_iff
    (members : Table Json)
    (snapshot : Snapshot) :
    Snapshot.ofMembers members = .accepted snapshot ↔
      (Field.plain "manifest").required Manifest.check members = .accepted snapshot.manifest ∧
      (Field.plain "elements").withDefault [] Snapshot.checkElements members
        = .accepted snapshot.elements ∧
      Snapshot.animationField.withDefault none (Check.optional AnimationSettings.check) members
        = .accepted snapshot.animation ∧
      Snapshot.componentField.withDefault none (Check.optional Check.text) members
        = .accepted snapshot.component := by
  simp only [Snapshot.ofMembers, seq_accepted_iff, map_accepted_iff]
  constructor
  · rintro ⟨_, _, ⟨_, _, ⟨_, _, ⟨_, manifest, rfl⟩, elements, rfl⟩, animation, rfl⟩, component, rfl⟩
    exact ⟨manifest, elements, animation, component⟩
  · rintro ⟨manifest, elements, animation, component⟩
    exact ⟨_, _, ⟨_, _, ⟨_, _, ⟨_, manifest, rfl⟩, elements, rfl⟩, animation, rfl⟩, component, rfl⟩

/-- A manifest is accepted exactly when each of its fields is. -/
theorem Manifest.ofMembers_accepted_iff
    (members : Table Json)
    (manifest : Manifest) :
    Manifest.ofMembers members = .accepted manifest ↔
      Manifest.schemaUrlField.withDefault Manifest.standardSchemaUrl Check.text members
        = .accepted manifest.schemaUrl ∧
      (Field.plain "id").required Manifest.checkId members = .accepted manifest.id ∧
      (Field.plain "version").withDefault "1.0.0" Check.text members
        = .accepted manifest.version ∧
      (Field.plain "name").required Check.text members = .accepted manifest.name ∧
      (Field.plain "description").withDefault "" Check.text members
        = .accepted manifest.description ∧
      (Field.plain "author").withDefault ⟨"OGraf Editor", ""⟩ Author.check members
        = .accepted manifest.author ∧
      (Field.plain "main").withDefault "template.mjs" Check.text members
        = .accepted manifest.main ∧
      Manifest.schemaField.withDefault ⟨"object", [], []⟩ GraphicSchema.check members
        = .accepted manifest.schema ∧
      Manifest.supportsRealTimeField.withDefault true Check.truth members
        = .accepted manifest.supportsRealTime ∧
      Manifest.supportsNonRealTimeField.withDefault false Check.truth members
        = .accepted manifest.supportsNonRealTime ∧
      Manifest.stepCountField.withDefault 1 Manifest.checkStepCount members
        = .accepted manifest.stepCount ∧
      Manifest.customActionsField.withDefault [] (Check.list CustomAction.check) members
        = .accepted manifest.customActions ∧
      Field.further Manifest.fields members = manifest.extras := by
  simp only [Manifest.ofMembers, seq_accepted_iff, map_accepted_iff]
  constructor
  · rintro ⟨_, _, ⟨_, _, ⟨_, _, ⟨_, _, ⟨_, _, ⟨_, _, ⟨_, _, ⟨_, _, ⟨_, _, ⟨_, _, ⟨_, _, ⟨_, schemaUrl,
      rfl⟩, id, rfl⟩, version, rfl⟩, name, rfl⟩, description, rfl⟩, author, rfl⟩, main, rfl⟩,
      schema, rfl⟩, realTime, rfl⟩, nonRealTime, rfl⟩, stepCount, rfl⟩, actions, rfl⟩
    exact ⟨schemaUrl, id, version, name, description, author, main, schema, realTime, nonRealTime,
      stepCount, actions, rfl⟩
  · rintro ⟨schemaUrl, id, version, name, description, author, main, schema, realTime,
      nonRealTime, stepCount, actions, extras⟩
    refine ⟨_, _, ⟨_, _, ⟨_, _, ⟨_, _, ⟨_, _, ⟨_, _, ⟨_, _, ⟨_, _, ⟨_, _, ⟨_, _, ⟨_, _, ⟨_, schemaUrl,
      rfl⟩, id, rfl⟩, version, rfl⟩, name, rfl⟩, description, rfl⟩, author, rfl⟩, main, rfl⟩,
      schema, rfl⟩, realTime, rfl⟩, nonRealTime, rfl⟩, stepCount, rfl⟩, actions, ?_⟩
    rw [extras]

/-- An id that is accepted is taken as it is. -/
theorem Manifest.eq_of_checkId_str
    {text id : String}
    (accepted : Manifest.checkId (.str text) = .accepted id) : id = text := by
  unfold Manifest.checkId Check.text Checked.andThen at accepted
  dsimp only at accepted
  split at accepted
  · exact (Checked.accepted.inj accepted).symm
  · cases accepted

/-- A record is read from members. -/
theorem Check.record_accepted_iff
    {α : Type}
    (name : String)
    (read : Table Json -> Checked α)
    (value : Json)
    (result : α) :
    Check.record name read value = .accepted result ↔
      ∃ members, value = .obj members ∧ read members = .accepted result := by
  cases value with
  | obj members =>
    refine ⟨fun accepted => ⟨members, rfl, accepted⟩, ?_⟩
    rintro ⟨_, same, accepted⟩
    cases same
    exact accepted
  | _ =>
    constructor
    · intro accepted
      cases accepted
    · rintro ⟨_, same, _⟩
      cases same

/-- A manifest has the id that its members give. -/
theorem Manifest.id_of_ofMembers
    {members : Table Json}
    {manifest : Manifest}
    {id : String}
    (accepted : Manifest.ofMembers members = .accepted manifest)
    (given : Table.get? members "id" = some (.str id)) : manifest.id = id := by
  obtain ⟨_, idAccepted, _⟩ := (Manifest.ofMembers_accepted_iff members manifest).1 accepted
  obtain ⟨member, found, checked⟩ := (Field.required_plain_accepted_iff _ _ _ _).1 idAccepted
  rw [given] at found
  cases found
  exact Manifest.eq_of_checkId_str checked

end BroadcastGraphics
