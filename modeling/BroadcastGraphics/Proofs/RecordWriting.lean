import BroadcastGraphics.Proofs.Identifiers
import BroadcastGraphics.Proofs.RecordReading
import BroadcastGraphics.Proofs.Rounding

/-!
# Written records are read back

A record that has passed its checks passes them again when it is read from its written form.  The
written form leaves out further members that are nothing and the sign of zero, and it has nothing in
place of numbers that are not finite; so what is read back is the record settled in this way.
-/

namespace BroadcastGraphics

open Checked

namespace Checked

variable {α β : Type}

/-- Items that are accepted one by one are accepted together. -/
theorem items_map
    {check : Json -> Checked α}
    {write : β -> Json}
    {read : β -> α}
    {values : List β}
    (accepted : ∀ value ∈ values, check (write value) = .accepted (read value))
    (index : Nat) :
    items check index (values.map write) = .accepted (values.map read) := by
  induction values generalizing index with
  | nil => rfl
  | cons value rest ih =>
    rw [List.map_cons, items, accepted value List.mem_cons_self,
      ih (fun value member => accepted value (List.mem_cons_of_mem _ member))]
    rfl

/-- Entries that are accepted one by one are accepted together. -/
theorem entries_mapEntries
    {check : Json -> Checked α}
    {write : β -> Json}
    {read : β -> α}
    {table : Table β}
    (accepted : ∀ entry ∈ table, check (write entry.2) = .accepted (read entry.2)) :
    entries check (Table.mapEntries write table) = .accepted (Table.mapEntries read table) := by
  induction table with
  | nil => rfl
  | cons entry rest ih =>
    unfold Table.mapEntries at ih ⊢
    rw [List.map_cons, entries, accepted entry List.mem_cons_self,
      ih (fun entry member => accepted entry (List.mem_cons_of_mem _ member))]
    rfl

end Checked

namespace Json

/-! ## Members that are not nothing -/

theorem finiteMembers_eq_map
    (members : Table Json) :
    finiteMembers members = Table.mapEntries finiteOnly members := by
  induction members with
  | nil => rfl
  | cons member rest ih =>
    obtain ⟨name, value⟩ := member
    rw [finiteMembers, ih]
    rfl

theorem eq_null_of_isNull
    {value : Json}
    (isNothing : value.isNull = true) :
    value = .null := by
  cases value with
  | null => rfl
  | _ => cases isNothing

theorem presentMembers_cons_of_present
    {value : Json}
    (present : value.isNull = false)
    (name : String)
    (rest : Table Json) :
    presentMembers ((name, value) :: rest) = (name, value) :: presentMembers rest := by
  unfold presentMembers
  rw [List.filter_cons_of_pos (by rw [present]; rfl)]

theorem presentMembers_cons_of_null
    {value : Json}
    (nothing : value.isNull = true)
    (name : String)
    (rest : Table Json) :
    presentMembers ((name, value) :: rest) = presentMembers rest := by
  unfold presentMembers
  rw [List.filter_cons_of_neg (by rw [nothing]; exact Bool.false_ne_true)]

/-- Members as they are written: those that are nothing are left out, and numbers are finite. -/
def settledMembers (members : Table Json) : Table Json :=
  finiteMembers (presentMembers members)

theorem settledMembers_cons_of_present
    {value : Json}
    (present : value.isNull = false)
    (name : String)
    (rest : Table Json) :
    settledMembers ((name, value) :: rest) = (name, value.finiteOnly) :: settledMembers rest := by
  unfold settledMembers
  rw [presentMembers_cons_of_present present, finiteMembers]

theorem settledMembers_cons_of_null
    {value : Json}
    (nothing : value.isNull = true)
    (name : String)
    (rest : Table Json) :
    settledMembers ((name, value) :: rest) = settledMembers rest := by
  unfold settledMembers
  rw [presentMembers_cons_of_null nothing]

theorem settledMembers_append
    (first second : Table Json) :
    settledMembers (first ++ second) = settledMembers first ++ settledMembers second := by
  unfold settledMembers presentMembers
  rw [List.filter_append, finiteMembers_eq_map, finiteMembers_eq_map, finiteMembers_eq_map]
  exact List.map_append

/-- Every name of a settled member is one of before. -/
theorem mem_names_of_settled
    {members : Table Json}
    {name : String}
    (member : name ∈ Table.names (settledMembers members)) :
    name ∈ Table.names members := by
  unfold settledMembers at member
  rw [finiteMembers_eq_map] at member
  obtain ⟨entry, isSettled, rfl⟩ := List.mem_map.1 member
  obtain ⟨before, isPresent, rfl⟩ := List.mem_map.1 isSettled
  exact List.mem_map.2 ⟨before, (List.mem_filter.1 isPresent).1, rfl⟩

end Json

namespace Field

/-- Settled members are apart from fields if the members were. -/
theorem Apart.settled
    {fields : List Field}
    {extras : Table Json}
    (apart : Apart fields extras) :
    Apart fields (Json.settledMembers extras) :=
  fun field isField member => apart field isField (Json.mem_names_of_settled member)

/-- A field with one name is not found among members that are apart. -/
theorem Apart.get?_eq_none
    {fields : List Field}
    {extras : Table Json}
    (apart : Apart fields extras)
    {name : String}
    (isField : plain name ∈ fields) :
    Table.get? extras name = none :=
  (Table.get?_eq_none_iff _ _).2 (apart _ isField)

/-- Where the first members are fields with one name, the others are further members. -/
theorem further_plain_append
    {fields : List Field}
    (onlyPlain : ∀ field ∈ fields, field.givenName = field.writtenName)
    {held extras : Table Json}
    (holds : ∀ name ∈ Table.names held, plain name ∈ fields)
    (apart : Apart fields extras) :
    further fields (held ++ extras) = extras := by
  refine further_append (fun name member => ⟨plain name, holds name member, ?_⟩)
    (fun field isField name found => ?_)
  · have present : Table.has (held ++ extras) name = true := by
      rw [Table.has_iff_mem_names, Table.names, List.map_append]
      exact List.mem_append_left _ member
    obtain ⟨value, got⟩ := Option.isSome_iff_exists.1 present
    rw [find?_plain, got]
    rfl
  · obtain ⟨entry, got, rfl⟩ := Option.map_eq_some_iff.1 found
    rcases (get?_of_find? got).2 with written | given
    · rw [written]
      exact apart field isField
    · rw [given, onlyPlain field isField]
      exact apart field isField

/-- Where the first members are the fields under names at which they are found, the others are
further members. -/
theorem further_append_named
    {fields : List Field}
    {held extras : Table Json}
    (nameOf : Field -> String)
    (heldNames : Table.names held = fields.map nameOf)
    (found : ∀ field ∈ fields,
      (field.find? (held ++ extras)).map Prod.fst = some (nameOf field))
    (apart : ∀ field ∈ fields, nameOf field ∉ Table.names extras) :
    further fields (held ++ extras) = extras := by
  refine further_append (fun name member => ?_) (fun field isField name same => ?_)
  · rw [heldNames] at member
    obtain ⟨field, isField, rfl⟩ := List.mem_map.1 member
    exact ⟨field, isField, found field isField⟩
  · rw [found field isField] at same
    exact Option.some.inj same ▸ apart field isField

end Field

/-! ## Manifests and what is in them -/

namespace SchemaProperty

/-- No further member has the name of a field. -/
def Valid (property : SchemaProperty) : Prop :=
  Field.Apart fields property.extras

/-- The property as it is read back. -/
def settled (property : SchemaProperty) : SchemaProperty :=
  { property with
    default := property.default.finiteOnly
    extras := Json.settledMembers property.extras }

/-- A property is read from its fields and further members; the default may be left out. -/
theorem ofMembers_parts
    (kind title : String)
    (default? : Option Json)
    {extras : Table Json}
    (apart : Field.Apart fields extras) :
    ofMembers ([("type", .str kind), ("title", .str title)] ++
        default?.toList.map (fun default => ("default", default)) ++ extras) =
      .accepted ⟨kind, title, default?.getD .null, extras⟩ := by
  have furtherEq := @Field.further_plain_append fields (by decide)
    ([("type", .str kind), ("title", .str title)] ++
      default?.toList.map fun default => ("default", default)) extras
    (by cases default? <;> simp [fields]) apart
  refine (ofMembers_accepted_iff _ _).2 ⟨?_, ?_, ?_, furtherEq⟩
  · exact Field.withDefault_found (Field.find?_written rfl) rfl
  · exact Field.withDefault_found (Field.find?_written rfl) rfl
  · cases default? with
    | some default => exact Field.withDefault_found (Field.find?_written rfl) rfl
    | none =>
      refine Field.withDefault_absent ?_
      rw [Field.find?_plain]
      change (Table.get? extras "default").map _ = none
      rw [apart.get?_eq_none (by simp [fields])]
      rfl

theorem check_toJson
    {property : SchemaProperty}
    (valid : property.Valid) :
    check property.toJson = .accepted property.settled := by
  cases null : property.default.isNull with
  | true =>
    have nothing : property.default.finiteOnly = .null := by
      rw [Json.eq_null_of_isNull null]
      rfl
    have read := ofMembers_parts property.kind property.title none valid.settled
    refine Eq.trans (congrArg ofMembers ?_) (read.trans ?_)
    · refine (Json.settledMembers_append _ _).trans (congrArg (· ++ _) ?_)
      rw [Json.settledMembers_cons_of_present rfl, Json.settledMembers_cons_of_present rfl,
        Json.settledMembers_cons_of_null null]
      rfl
    · unfold settled
      rw [nothing]
      rfl
  | false =>
    have read := ofMembers_parts property.kind property.title
      (some property.default.finiteOnly) valid.settled
    refine Eq.trans (congrArg ofMembers ?_) read
    refine (Json.settledMembers_append _ _).trans (congrArg (· ++ _) ?_)
    rw [Json.settledMembers_cons_of_present rfl, Json.settledMembers_cons_of_present rfl,
      Json.settledMembers_cons_of_present null]
    rfl

/-- Every member of a property is read back as it is when nothing is left out. -/
theorem check_members
    {property : SchemaProperty}
    (valid : property.Valid) :
    check (.obj property.members) = .accepted property :=
  ofMembers_parts property.kind property.title (some property.default) valid

end SchemaProperty

namespace CustomAction

/-- No further member has the name of a field. -/
def Valid (action : CustomAction) : Prop :=
  Field.Apart fields action.extras

/-- The action as it is read back. -/
def settled (action : CustomAction) : CustomAction :=
  { action with extras := Json.settledMembers action.extras }

theorem check_members
    {action : CustomAction}
    (valid : action.Valid) :
    check (.obj action.members) = .accepted action := by
  have furtherEq := @Field.further_plain_append fields (by decide)
    [("id", .str action.id), ("name", .str action.name), ("description", .str action.description)]
    action.extras (by simp [fields]) valid
  refine (ofMembers_accepted_iff _ _).2 ⟨?_, ?_, ?_, furtherEq⟩
  · exact Field.required_found (Field.find?_written rfl) rfl
  · exact Field.required_found (Field.find?_written rfl) rfl
  · exact Field.withDefault_found (Field.find?_written rfl) rfl

theorem check_toJson
    {action : CustomAction}
    (valid : action.Valid) :
    check action.toJson = .accepted action.settled := by
  have read := @check_members action.settled (Field.Apart.settled valid)
  have same : Json.settledMembers action.members = action.settled.members :=
    (Json.settledMembers_append _ _).trans rfl
  change check (.obj (Json.settledMembers action.members)) = _
  rw [same]
  exact read

end CustomAction

namespace GraphicSchema

/-- No further member has the name of a field, in the schema and in its properties. -/
structure Valid (schema : GraphicSchema) : Prop where
  extras : Field.Apart fields schema.extras
  properties : ∀ entry ∈ schema.properties, entry.2.Valid

/-- The schema as it is read back. -/
def settled (schema : GraphicSchema) : GraphicSchema :=
  { schema with
    properties := Table.mapEntries SchemaProperty.settled schema.properties
    extras := Json.settledMembers schema.extras }

/-- A schema is read from its fields and further members. -/
theorem ofMembers_parts
    (kind : String)
    {write : SchemaProperty -> Json}
    {read : SchemaProperty -> SchemaProperty}
    {properties : Table SchemaProperty}
    (accepted : ∀ entry ∈ properties,
      SchemaProperty.check (write entry.2) = .accepted (read entry.2))
    {extras : Table Json}
    (apart : Field.Apart fields extras) :
    ofMembers ([("type", .str kind), ("properties", .obj (Table.mapEntries write properties))] ++
        extras) = .accepted ⟨kind, Table.mapEntries read properties, extras⟩ := by
  have furtherEq := @Field.further_plain_append fields (by decide)
    [("type", .str kind), ("properties", .obj (Table.mapEntries write properties))] extras
    (by simp [fields]) apart
  refine (ofMembers_accepted_iff _ _).2 ⟨?_, ?_, furtherEq⟩
  · exact Field.withDefault_found (Field.find?_written rfl) rfl
  · exact Field.withDefault_found (Field.find?_written rfl) (entries_mapEntries accepted)

theorem check_toJson
    {schema : GraphicSchema}
    (valid : schema.Valid) :
    check schema.toJson = .accepted schema.settled :=
  ofMembers_parts schema.kind
    (fun entry member => SchemaProperty.check_toJson (valid.properties entry member))
    valid.extras.settled

theorem check_members
    {schema : GraphicSchema}
    (valid : schema.Valid) :
    check (.obj schema.members) = .accepted schema := by
  have read := @ofMembers_parts schema.kind (fun property => .obj property.members)
    (fun property => property) schema.properties
    (fun entry member => SchemaProperty.check_members (valid.properties entry member))
    schema.extras valid.extras
  refine read.trans (congrArg accepted ?_)
  unfold Table.mapEntries
  rw [List.map_id']

end GraphicSchema

theorem Author.check_toJson
    (author : Author) :
    Author.check author.toJson = .accepted author := rfl

namespace Manifest

/-- The id is one of a template, there are no less than zero steps, and no further member, in the
manifest and in its parts, has the written name of a field. -/
structure Valid (manifest : Manifest) : Prop where
  id : Identifier.isSlug manifest.id = true
  steps : 0 ≤ manifest.stepCount
  schema : manifest.schema.Valid
  actions : ∀ action ∈ manifest.customActions, action.Valid
  extras : Field.Apart fields manifest.extras

/-- The manifest as it is read back. -/
def settled (manifest : Manifest) : Manifest :=
  { manifest with
    schema := manifest.schema.settled
    customActions := manifest.customActions.map CustomAction.settled
    extras := Json.settledMembers manifest.extras }

theorem checkId_slug
    {id : String}
    (slug : Identifier.isSlug id = true) :
    checkId (.str id) = .accepted id := by
  unfold checkId
  change (if Identifier.isSlug id then _ else _) = _
  rw [if_pos slug]

theorem checkStepCount_int
    {count : Int}
    (steps : 0 ≤ count) :
    checkStepCount (.int count) = .accepted count := by
  unfold checkStepCount
  change (if count < 0 then _ else _) = _
  rw [if_neg (Int.not_lt.2 steps)]

/-- In the written form every field is found under its written name. -/
theorem find?_members
    (manifest : Manifest) :
    ∀ field ∈ fields,
      (field.find? manifest.members).map Prod.fst = some field.writtenName := by
  unfold fields
  simp only [List.forall_mem_cons]
  exact ⟨rfl, rfl, rfl, rfl, rfl, rfl, rfl, rfl, rfl, rfl, rfl, rfl, fun _ none => nomatch none⟩

theorem further_members
    {manifest : Manifest}
    (valid : manifest.Valid) :
    Field.further fields manifest.members = Json.settledMembers manifest.extras :=
  Field.further_append_named Field.writtenName rfl manifest.find?_members valid.extras.settled

theorem check_toJson
    {manifest : Manifest}
    (valid : manifest.Valid) :
    check manifest.toJson = .accepted manifest.settled := by
  refine (ofMembers_accepted_iff _ _).2 ⟨?_, ?_, ?_, ?_, ?_, ?_, ?_, ?_, ?_, ?_, ?_, ?_,
    further_members valid⟩
  · exact Field.withDefault_found (Field.find?_written rfl) rfl
  · exact Field.required_found (Field.find?_written rfl) (checkId_slug valid.id)
  · exact Field.withDefault_found (Field.find?_written rfl) rfl
  · exact Field.required_found (Field.find?_written rfl) rfl
  · exact Field.withDefault_found (Field.find?_written rfl) rfl
  · exact Field.withDefault_found (Field.find?_written rfl) (Author.check_toJson _)
  · exact Field.withDefault_found (Field.find?_written rfl) rfl
  · exact Field.withDefault_found (Field.find?_written rfl) (GraphicSchema.check_toJson valid.schema)
  · exact Field.withDefault_found (Field.find?_written rfl) rfl
  · exact Field.withDefault_found (Field.find?_written rfl) rfl
  · exact Field.withDefault_found (Field.find?_written rfl) (checkStepCount_int valid.steps)
  · exact Field.withDefault_found (Field.find?_written rfl)
      (items_map (fun action member => CustomAction.check_toJson (valid.actions action member)) 0)

end Manifest

/-! ## Elements -/

namespace Binary64

/-- The number with zero having no sign. -/
def withoutZeroSign : Binary64 -> Binary64
  | finite negative rank => finite (negative && rank.val != 0) rank
  | number => number

theorem steps?_withoutZeroSign
    (number : Binary64) :
    number.withoutZeroSign.steps? = number.steps? := by
  cases number with
  | finite negative rank =>
    by_cases zero : rank.val = 0
    · simp [withoutZeroSign, steps?, zero, magnitudeSteps_zero]
    · simp [withoutZeroSign, steps?, zero]
  | infinite negative => rfl
  | nan => rfl

theorem isFinite_withoutZeroSign
    (number : Binary64) :
    number.withoutZeroSign.isFinite = number.isFinite := by
  cases number <;> rfl

theorem unitSteps_pos_int : (0 : Int) < unitSteps := by
  exact_mod_cast Nat.two_pow_pos _

/-- A number without fraction has as many steps as its integer has units. -/
theorem steps?_of_whole?
    {number : Binary64}
    {whole : Int}
    (isWhole : number.whole? = some whole) :
    number.steps? = some (whole * unitSteps) := by
  unfold whole? at isWhole
  cases found : number.steps? with
  | none =>
    rw [found] at isWhole
    cases isWhole
  | some steps =>
    rw [found] at isWhole
    dsimp only at isWhole
    split at isWhole
    · rename_i divisible
      injection isWhole with quotient
      rw [← quotient, Int.ediv_mul_cancel (Int.dvd_of_emod_eq_zero (eq_of_beq divisible))]
    · cases isWhole

/-- A number without fraction is the nearest to the integer that it stands for. -/
theorem ofInt_of_whole?
    {number : Binary64}
    {whole : Int}
    (isWhole : number.whole? = some whole) :
    ofInt whole = number.withoutZeroSign := by
  have steps := steps?_of_whole? isWhole
  cases number with
  | finite negative rank =>
    have scaled : (if negative then -(magnitudeSteps rank : Int) else magnitudeSteps rank) =
        whole * unitSteps := Option.some.inj steps
    have magnitude : whole.natAbs * unitSteps = magnitudeSteps rank := by
      have sizes := congrArg Int.natAbs scaled
      rw [Int.natAbs_mul, Int.natAbs_natCast] at sizes
      rw [← sizes]
      cases negative <;> simp
    have below : whole < 0 ↔ whole * unitSteps < 0 :=
      ⟨fun negative => Int.mul_neg_of_neg_of_pos negative unitSteps_pos_int,
        fun negative => Int.lt_of_not_ge fun nonneg => absurd negative
          (Int.not_lt.2 (Int.mul_nonneg nonneg unitSteps_pos_int.le))⟩
    have zeroRank : magnitudeSteps rank = 0 ↔ rank.val = 0 :=
      ⟨fun zero => magnitudeSteps_strictMono.injective (zero.trans magnitudeSteps_zero.symm),
        fun zero => by rw [zero, magnitudeSteps_zero]⟩
    have sign : decide (whole < 0) = (negative && rank.val != 0) := by
      have signs : whole < 0 ↔ negative = true ∧ rank.val ≠ 0 := by
        rw [below, ← scaled, Ne, ← zeroRank]
        cases negative with
        | false => simp
        | true =>
          simp only [if_true, true_and]
          omega
      rw [Bool.eq_iff_iff, decide_eq_true_iff, signs]
      simp
    have exact := ofSteps_magnitudeSteps (negative && rank.val != 0) rank (Nat.lt_succ_self 0)
    rw [Nat.mul_one] at exact
    unfold ofInt
    rw [magnitude, sign, exact]
    rfl
  | infinite negative => cases isWhole
  | nan => cases isWhole

/-- A number that has a fraction is not zero. -/
theorem withoutZeroSign_of_whole?
    {number : Binary64}
    (fractional : number.whole? = none) :
    number.withoutZeroSign = number := by
  cases number with
  | finite negative rank =>
    have notZero : rank.val ≠ 0 := by
      intro zero
      have nothing : (finite negative rank).steps? = some 0 := by
        rw [← steps?_withoutZeroSign]
        simp [withoutZeroSign, steps?, zero, magnitudeSteps_zero]
      unfold whole? at fractional
      rw [nothing] at fractional
      dsimp only at fractional
      rw [Int.zero_emod] at fractional
      cases fractional
    simp [withoutZeroSign, notZero]
  | infinite negative => rfl
  | nan => rfl

/-- The written form of a number does not show the sign of zero. -/
theorem plainJson_withoutZeroSign
    (number : Binary64) :
    number.withoutZeroSign.plainJson = number.plainJson := by
  have sameWhole : number.withoutZeroSign.whole? = number.whole? := by
    unfold whole?
    rw [steps?_withoutZeroSign]
  unfold plainJson
  rw [sameWhole]
  cases isWhole : number.whole? with
  | some whole => rfl
  | none =>
    dsimp only
    rw [withoutZeroSign_of_whole? isWhole]

/-- A finite number is read back from its written form, with zero having no sign. -/
theorem finiteNumber_plainJson
    {number : Binary64}
    (isFinite : number.isFinite = true) :
    Check.finiteNumber number.plainJson = .accepted number.withoutZeroSign := by
  unfold plainJson
  cases isWhole : number.whole? with
  | some whole =>
    unfold Check.finiteNumber Check.number
    dsimp only
    rw [ofInt_of_whole? isWhole, isFinite_withoutZeroSign, isFinite, if_pos rfl]
    change (if number.withoutZeroSign.isFinite then _ else _) = _
    rw [isFinite_withoutZeroSign, isFinite, if_pos rfl]
  | none =>
    change (if number.isFinite then _ else _) = _
    rw [isFinite, if_pos rfl, withoutZeroSign_of_whole? isWhole]

end Binary64

namespace Element

/-- The id is one of an element, and the geometry is finite. -/
structure Valid (element : Element) : Prop where
  id : Identifier.isElementId element.id = true
  x : element.x.isFinite = true
  y : element.y.isFinite = true
  width : element.width.isFinite = true
  height : element.height.isFinite = true

/-- The element as it is read back. -/
def settled (element : Element) : Element :=
  { element with
    x := element.x.withoutZeroSign
    y := element.y.withoutZeroSign
    width := element.width.withoutZeroSign
    height := element.height.withoutZeroSign }

theorem checkId_of_isElementId
    {id : String}
    (isId : Identifier.isElementId id = true) :
    checkId (.str id) = .accepted id := by
  obtain ⟨nonempty, small⟩ := Identifier.toNat_le_of_isElementId isId
  have noHalves : id.toList.any Text.HalfPair.isHalf = false := by
    rw [List.any_eq_false]
    intro character member
    rw [Identifier.isHalf_eq_false (small character member)]
    exact Bool.false_ne_true
  have filled : id.isEmpty = false := by
    rw [Bool.eq_false_iff]
    intro isEmpty
    exact nonempty (String.toList_eq_nil_iff.2 (String.isEmpty_iff.1 isEmpty))
  have isText : Check.filledText (.str id) = .accepted id := by
    unfold Check.filledText Check.text Checked.andThen Check.reading
    dsimp only
    rw [noHalves, if_neg Bool.false_ne_true, filled, if_neg Bool.false_ne_true]
  unfold checkId
  rw [isText]
  change (if Identifier.isElementId id then _ else _) = _
  rw [if_pos isId]

theorem checkStyle_styleJson
    (element : Element) :
    checkStyle element.styleJson = .accepted element.style := by
  refine congrArg accepted ?_
  unfold Json.presentMembers Table.mapEntries
  rw [List.filter_eq_self.2, List.map_map]
  · exact List.map_id _
  · intro entry member
    obtain ⟨_, _, rfl⟩ := List.mem_map.1 member
    rfl

theorem isNull_plainJson
    (number : Binary64) :
    number.plainJson.isNull = false := by
  unfold Binary64.plainJson
  cases number.whole? <;> rfl

/-- The members that say which kind of element stands where. -/
def placing (element : Element) : Table Json :=
  [("id", .str element.id), ("type", .str element.kind.name), ("x", element.x.plainJson),
    ("y", element.y.plainJson), ("width", element.width.plainJson),
    ("height", element.height.plainJson)]

/-- Of the members of an element only absent content is left out. -/
theorem presentMembers_members
    (element : Element) :
    Json.presentMembers element.members =
      element.placing ++ (element.content.toList.map (fun content => ("content", .str content)) ++
        [("style", element.styleJson)]) := by
  have number := fun number => Json.presentMembers_cons_of_present (isNull_plainJson number)
  unfold members
  rw [Json.presentMembers_cons_of_present rfl, Json.presentMembers_cons_of_present rfl, number,
    number, number, number]
  cases element.content <;> rfl

theorem choice_kind
    (kind : ElementKind) :
    Check.choice ElementKind.options (.str kind.name) = .accepted kind := by
  cases kind <;> rfl

/-- A valid element is read where it is placed, with the content and the style of the members that
come behind. -/
theorem ofMembers_placing
    {element : Element}
    (valid : element.Valid)
    {others : Table Json}
    {content : Option String}
    {style : Table String}
    (readContent : (Field.plain "content").withDefault none (Check.optional Check.text) others =
      .accepted content)
    (readStyle : (Field.plain "style").withDefault [] checkStyle others = .accepted style) :
    ofMembers (element.placing ++ others) = .accepted { element.settled with content, style } := by
  have number := fun number isFinite => @Binary64.finiteNumber_plainJson number isFinite
  refine (ofMembers_accepted_iff _ _).2 ⟨?_, ?_, ?_, ?_, ?_, ?_, readContent, readStyle⟩
  · exact Field.required_found (Field.find?_written rfl) (checkId_of_isElementId valid.id)
  · exact Field.required_found (Field.find?_written rfl) (choice_kind element.kind)
  · exact Field.withDefault_found (Field.find?_written rfl) (number _ valid.x)
  · exact Field.withDefault_found (Field.find?_written rfl) (number _ valid.y)
  · exact Field.withDefault_found (Field.find?_written rfl) (number _ valid.width)
  · exact Field.withDefault_found (Field.find?_written rfl) (number _ valid.height)

/-- An element is read back from its written form. -/
theorem check_toJson
    {element : Element}
    (valid : element.Valid) :
    check element.toJson = .accepted element.settled := by
  change ofMembers (Json.presentMembers element.members) = _
  rw [presentMembers_members]
  have style := checkStyle_styleJson element
  generalize element.styleJson = styleJson at style ⊢
  cases isContent : element.content with
  | none =>
    rw [ofMembers_placing valid (Field.withDefault_absent rfl)
      (Field.withDefault_found (Field.find?_written rfl) style), ← isContent]
    rfl
  | some content =>
    rw [ofMembers_placing valid (Field.withDefault_found (Field.find?_written rfl) rfl)
      (Field.withDefault_found (Field.find?_written rfl) style), ← isContent]
    rfl

end Element

/-! ## Settings and snapshots -/

namespace AnimationSettings

/-- Both movements take some time. -/
structure Valid (settings : AnimationSettings) : Prop where
  slideIn : 0 < settings.slideInDuration
  slideOut : 0 < settings.slideOutDuration

theorem positiveInteger_int
    {value : Int}
    (positive : 0 < value) :
    Check.positiveInteger (.int value) = .accepted value := by
  change (if 0 < value then _ else _) = _
  rw [if_pos positive]

theorem choice_easing
    (easing : Easing) :
    Check.choice Easing.options (.str easing.name) = .accepted easing := by
  cases easing <;> rfl

theorem choice_direction
    (direction : Direction) :
    Check.choice Direction.options (.str direction.name) = .accepted direction := by
  cases direction <;> rfl

/-- Settings are read back from their written form. -/
theorem check_toJson
    {settings : AnimationSettings}
    (valid : settings.Valid) :
    check settings.toJson = .accepted settings := by
  refine (ofMembers_accepted_iff _ _).2 ⟨?_, ?_, ?_, ?_, ?_, ?_⟩
  · exact Field.withDefault_found (Field.find?_written rfl) (positiveInteger_int valid.slideIn)
  · exact Field.withDefault_found (Field.find?_written rfl) (positiveInteger_int valid.slideOut)
  · exact Field.withDefault_found (Field.find?_written rfl) (choice_easing _)
  · exact Field.withDefault_found (Field.find?_written rfl) (choice_easing _)
  · exact Field.withDefault_found (Field.find?_written rfl) (choice_direction _)
  · refine Field.withDefault_found (Field.find?_written rfl) ?_
    cases settings.slideOutDirection with
    | none => rfl
    | some direction => exact congrArg (some <$> ·) (choice_direction direction)

end AnimationSettings

namespace Snapshot

/-- The parts of the snapshot are valid, and no two elements have one id. -/
structure Valid (snapshot : Snapshot) : Prop where
  manifest : snapshot.manifest.Valid
  elements : ∀ element ∈ snapshot.elements, element.Valid
  distinct : (snapshot.elements.map Element.id).Nodup
  animation : ∀ settings ∈ snapshot.animation, settings.Valid

/-- The snapshot as it is read back. -/
def settled (snapshot : Snapshot) : Snapshot :=
  { snapshot with
    manifest := snapshot.manifest.settled
    elements := snapshot.elements.map Element.settled }

/-- No duplicate is found exactly when the ids are distinct and none of them has been seen. -/
theorem duplicateId?_eq_none_iff
    (seen : List String)
    (elements : List Element) :
    duplicateId? seen elements = none ↔
      (elements.map Element.id).Nodup ∧ ∀ element ∈ elements, element.id ∉ seen := by
  induction elements generalizing seen with
  | nil => simp [duplicateId?]
  | cons element rest ih =>
    rw [duplicateId?]
    by_cases isSeen : element.id ∈ seen
    · rw [if_pos isSeen]
      simp [isSeen]
    · rw [if_neg isSeen, ih, List.map_cons, List.nodup_cons, List.forall_mem_cons]
      simp only [List.mem_append, List.mem_singleton, not_or, List.mem_map, not_exists, not_and]
      constructor
      · rintro ⟨distinct, fresh⟩
        exact ⟨⟨fun other member => (fresh other member).2, distinct⟩, isSeen,
          fun other member => (fresh other member).1⟩
      · rintro ⟨⟨other, distinct⟩, _, fresh⟩
        exact ⟨distinct, fun element member => ⟨fresh element member, other element member⟩⟩

theorem checkElements_toJson
    {snapshot : Snapshot}
    (valid : snapshot.Valid) :
    checkElements (.arr (snapshot.elements.map Element.toJson)) =
      .accepted (snapshot.elements.map Element.settled) := by
  have read : Check.list Element.check (.arr (snapshot.elements.map Element.toJson)) =
      .accepted (snapshot.elements.map Element.settled) :=
    items_map (fun element member => Element.check_toJson (valid.elements element member)) 0
  have sameIds : (snapshot.elements.map Element.settled).map Element.id =
      snapshot.elements.map Element.id := List.map_map
  have noDuplicate : duplicateId? [] (snapshot.elements.map Element.settled) = none := by
    rw [duplicateId?_eq_none_iff, sameIds]
    exact ⟨valid.distinct, fun _ _ => List.not_mem_nil⟩
  unfold checkElements
  rw [read]
  unfold Checked.andThen
  dsimp only
  rw [noDuplicate]

/-- Settings that may be absent are read back from their written form. -/
theorem optional_animationJson
    {animation : Option AnimationSettings}
    (valid : ∀ settings ∈ animation, settings.Valid) :
    Check.optional AnimationSettings.check (animationJson animation) = .accepted animation := by
  cases animation with
  | none => rfl
  | some settings => exact congrArg (some <$> ·) (AnimationSettings.check_toJson (valid settings rfl))

/-- A snapshot is read back from its written form. -/
theorem read_toJson
    {snapshot : Snapshot}
    (valid : snapshot.Valid) :
    read snapshot.toJson = .ok snapshot.settled := by
  refine (Checked.orInvalid_eq_ok _ _ _).2 ?_
  refine (ofMembers_accepted_iff _ _).2 ⟨?_, ?_, ?_, ?_⟩
  · exact Field.required_found (Field.find?_written rfl) (Manifest.check_toJson valid.manifest)
  · exact Field.withDefault_found (Field.find?_written rfl) (checkElements_toJson valid)
  · exact Field.withDefault_found (Field.find?_written rfl) (optional_animationJson valid.animation)
  · refine Field.withDefault_found (Field.find?_written rfl) ?_
    change _ = accepted snapshot.component
    cases snapshot.component <;> rfl

end Snapshot

end BroadcastGraphics
