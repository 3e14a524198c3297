import BroadcastGraphics.Proofs.AuditAgreement

/-!
# Loading audited templates

The audit works on values of any shape before they become templates.  It looks at what an editor and
a playout system rely on and at nothing else: that names are there, but not that they are texts; that
places are numbers, but not that they are finite; at no author, no version and no content, and at no
field under its other name.

A value in which nothing is found is a template just if what the audit does not look at is accepted
as well.  Everything else that is asked of a template follows from the audit.
-/

namespace BroadcastGraphics

namespace Checked

variable {α β : Type}

/-- The check has accepted something. -/
def IsAccepted (result : Checked α) : Prop :=
  ∃ value, result = accepted value

@[simp] theorem isAccepted_accepted (value : α) : (accepted value).IsAccepted :=
  ⟨value, rfl⟩

@[simp] theorem isAccepted_map
    (change : α -> β)
    (result : Checked α) : (change <$> result).IsAccepted ↔ result.IsAccepted := by
  unfold IsAccepted
  simp only [map_accepted_iff]
  constructor
  · rintro ⟨_, inner, same, _⟩
    exact ⟨inner, same⟩
  · rintro ⟨inner, same⟩
    exact ⟨_, inner, same, rfl⟩

@[simp] theorem isAccepted_seq
    (change : Checked (α -> β))
    (result : Checked α) :
    (change <*> result).IsAccepted ↔ change.IsAccepted ∧ result.IsAccepted := by
  unfold IsAccepted
  simp only [seq_accepted_iff]
  constructor
  · rintro ⟨_, function, inner, first, second, _⟩
    exact ⟨⟨function, first⟩, inner, second⟩
  · rintro ⟨⟨function, first⟩, inner, second⟩
    exact ⟨_, function, inner, first, second, rfl⟩

@[simp] theorem isAccepted_under
    (step : Step)
    (result : Checked α) : (result.under step).IsAccepted ↔ result.IsAccepted := by
  unfold IsAccepted
  simp only [under_accepted_iff]

@[simp] theorem isAccepted_items
    (check : Json -> Checked α)
    (index : Nat)
    (list : List Json) :
    (items check index list).IsAccepted ↔ ∀ item ∈ list, (check item).IsAccepted := by
  induction list generalizing index with
  | nil => simp [items]
  | cons item rest ih => simp [items, ih]

@[simp] theorem isAccepted_entries
    (check : Json -> Checked α)
    (table : Table Json) :
    (entries check table).IsAccepted ↔ ∀ entry ∈ table, (check entry.2).IsAccepted := by
  induction table with
  | nil => simp [entries]
  | cons entry rest ih =>
    obtain ⟨name, value⟩ := entry
    simp [entries, ih]

end Checked

namespace Check

variable {α : Type} {check : Json -> Checked α} {value : Json}

@[simp] theorem isAccepted_text : (text value).IsAccepted ↔ ∃ given, value = .str given := by
  constructor
  · rintro ⟨given, accepted⟩
    exact ⟨given, eq_str_of_text accepted⟩
  · rintro ⟨given, rfl⟩
    exact ⟨given, rfl⟩

theorem isAccepted_optional_text :
    (optional text value).IsAccepted ↔ value = .null ∨ ∃ given, value = .str given := by
  constructor
  · rintro ⟨result, accepted⟩
    cases value with
    | null => exact Or.inl rfl
    | str given => exact Or.inr ⟨given, rfl⟩
    | _ => cases accepted
  · rintro (rfl | ⟨given, rfl⟩)
    · exact ⟨none, rfl⟩
    · exact ⟨some given, rfl⟩

@[simp] theorem isAccepted_list_arr (items : List Json) :
    (list check (.arr items)).IsAccepted ↔ ∀ item ∈ items, (check item).IsAccepted :=
  Checked.isAccepted_items check 0 items

@[simp] theorem isAccepted_mapping_obj (members : Table Json) :
    (mapping check (.obj members)).IsAccepted ↔ ∀ entry ∈ members, (check entry.2).IsAccepted :=
  Checked.isAccepted_entries check members

end Check

namespace Field

variable {α : Type} {field : Field} {members : Table Json} {check : Json -> Checked α}

/-- The field, where it is given, is accepted by a check. -/
def Passes (field : Field) (check : Json -> Checked α) (members : Table Json) : Prop :=
  ∀ member, field.find? members = some member -> (check member.2).IsAccepted

/-- The field, where it is given under its other name alone, is accepted by a check. -/
def PassesGiven (field : Field) (check : Json -> Checked α) (members : Table Json) : Prop :=
  Table.get? members field.writtenName = none -> ∀ value,
    Table.get? members field.givenName = some value -> (check value).IsAccepted

@[simp] theorem isAccepted_withDefault
    {default : α} :
    (field.withDefault default check members).IsAccepted ↔ field.Passes check members := by
  unfold withDefault Passes
  cases field.find? members with
  | none => simp
  | some member => simp

@[simp] theorem isAccepted_required :
    (field.required check members).IsAccepted ↔
      (field.find? members).isSome = true ∧ field.Passes check members := by
  unfold required Passes
  cases field.find? members with
  | none => simp [Checked.IsAccepted]
  | some member => simp

theorem passes_plain
    {name : String} :
    (plain name).Passes check members ↔
      ∀ value, Table.get? members name = some value -> (check value).IsAccepted := by
  unfold Passes
  rw [find?_plain]
  cases Table.get? members name with
  | none => simp
  | some value => simp

theorem passes_of_written
    {value : Json}
    (present : Table.get? members field.writtenName = some value) :
    field.Passes check members ↔ (check value).IsAccepted := by
  unfold Passes
  rw [find?_written present]
  simp

/-- A field that is accepted under its written name can fail only under the other one. -/
theorem passes_iff
    (written : ∀ value, Table.get? members field.writtenName = some value ->
      (check value).IsAccepted) :
    field.Passes check members ↔ field.PassesGiven check members := by
  unfold Passes PassesGiven find?
  cases present : Table.get? members field.writtenName with
  | none => simp
  | some value => simpa [present] using written value

/-- A field that is not under its written name leaves open what is said of that one. -/
theorem passes_iff_of_absent
    {Open : Prop}
    (absent : Table.get? members field.writtenName = none)
    (vacuous : Open) :
    field.Passes check members ↔ Open ∧ field.PassesGiven check members := by
  rw [passes_iff fun value present => nomatch absent.symm.trans present]
  exact ⟨fun given => ⟨vacuous, given⟩, And.right⟩

/-- A field that is under its written name cannot fail under the other one. -/
theorem passes_iff_of_present
    {Open : Prop}
    {value : Json}
    (present : Table.get? members field.writtenName = some value)
    (opens : (check value).IsAccepted ↔ Open) :
    field.Passes check members ↔ Open ∧ field.PassesGiven check members := by
  rw [passes_of_written present, opens]
  exact ⟨fun openly => ⟨openly, fun absent => nomatch present.symm.trans absent⟩, And.left⟩

end Field

/-! ## Records are accepted field by field -/

theorem Check.isAccepted_record
    {α : Type}
    {name : String}
    {read : Table Json -> Checked α}
    (members : Table Json) :
    (Check.record name read (.obj members)).IsAccepted ↔ (read members).IsAccepted :=
  Iff.rfl

theorem GraphicSchema.isAccepted_check (members : Table Json) :
    (check (.obj members)).IsAccepted ↔
      (Field.plain "type").Passes Check.text members ∧
        (Field.plain "properties").Passes (Check.mapping SchemaProperty.check) members := by
  unfold check
  rw [Check.isAccepted_record]
  simp only [ofMembers, Checked.isAccepted_seq, Checked.isAccepted_map,
    Field.isAccepted_withDefault]

theorem CustomAction.isAccepted_check (members : Table Json) :
    (check (.obj members)).IsAccepted ↔
      ((Field.plain "id").required Check.text members).IsAccepted ∧
        ((Field.plain "name").required Check.text members).IsAccepted ∧
        (Field.plain "description").Passes Check.text members := by
  unfold check
  rw [Check.isAccepted_record]
  simp only [ofMembers, Checked.isAccepted_seq, Checked.isAccepted_map,
    Field.isAccepted_withDefault, and_assoc]

theorem Element.isAccepted_check (members : Table Json) :
    (check (.obj members)).IsAccepted ↔
      ((Field.plain "id").required checkId members).IsAccepted ∧
        ((Field.plain "type").required (Check.choice ElementKind.options) members).IsAccepted ∧
        (∀ name ∈ ["x", "y", "width", "height"],
          (Field.plain name).Passes Check.finiteNumber members) ∧
        (Field.plain "content").Passes (Check.optional Check.text) members ∧
        (Field.plain "style").Passes checkStyle members := by
  unfold check
  rw [Check.isAccepted_record]
  simp only [ofMembers, Checked.isAccepted_seq, Checked.isAccepted_map,
    Field.isAccepted_withDefault, and_assoc, List.forall_mem_cons, List.not_mem_nil,
    false_imp_iff, implies_true, and_true]

theorem Manifest.isAccepted_check (members : Table Json) :
    (check (.obj members)).IsAccepted ↔
      schemaUrlField.Passes Check.text members ∧
        ((Field.plain "id").required checkId members).IsAccepted ∧
        (Field.plain "version").Passes Check.text members ∧
        ((Field.plain "name").required Check.text members).IsAccepted ∧
        (Field.plain "description").Passes Check.text members ∧
        (Field.plain "author").Passes Author.check members ∧
        (Field.plain "main").Passes Check.text members ∧
        schemaField.Passes GraphicSchema.check members ∧
        supportsRealTimeField.Passes Check.truth members ∧
        supportsNonRealTimeField.Passes Check.truth members ∧
        stepCountField.Passes checkStepCount members ∧
        customActionsField.Passes (Check.list CustomAction.check) members := by
  unfold check
  rw [Check.isAccepted_record]
  simp only [ofMembers, Checked.isAccepted_seq, Checked.isAccepted_map,
    Field.isAccepted_withDefault, and_assoc]

theorem AnimationSettings.isAccepted_check (members : Table Json) :
    (check (.obj members)).IsAccepted ↔
      (∀ field ∈ [slideInDurationField, slideOutDurationField],
          field.Passes Check.positiveInteger members) ∧
        (∀ field ∈ [slideInEasingField, slideOutEasingField],
          field.Passes (Check.choice Easing.options) members) ∧
        slideInDirectionField.Passes (Check.choice Direction.options) members ∧
        slideOutDirectionField.Passes (Check.optional (Check.choice Direction.options)) members := by
  unfold check
  rw [Check.isAccepted_record]
  simp only [ofMembers, Checked.isAccepted_seq, Checked.isAccepted_map,
    Field.isAccepted_withDefault, and_assoc, List.forall_mem_cons, List.not_mem_nil,
    false_imp_iff, implies_true, true_and]

theorem Snapshot.isAccepted_check (members : Table Json) :
    (check (.obj members)).IsAccepted ↔
      ((Field.plain "manifest").required Manifest.check members).IsAccepted ∧
        (Field.plain "elements").Passes checkElements members ∧
        animationField.Passes (Check.optional AnimationSettings.check) members ∧
        componentField.Passes (Check.optional Check.text) members := by
  unfold check
  rw [Check.isAccepted_record]
  simp only [ofMembers, Checked.isAccepted_seq, Checked.isAccepted_map,
    Field.isAccepted_withDefault, and_assoc]

namespace Audit

/-! ## What an audit has seen -/

theorem exists_of_not_isEmptyish
    {members : Table Json}
    {name : String}
    (filled : (Json.memberOrNull members name).isEmptyish = false) :
    ∃ value, Table.get? members name = some value := by
  refine ⟨_, Json.get?_of_memberOrNull rfl fun nothing => ?_⟩
  rw [nothing] at filled
  cases filled

/-- A member that is a text which passes a test. -/
theorem get?_of_isTextWith
    {test : String -> Bool}
    {members : Table Json}
    {name : String}
    (passes : isTextWith test (Json.memberOrNull members name) = true) :
    ∃ text, Table.get? members name = some (.str text) ∧ test text = true := by
  cases given : Json.memberOrNull members name with
  | str text =>
    rw [given] at passes
    exact ⟨text, Json.get?_of_memberOrNull given Json.noConfusion, passes⟩
  | _ =>
    rw [given] at passes
    cases passes

/-- Where nothing is found on an id, it is a text of the right form. -/
theorem get?_of_id_findings
    {test : String -> Bool}
    {members : Table Json}
    {name missing invalid : String}
    (clean : (if (Json.memberOrNull members name).isEmptyish then [missing]
      else finding (!isTextWith test (Json.memberOrNull members name)) invalid) = []) :
    ∃ text, Table.get? members name = some (.str text) ∧ test text = true := by
  split at clean
  · cases clean
  · rw [finding_eq_nil_iff, Bool.not_eq_false'] at clean
    exact get?_of_isTextWith clean

/-- What an audit has seen of an action in which it finds nothing. -/
theorem seen_of_hasId
    {action : Json}
    (named : hasId action = true) :
    ∃ members, action = .obj members ∧ ∃ id, Table.get? members "id" = some id := by
  cases action with
  | obj members =>
    refine ⟨members, rfl, exists_of_not_isEmptyish ?_⟩
    simpa [hasId, Json.isTruthy] using named
  | _ => cases named

theorem hasId_of_actionFindings
    {actions : List Json}
    {index : Nat}
    (clean : actionFindings index actions = []) : ∀ action ∈ actions, hasId action = true := by
  induction actions generalizing index with
  | nil => exact nofun
  | cons action rest ih =>
    rw [actionFindings, List.append_eq_nil_iff, finding_eq_nil_iff, Bool.not_eq_false'] at clean
    exact List.forall_mem_cons.mpr ⟨clean.1, ih clean.2⟩

/-- What an audit has seen of a manifest in which it finds nothing. -/
structure SeenManifest (members : Table Json) : Prop where
  id : ∃ id, Table.get? members "id" = some (.str id) ∧ Identifier.isSlug id = true
  name : ∃ name, Table.get? members "name" = some name
  main : ∃ main, Table.get? members "main" = some main
  flags : ∀ flag ∈ ["supportsRealTime", "supportsNonRealTime"], ∀ value,
    Table.get? members flag = some value -> ∃ truth, value = .bool truth
  stepCount : ∀ value, Table.get? members "stepCount" = some value ->
    ∃ count : Nat, value = .int count
  schema : ∃ schema properties, Table.get? members "schema" = some (.obj schema) ∧
    Table.get? schema "properties" = some (.obj properties)
  actions : ∀ value, Table.get? members "customActions" = some value ->
    ∃ actions, value = .arr actions ∧ ∀ action ∈ actions, hasId action = true

theorem truth_of_flagFindings
    {members : Table Json}
    {flag : String}
    (clean : flagFindings members flag = []) :
    ∀ value, Table.get? members flag = some value -> ∃ truth, value = .bool truth := by
  intro value found
  unfold flagFindings at clean
  rw [found] at clean
  dsimp only at clean
  rw [finding_eq_nil_iff, Bool.not_eq_false'] at clean
  cases value with
  | bool truth => exact ⟨truth, rfl⟩
  | _ => cases clean

theorem properties_of_schemaFindings
    {members : Table Json}
    (clean : schemaFindings (Json.memberOrNull members "schema") = []) :
    ∃ schema properties, Table.get? members "schema" = some (.obj schema) ∧
      Table.get? schema "properties" = some (.obj properties) := by
  cases given : Json.memberOrNull members "schema" with
  | obj schema =>
    rw [given] at clean
    unfold schemaFindings at clean
    dsimp only at clean
    split at clean
    · cases clean
    · rename_i properties inSchema
      exact ⟨schema, properties, Json.get?_of_memberOrNull given Json.noConfusion, inSchema⟩
    · cases clean
  | _ =>
    rw [given] at clean
    cases clean

theorem seen_of_manifestFindings
    {value : Json}
    (clean : manifestFindings value = []) :
    ∃ members, value = .obj members ∧ SeenManifest members := by
  cases value with
  | obj members =>
    unfold manifestFindings at clean
    simp only [List.append_eq_nil_iff, and_assoc] at clean
    obtain ⟨id, name, main, realTime, nonRealTime, steps, schema, actions⟩ := clean
    refine ⟨members, rfl, get?_of_id_findings id, ?_, ?_, ?_, ?_,
      properties_of_schemaFindings schema, ?_⟩
    · exact exists_of_not_isEmptyish ((finding_eq_nil_iff _ _).mp name)
    · exact exists_of_not_isEmptyish ((finding_eq_nil_iff _ _).mp main)
    · simp only [List.forall_mem_cons, List.not_mem_nil, false_imp_iff, implies_true, and_true]
      exact ⟨truth_of_flagFindings realTime, truth_of_flagFindings nonRealTime⟩
    · intro value found
      rw [found] at steps
      dsimp only at steps
      rw [finding_eq_nil_iff, Bool.not_eq_false'] at steps
      cases value with
      | int count =>
        obtain ⟨natural, rfl⟩ := Int.eq_ofNat_of_zero_le (of_decide_eq_true steps)
        exact ⟨natural, rfl⟩
      | _ => cases steps
    · intro value found
      rw [found] at actions
      cases value with
      | arr items => exact ⟨items, rfl, hasId_of_actionFindings actions⟩
      | _ => cases actions
  | _ => cases clean

/-- What an audit has seen of an element in which it finds nothing. -/
structure SeenElement (members : Table Json) : Prop where
  id : ∃ id, Table.get? members "id" = some (.str id) ∧ Identifier.isElementId id = true
  kind : ∃ kind, Table.get? members "type" = some (.str kind) ∧
    Table.has ElementKind.options kind = true
  style : ∀ value, Table.get? members "style" = some value -> ∃ style, value = .obj style

theorem seen_of_elementFindings
    {element index : Json}
    (clean : elementFindings element index = []) :
    ∃ members, element = .obj members ∧ SeenElement members := by
  cases element with
  | obj members =>
    unfold elementFindings at clean
    simp only [List.append_eq_nil_iff, and_assoc] at clean
    obtain ⟨id, kind, _, _, _, _, style⟩ := clean
    refine ⟨members, rfl, get?_of_id_findings id, get?_of_id_findings kind, ?_⟩
    intro value found
    rw [found] at style
    dsimp only at style
    rw [finding_eq_nil_iff] at style
    cases value with
    | obj members => exact ⟨members, rfl⟩
    | _ => cases style
  | _ => cases clean

theorem idOf_obj
    {members : Table Json}
    {id : Json}
    (found : Table.get? members "id" = some id) : idOf (.obj members) = id := by
  change (Table.get? members "id").getD Json.null = id
  rw [found]
  rfl

theorem idOf_of_seen
    {members : Table Json}
    (seen : SeenElement members) :
    ∃ id, idOf (.obj members) = .str id ∧ id.isEmpty = false := by
  obtain ⟨id, found, isId⟩ := seen.id
  exact ⟨id, idOf_obj found, isEmpty_of_passes _ (by decide) isId⟩

/-- Where nothing is found, the elements have distinct ids that were not seen before. -/
theorem seen_of_elementsFindingsFrom
    {fromText : Bool}
    {index : Nat}
    {seen elements : List Json}
    (clean : elementsFindingsFrom fromText index seen elements = .ok []) :
    (∀ element ∈ elements, ∃ members, element = .obj members ∧ SeenElement members) ∧
      ∃ ids : List String, elements.map idOf = ids.map Json.str ∧ ids.Nodup ∧
        ∀ id ∈ ids, Json.str id ∉ seen := by
  induction elements generalizing index seen with
  | nil => exact ⟨nofun, [], rfl, List.nodup_nil, nofun⟩
  | cons element rest ih =>
    rw [elementsFindingsFrom] at clean
    dsimp only at clean
    split at clean
    · rename_i nameless
      obtain ⟨others, _, clean⟩ := ok_of_bind clean
      obtain ⟨here, _⟩ := List.append_eq_nil_iff.mp (Except.ok.inj clean)
      obtain ⟨members, rfl, looked⟩ := seen_of_elementFindings here
      obtain ⟨id, named, filled⟩ := idOf_of_seen looked
      rw [named] at nameless
      exact absurd nameless (ne_true_of_eq_false filled)
    · split at clean
      · cases clean
      · obtain ⟨others, later, clean⟩ := ok_of_bind clean
        obtain ⟨both, rfl⟩ := List.append_eq_nil_iff.mp (Except.ok.inj clean)
        obtain ⟨here, unrepeated⟩ := List.append_eq_nil_iff.mp both
        obtain ⟨members, rfl, looked⟩ := seen_of_elementFindings here
        obtain ⟨id, named, _⟩ := idOf_of_seen looked
        obtain ⟨allSeen, ids, idsOf, distinct, fresh⟩ := ih later
        rw [named] at unrepeated fresh
        rw [finding_eq_nil_iff] at unrepeated
        refine ⟨List.forall_mem_cons.mpr ⟨⟨members, rfl, looked⟩, allSeen⟩, id :: ids, ?_, ?_, ?_⟩
        · rw [List.map_cons, List.map_cons, named, idsOf]
        · refine List.nodup_cons.mpr ⟨fun member => ?_, distinct⟩
          exact fresh id member (List.mem_append_right _ List.mem_cons_self)
        · refine List.forall_mem_cons.mpr ⟨fun member => ?_, fun other member isSeen =>
            fresh other member (List.mem_append_left _ isSeen)⟩
          have differs := List.any_eq_false.mp unrepeated _ member
          simp [sameId, Json.sameScalar, Json.hasFailed] at differs

end Audit

/-! ## What an audit leaves open -/

/-- Elements that are read have the ids that their members give. -/
theorem Element.idOf_of_items
    {items : List Json}
    {index : Nat}
    {elements : List Element}
    (accepted : Checked.items check index items = .accepted elements) :
    items.map Audit.idOf = (elements.map Element.id).map Json.str := by
  induction items generalizing index elements with
  | nil =>
    cases accepted
    rfl
  | cons item rest ih =>
    obtain ⟨_, others, mapped, othersAccepted, rfl⟩ := (Checked.seq_accepted_iff _ _ _).1 accepted
    obtain ⟨first, checked, rfl⟩ := (Checked.map_accepted_iff _ _ _).1 mapped
    obtain ⟨members, rfl, read⟩ := (Check.record_accepted_iff _ _ _ _).1
      ((Checked.under_accepted_iff _ _ _).1 checked)
    rw [List.map_cons, List.map_cons, List.map_cons, Audit.idOf_obj (id_of_ofMembers read),
      ih othersAccepted]

/-- Elements with distinct ids are read together just if each of them is read. -/
theorem Snapshot.isAccepted_checkElements
    {items : List Json}
    {ids : List String}
    (named : items.map Audit.idOf = ids.map Json.str)
    (distinct : ids.Nodup) :
    (checkElements (.arr items)).IsAccepted ↔
      ∀ item ∈ items, (Element.check item).IsAccepted := by
  rw [← Check.isAccepted_list_arr]
  constructor
  · rintro ⟨elements, accepted⟩
    obtain ⟨inner, checked, _⟩ := (Checked.andThen_accepted_iff _ _ _).1 accepted
    exact ⟨inner, checked⟩
  · rintro ⟨elements, checked⟩
    have same := (Element.idOf_of_items checked).symm.trans named
    have ids : elements.map Element.id = ids :=
      List.map_injective_iff.mpr (fun _ _ alike => Json.str.inj alike) same
    refine ⟨elements, (Checked.andThen_accepted_iff _ _ _).2 ⟨elements, checked, ?_⟩⟩
    rw [(duplicateId?_eq_none_iff [] elements).2 ⟨ids ▸ distinct, fun _ _ => List.not_mem_nil⟩]

namespace Audit

/-- What the audit leaves open about an action: it has seen that there is an id. -/
structure OpenAction (members : Table Json) : Prop where
  id : (Field.plain "id").Passes Check.text members
  name : ∃ name, Table.get? members "name" = some (.str name)
  description : (Field.plain "description").Passes Check.text members

/-- What the audit leaves open about a manifest. -/
structure OpenManifest (members : Table Json) : Prop where
  schemaUrl : Manifest.schemaUrlField.Passes Check.text members
  version : (Field.plain "version").Passes Check.text members
  name : (Field.plain "name").Passes Check.text members
  description : (Field.plain "description").Passes Check.text members
  author : (Field.plain "author").Passes Author.check members
  main : (Field.plain "main").Passes Check.text members
  schema : ∀ schema, Table.get? members "schema" = some (.obj schema) ->
    (Field.plain "type").Passes Check.text schema
  properties : ∀ schema properties, Table.get? members "schema" = some (.obj schema) ->
    Table.get? schema "properties" = some (.obj properties) ->
      ∀ property ∈ properties, (SchemaProperty.check property.2).IsAccepted
  realTime : Manifest.supportsRealTimeField.PassesGiven Check.truth members
  nonRealTime : Manifest.supportsNonRealTimeField.PassesGiven Check.truth members
  stepCount : Manifest.stepCountField.PassesGiven Manifest.checkStepCount members
  actions : ∀ actions, Table.get? members "customActions" = some (.arr actions) ->
    ∀ action, .obj action ∈ actions -> OpenAction action
  givenActions : Manifest.customActionsField.PassesGiven (Check.list CustomAction.check) members

/-- What the audit leaves open about an element. -/
structure OpenElement (members : Table Json) : Prop where
  geometry : ∀ name ∈ ["x", "y", "width", "height"],
    (Field.plain name).Passes Check.finiteNumber members
  content : (Field.plain "content").Passes (Check.optional Check.text) members

/-- What the audit leaves open about animation settings: it has seen that durations are positive, but
not that they are whole. -/
structure OpenSettings (members : Table Json) : Prop where
  fractions : ∀ field ∈ [AnimationSettings.slideInDurationField,
    AnimationSettings.slideOutDurationField], ∀ number,
      Table.get? members field.writtenName = some (.float number) ->
        (Check.positiveInteger (.float number)).IsAccepted
  durations : ∀ field ∈ [AnimationSettings.slideInDurationField,
    AnimationSettings.slideOutDurationField], field.PassesGiven Check.positiveInteger members
  easings : ∀ field ∈ [AnimationSettings.slideInEasingField,
    AnimationSettings.slideOutEasingField], field.Passes (Check.choice Easing.options) members
  entrance : AnimationSettings.slideInDirectionField.Passes (Check.choice Direction.options) members
  exit : AnimationSettings.slideOutDirectionField.Passes
    (Check.optional (Check.choice Direction.options)) members

/-- What the audit leaves open about a template. -/
structure OpenTemplate (members : Table Json) : Prop where
  manifest : ∀ manifest, Table.get? members "manifest" = some (.obj manifest) ->
    OpenManifest manifest
  elements : ∀ elements, Table.get? members "elements" = some (.arr elements) ->
    ∀ element, .obj element ∈ elements -> OpenElement element
  animation : ∀ settings, Table.get? members "animationSettings" = some (.obj settings) ->
    OpenSettings settings
  givenAnimation : Snapshot.animationField.PassesGiven (Check.optional AnimationSettings.check)
    members
  component : ∀ source, Table.get? members "webComponent" = some source ->
    source.isEmptyish = true -> source = .null ∨ source = .str ""
  givenComponent : Snapshot.componentField.PassesGiven (Check.optional Check.text) members

theorem isAccepted_action_iff
    {action : Json}
    (named : hasId action = true) :
    (CustomAction.check action).IsAccepted ↔ ∀ members, action = .obj members -> OpenAction members := by
  obtain ⟨members, rfl, id, found⟩ := seen_of_hasId named
  rw [CustomAction.isAccepted_check]
  have ofId : ((Field.plain "id").find? members).isSome = true := by
    rw [Field.find?_plain, found]
    rfl
  have ofName : ((Field.plain "name").required Check.text members).IsAccepted ↔
      ∃ name, Table.get? members "name" = some (.str name) := by
    rw [Field.isAccepted_required, Field.passes_plain, Field.find?_plain]
    cases given : Table.get? members "name" with
    | none => simp
    | some value => simp
  rw [ofName, Field.isAccepted_required]
  constructor
  · rintro ⟨⟨_, id⟩, name, description⟩ _ ⟨⟩
    exact ⟨id, name, description⟩
  · intro left
    obtain ⟨id, name, description⟩ := left members rfl
    exact ⟨⟨ofId, id⟩, name, description⟩

theorem passes_actions_iff
    {members : Table Json}
    (seen : ∀ value, Table.get? members "customActions" = some value ->
      ∃ actions, value = .arr actions ∧ ∀ action ∈ actions, hasId action = true) :
    Manifest.customActionsField.Passes (Check.list CustomAction.check) members ↔
      (∀ actions, Table.get? members "customActions" = some (.arr actions) ->
        ∀ action, .obj action ∈ actions -> OpenAction action) ∧
        Manifest.customActionsField.PassesGiven (Check.list CustomAction.check) members := by
  cases found : Table.get? members "customActions" with
  | none => exact Field.passes_iff_of_absent found nofun
  | some value =>
    obtain ⟨actions, rfl, named⟩ := seen value found
    refine Field.passes_iff_of_present found ?_
    rw [Check.isAccepted_list_arr]
    constructor
    · rintro accepted _ ⟨⟩ action member
      exact (isAccepted_action_iff (named _ member)).mp (accepted _ member) action rfl
    · intro openly action member
      refine (isAccepted_action_iff (named action member)).mpr ?_
      rintro members rfl
      exact openly actions rfl members member

theorem isAccepted_manifest_iff
    {members : Table Json}
    (seen : SeenManifest members) :
    (Manifest.check (.obj members)).IsAccepted ↔ OpenManifest members := by
  obtain ⟨id, foundId, isSlug⟩ := seen.id
  obtain ⟨name, foundName⟩ := seen.name
  obtain ⟨schema, properties, foundSchema, foundProperties⟩ := seen.schema
  have ofId : ((Field.plain "id").required Manifest.checkId members).IsAccepted :=
    ⟨id, (Field.required_plain_accepted_iff _ _ _ _).2 ⟨_, foundId, Manifest.checkId_slug isSlug⟩⟩
  have ofName : ((Field.plain "name").required Check.text members).IsAccepted ↔
      (Field.plain "name").Passes Check.text members := by
    rw [Field.isAccepted_required, Field.find?_plain, foundName]
    simp
  have ofSchema : Manifest.schemaField.Passes GraphicSchema.check members ↔
      (Field.plain "type").Passes Check.text schema ∧
        ∀ property ∈ properties, (SchemaProperty.check property.2).IsAccepted := by
    have ofProperties : (Field.plain "properties").Passes (Check.mapping SchemaProperty.check)
        schema ↔ (Check.mapping SchemaProperty.check (.obj properties)).IsAccepted :=
      Field.passes_of_written foundProperties
    rw [Field.passes_of_written foundSchema, GraphicSchema.isAccepted_check, ofProperties,
      Check.isAccepted_mapping_obj]
  have flag (field : Field) (isFlag : field.writtenName ∈
      ["supportsRealTime", "supportsNonRealTime"]) :
      field.Passes Check.truth members ↔ field.PassesGiven Check.truth members := by
    refine Field.passes_iff fun value found => ?_
    obtain ⟨truth, rfl⟩ := seen.flags _ isFlag value found
    exact ⟨truth, rfl⟩
  have ofStepCount : Manifest.stepCountField.Passes Manifest.checkStepCount members ↔
      Manifest.stepCountField.PassesGiven Manifest.checkStepCount members := by
    refine Field.passes_iff fun value found => ?_
    obtain ⟨count, rfl⟩ := seen.stepCount value found
    exact ⟨count, Manifest.checkStepCount_int (Int.natCast_nonneg count)⟩
  have ofActions : Manifest.customActionsField.Passes (Check.list CustomAction.check) members ↔
      (∀ actions, Table.get? members "customActions" = some (.arr actions) ->
        ∀ action, .obj action ∈ actions -> OpenAction action) ∧
        Manifest.customActionsField.PassesGiven (Check.list CustomAction.check) members :=
    passes_actions_iff seen.actions
  rw [Manifest.isAccepted_check, ofName, ofSchema, ofActions, ofStepCount,
    flag Manifest.supportsRealTimeField List.mem_cons_self,
    flag Manifest.supportsNonRealTimeField (List.mem_cons_of_mem _ List.mem_cons_self)]
  constructor
  · rintro ⟨schemaUrl, _, version, name, description, author, main, ⟨kind, accepted⟩, realTime,
      nonRealTime, stepCount, actions, givenActions⟩
    refine ⟨schemaUrl, version, name, description, author, main, ?_, ?_, realTime, nonRealTime,
      stepCount, actions, givenActions⟩
    · intro other found
      cases foundSchema.symm.trans found
      exact kind
    · intro other others found foundOthers
      cases foundSchema.symm.trans found
      cases foundProperties.symm.trans foundOthers
      exact accepted
  · rintro ⟨schemaUrl, version, name, description, author, main, kind, accepted, realTime,
      nonRealTime, stepCount, actions, givenActions⟩
    exact ⟨schemaUrl, ofId, version, name, description, author, main,
      ⟨kind schema foundSchema, accepted schema properties foundSchema foundProperties⟩, realTime,
      nonRealTime, stepCount, actions, givenActions⟩

theorem isAccepted_element_iff
    {members : Table Json}
    (seen : SeenElement members) :
    (Element.check (.obj members)).IsAccepted ↔ OpenElement members := by
  obtain ⟨id, foundId, isId⟩ := seen.id
  obtain ⟨kind, foundKind, isKind⟩ := seen.kind
  have ofId : ((Field.plain "id").required Element.checkId members).IsAccepted :=
    ⟨id, (Field.required_plain_accepted_iff _ _ _ _).2
      ⟨_, foundId, Element.checkId_of_isElementId isId⟩⟩
  have ofKind : ((Field.plain "type").required (Check.choice ElementKind.options)
      members).IsAccepted := by
    rw [Table.has_iff_mem_names] at isKind
    obtain ⟨⟨name, choice⟩, member, rfl⟩ := List.mem_map.mp isKind
    have named : name = choice.name := by
      simp only [ElementKind.options, List.mem_cons, Prod.mk.injEq, List.not_mem_nil,
        or_false] at member
      rcases member with ⟨rfl, rfl⟩ | ⟨rfl, rfl⟩ | ⟨rfl, rfl⟩ | ⟨rfl, rfl⟩ <;> rfl
    subst named
    exact ⟨choice, (Field.required_plain_accepted_iff _ _ _ _).2
      ⟨_, foundKind, Element.choice_kind choice⟩⟩
  have ofStyle : (Field.plain "style").Passes Element.checkStyle members := by
    refine Field.passes_plain.mpr fun value found => ?_
    obtain ⟨style, rfl⟩ := seen.style value found
    exact ⟨_, rfl⟩
  rw [Element.isAccepted_check]
  constructor
  · rintro ⟨_, _, geometry, content, _⟩
    exact ⟨geometry, content⟩
  · rintro ⟨geometry, content⟩
    exact ⟨ofId, ofKind, geometry, content, ofStyle⟩

theorem passes_elements_iff
    {members : Table Json}
    {fromText : Bool}
    (clean : elementsFindings fromText ((Table.get? members "elements").getD (.arr [])) = .ok []) :
    (Field.plain "elements").Passes Snapshot.checkElements members ↔
      ∀ elements, Table.get? members "elements" = some (.arr elements) ->
        ∀ element, .obj element ∈ elements -> OpenElement element := by
  rw [Field.passes_plain]
  cases found : Table.get? members "elements" with
  | none => exact ⟨fun _ => nofun, fun _ => nofun⟩
  | some value =>
    rw [found] at clean
    cases value with
    | arr items =>
      obtain ⟨seen, ids, named, distinct, _⟩ := seen_of_elementsFindingsFrom clean
      simp only [Option.some.injEq, forall_eq', Json.arr.injEq]
      rw [Snapshot.isAccepted_checkElements named distinct]
      constructor
      · intro accepted element member
        obtain ⟨_, same, looked⟩ := seen _ member
        cases same
        exact (isAccepted_element_iff looked).mp (accepted _ member)
      · intro openly element member
        obtain ⟨members, rfl, looked⟩ := seen element member
        exact (isAccepted_element_iff looked).mpr (openly members member)
    | _ => cases clean

theorem passes_duration_iff
    {field : Field}
    {members : Table Json}
    (clean : durationFindings members field.writtenName = []) :
    field.Passes Check.positiveInteger members ↔
      (∀ number, Table.get? members field.writtenName = some (.float number) ->
        (Check.positiveInteger (.float number)).IsAccepted) ∧
        field.PassesGiven Check.positiveInteger members := by
  unfold durationFindings at clean
  cases found : Table.get? members field.writtenName with
  | none => exact Field.passes_iff_of_absent found nofun
  | some value =>
    rw [found] at clean
    dsimp only at clean
    rw [finding_eq_nil_iff, Bool.not_eq_false'] at clean
    refine Field.passes_iff_of_present found ?_
    cases value with
    | int number =>
      have positive : 0 < number := of_decide_eq_true clean
      have accepted : (Check.positiveInteger (.int number)).IsAccepted :=
        ⟨number, by
          change (if 0 < number then _ else _) = _
          rw [if_pos positive]⟩
      exact ⟨fun _ => nofun, fun _ => accepted⟩
    | float number =>
      refine ⟨?_, fun accepted => accepted number rfl⟩
      rintro accepted _ ⟨⟩
      exact accepted
    | _ => cases clean

theorem isAccepted_settings_iff
    {members : Table Json}
    (clean : animationFindings (.obj members) = []) :
    (AnimationSettings.check (.obj members)).IsAccepted ↔ OpenSettings members := by
  obtain ⟨slideIn, slideOut⟩ := List.append_eq_nil_iff.mp clean
  have ofDuration : ∀ field ∈ [AnimationSettings.slideInDurationField,
      AnimationSettings.slideOutDurationField], durationFindings members field.writtenName = [] := by
    simp only [List.forall_mem_cons, List.not_mem_nil, false_imp_iff, implies_true, and_true]
    exact ⟨slideIn, slideOut⟩
  rw [AnimationSettings.isAccepted_check]
  constructor
  · rintro ⟨durations, easings, entrance, exit⟩
    exact ⟨fun field isField => ((passes_duration_iff (ofDuration field isField)).mp
        (durations field isField)).1,
      fun field isField => ((passes_duration_iff (ofDuration field isField)).mp
        (durations field isField)).2, easings, entrance, exit⟩
  · rintro ⟨fractions, durations, easings, entrance, exit⟩
    exact ⟨fun field isField => (passes_duration_iff (ofDuration field isField)).mpr
      ⟨fractions field isField, durations field isField⟩, easings, entrance, exit⟩

theorem passes_animation_iff
    {members : Table Json}
    (clean : animationFindings (Json.memberOrNull members "animationSettings") = []) :
    Snapshot.animationField.Passes (Check.optional AnimationSettings.check) members ↔
      (∀ settings, Table.get? members "animationSettings" = some (.obj settings) ->
        OpenSettings settings) ∧
        Snapshot.animationField.PassesGiven (Check.optional AnimationSettings.check) members := by
  unfold Json.memberOrNull at clean
  cases found : Table.get? members "animationSettings" with
  | none => exact Field.passes_iff_of_absent found nofun
  | some value =>
    rw [found] at clean
    refine Field.passes_iff_of_present found ?_
    cases value with
    | null => exact ⟨fun _ => nofun, fun _ => ⟨none, rfl⟩⟩
    | obj settings =>
      have checked : (Check.optional AnimationSettings.check (.obj settings)).IsAccepted ↔
          OpenSettings settings :=
        (Checked.isAccepted_map _ _).trans (isAccepted_settings_iff clean)
      rw [checked]
      refine ⟨?_, fun openly => openly settings rfl⟩
      rintro openly _ ⟨⟩
      exact openly
    | _ => cases clean

theorem passes_component_iff
    {members : Table Json}
    (clean : componentFindings (Json.memberOrNull members "webComponent") = []) :
    Snapshot.componentField.Passes (Check.optional Check.text) members ↔
      (∀ source, Table.get? members "webComponent" = some source ->
        source.isEmptyish = true -> source = .null ∨ source = .str "") ∧
        Snapshot.componentField.PassesGiven (Check.optional Check.text) members := by
  unfold Json.memberOrNull at clean
  cases found : Table.get? members "webComponent" with
  | none => exact Field.passes_iff_of_absent found nofun
  | some value =>
    rw [found, Option.getD_some] at clean
    refine Field.passes_iff_of_present found ?_
    rw [Check.isAccepted_optional_text]
    simp only [Option.some.injEq, forall_eq']
    constructor
    · rintro (rfl | ⟨text, rfl⟩) nothing
      · exact Or.inl rfl
      · exact Or.inr (congrArg Json.str (String.isEmpty_iff.mp nothing))
    · intro ofEmptyish
      unfold componentFindings at clean
      split at clean
      · rename_i nothing
        rcases ofEmptyish nothing with rfl | rfl
        · exact Or.inl rfl
        · exact Or.inr ⟨"", rfl⟩
      · split at clean
        · rename_i text _
          exact Or.inr ⟨text, rfl⟩
        · cases clean

/-- A value in which the audit finds nothing is read as a template just if what the audit leaves open
is accepted too. -/
theorem audited_template_loads_iff
    {template : Table Json}
    {fromText : Bool}
    (clean : findings (.obj template) fromText = .ok []) :
    (∃ snapshot, Snapshot.read (.obj template) = .ok snapshot) ↔ OpenTemplate template := by
  obtain ⟨found, elementsClean, clean⟩ := ok_of_bind clean
  simp only [Except.ok.injEq, List.append_eq_nil_iff, and_assoc] at clean
  obtain ⟨manifestClean, rfl, componentClean, animationClean⟩ := clean
  obtain ⟨manifest, described, seen⟩ := seen_of_manifestFindings manifestClean
  have foundManifest : Table.get? template "manifest" = some (.obj manifest) :=
    Json.get?_of_memberOrNull described Json.noConfusion
  have ofManifest : ((Field.plain "manifest").required Manifest.check template).IsAccepted ↔
      OpenManifest manifest := by
    rw [Field.isAccepted_required, Field.passes_plain, Field.find?_plain, foundManifest,
      ← isAccepted_manifest_iff seen]
    simp
  have readable : (∃ snapshot, Snapshot.read (.obj template) = .ok snapshot) ↔
      (Snapshot.check (.obj template)).IsAccepted := by
    unfold Snapshot.read Checked.IsAccepted
    simp only [Checked.orInvalid_eq_ok]
  rw [readable, Snapshot.isAccepted_check, ofManifest, passes_elements_iff elementsClean,
    passes_animation_iff animationClean, passes_component_iff componentClean]
  constructor
  · rintro ⟨ofManifest, elements, ⟨animation, givenAnimation⟩, component, givenComponent⟩
    refine ⟨fun other foundOther => ?_, elements, animation, givenAnimation, component,
      givenComponent⟩
    cases foundManifest.symm.trans foundOther
    exact ofManifest
  · rintro ⟨ofManifest, elements, animation, givenAnimation, component, givenComponent⟩
    exact ⟨ofManifest manifest foundManifest, elements, ⟨animation, givenAnimation⟩, component,
      givenComponent⟩

/-- A template with a manifest of a given name and one element at a given height. -/
def namedTemplate (name height : Json) : Table Json :=
  [("manifest", .obj [("id", .str "demo"), ("name", name), ("main", .str "template.mjs"),
      ("schema", .obj [("properties", .obj [])])]),
    ("elements", .arr [.obj [("id", .str "title"), ("type", .str "text"), ("x", .int 0),
      ("y", .int 0), ("width", .int 10), ("height", height)]])]

/-- A template that is audited without findings and read, so that nothing is left open. -/
theorem named_template_is_closed :
    findings (.obj (namedTemplate (.str "Demo") (.int 10))) = .ok [] ∧
      OpenTemplate (namedTemplate (.str "Demo") (.int 10)) := by
  have clean : findings (.obj (namedTemplate (.str "Demo") (.int 10))) = .ok [] := by
    decide +kernel
  have loads : (Snapshot.read (.obj (namedTemplate (.str "Demo") (.int 10)))).toOption.isSome =
      true := by
    decide +kernel
  refine ⟨clean, (audited_template_loads_iff clean).mp ?_⟩
  cases read : Snapshot.read (.obj (namedTemplate (.str "Demo") (.int 10))) with
  | ok snapshot => exact ⟨snapshot, rfl⟩
  | error fault =>
    rw [read] at loads
    cases loads

/-- The audit finds nothing in a name that is a number and in a height without end, but neither
template is read. -/
theorem audited_templates_not_read :
    findings (.obj (namedTemplate (.int 5) (.int 10))) = .ok [] ∧
      (¬∃ snapshot, Snapshot.read (.obj (namedTemplate (.int 5) (.int 10))) = .ok snapshot) ∧
      findings (.obj (namedTemplate (.str "Demo") (.float (.infinite false)))) = .ok [] ∧
      ¬∃ snapshot, Snapshot.read
        (.obj (namedTemplate (.str "Demo") (.float (.infinite false)))) = .ok snapshot := by
  refine ⟨by decide +kernel, ?_, by decide +kernel, ?_⟩
  · rintro ⟨snapshot, read⟩
    have refused : (Snapshot.read (.obj (namedTemplate (.int 5) (.int 10)))).toOption.isSome =
        false := by
      decide +kernel
    rw [read] at refused
    cases refused
  · rintro ⟨snapshot, read⟩
    have refused : (Snapshot.read (.obj (namedTemplate (.str "Demo")
        (.float (.infinite false))))).toOption.isSome = false := by
      decide +kernel
    rw [read] at refused
    cases refused

end Audit
end BroadcastGraphics
