import BroadcastGraphics.Proofs.ComponentCache
import BroadcastGraphics.Proofs.IncomingValidity
import BroadcastGraphics.Proofs.JsonText

/-!
# Templates as texts

What is written of a template is read back as a template that is written in the same way and has the
same component.  This takes a template that can be written at all, whose written form JSON text can
carry, whose elements lie at finite places, and in which no free value is a number without digits:
such a number is written as nothing, and a member that is nothing is left out the next time.
-/

namespace BroadcastGraphics

namespace Json

/-! ## Writing again what was written -/

/-- The value is not itself a number without digits. -/
def HasDigits : Json -> Prop
  | float number => number.isFinite = true
  | _ => True

instance : DecidablePred HasDigits
  | float number => inferInstanceAs (Decidable (number.isFinite = true))
  | null => isTrue trivial
  | bool _ => isTrue trivial
  | int _ => isTrue trivial
  | str _ => isTrue trivial
  | arr _ => isTrue trivial
  | obj _ => isTrue trivial

theorem isNull_finiteOnly
    {value : Json}
    (hasDigits : value.HasDigits) : value.finiteOnly.isNull = value.isNull := by
  cases value with
  | float number =>
    rw [finiteOnly, if_pos (show number.isFinite = true from hasDigits)]
  | arr items =>
    rw [finiteOnly]
    rfl
  | obj members =>
    rw [finiteOnly]
    rfl
  | _ => rfl

mutual

theorem HasDigits.finiteOnly
    {value : Json}
    (hasDigits : value.HasDigits) : value.finiteOnly.HasDigits := by
  cases value with
  | float number =>
    have finite : number.isFinite = true := hasDigits
    rw [Json.finiteOnly, if_pos finite]
    exact hasDigits
  | _ => trivial

/-- Numbers without digits are written as nothing once and for all. -/
theorem finiteOnly_finiteOnly : ∀ value : Json, value.finiteOnly.finiteOnly = value.finiteOnly
  | .null => rfl
  | .bool _ => rfl
  | .int _ => rfl
  | .str _ => rfl
  | .float number => by
      rw [finiteOnly]
      split
      · rename_i finite
        rw [finiteOnly, if_pos finite]
      · rfl
  | .arr items => by rw [finiteOnly, finiteOnly, finiteItems_finiteItems items]
  | .obj members => by rw [finiteOnly, finiteOnly, finiteMembers_finiteMembers members]

theorem finiteItems_finiteItems :
    ∀ items : List Json, finiteItems (finiteItems items) = finiteItems items
  | [] => rfl
  | item :: rest => by
      rw [finiteItems, finiteItems, finiteOnly_finiteOnly item, finiteItems_finiteItems rest]

theorem finiteMembers_finiteMembers :
    ∀ members : List (String × Json), finiteMembers (finiteMembers members) = finiteMembers members
  | [] => rfl
  | (name, value) :: rest => by
      rw [finiteMembers, finiteMembers, finiteOnly_finiteOnly value,
        finiteMembers_finiteMembers rest]

end

mutual

theorem levels_finiteOnly : ∀ value : Json, value.finiteOnly.levels = value.levels
  | .null => rfl
  | .bool _ => rfl
  | .int _ => rfl
  | .str _ => rfl
  | .float number => by
      rw [finiteOnly]
      split <;> rfl
  | .arr items => by rw [finiteOnly, levels, levels, levelsOfItems_finiteItems items]
  | .obj members => by rw [finiteOnly, levels, levels, levelsOfMembers_finiteMembers members]

theorem levelsOfItems_finiteItems :
    ∀ items : List Json, levelsOfItems (finiteItems items) = levelsOfItems items
  | [] => rfl
  | item :: rest => by
      rw [finiteItems, levelsOfItems, levelsOfItems, levels_finiteOnly item,
        levelsOfItems_finiteItems rest]

theorem levelsOfMembers_finiteMembers :
    ∀ members : List (String × Json),
      levelsOfMembers (finiteMembers members) = levelsOfMembers members
  | [] => rfl
  | (name, value) :: rest => by
      rw [finiteMembers, levelsOfMembers, levelsOfMembers, levels_finiteOnly value,
        levelsOfMembers_finiteMembers rest]

end

/-- A member that is something or nothing for good is settled once and for all. -/
theorem settledMembers_cons_finiteOnly
    {value : Json}
    (hasDigits : value.HasDigits)
    (name : String)
    (rest : Table Json) :
    settledMembers ((name, value.finiteOnly) :: rest) = settledMembers ((name, value) :: rest) := by
  have sameNothing := isNull_finiteOnly hasDigits
  cases isNothing : value.isNull with
  | true =>
    rw [settledMembers_cons_of_null isNothing,
      settledMembers_cons_of_null (sameNothing.trans isNothing)]
  | false =>
    rw [settledMembers_cons_of_present isNothing,
      settledMembers_cons_of_present (sameNothing.trans isNothing), finiteOnly_finiteOnly]

theorem settledMembers_settledMembers
    {members : Table Json}
    (hasDigits : ∀ value ∈ members.map Prod.snd, value.HasDigits) :
    settledMembers (settledMembers members) = settledMembers members := by
  induction members with
  | nil => rfl
  | cons member rest ih =>
    obtain ⟨name, value⟩ := member
    obtain ⟨here, later⟩ := List.forall_mem_cons.1 hasDigits
    cases isNothing : value.isNull with
    | true => rw [settledMembers_cons_of_null isNothing, ih later]
    | false =>
      rw [settledMembers_cons_of_present isNothing, settledMembers_cons_finiteOnly here,
        settledMembers_cons_of_present isNothing, ih later]

/-- Every settled value is the settled form of one of before. -/
theorem mem_settledMembers
    {members : Table Json}
    {value : Json}
    (member : value ∈ (settledMembers members).map Prod.snd) :
    ∃ before ∈ members.map Prod.snd, value = before.finiteOnly := by
  unfold settledMembers at member
  rw [finiteMembers_eq_map] at member
  obtain ⟨_, isSettled, rfl⟩ := List.mem_map.1 member
  obtain ⟨given, isPresent, rfl⟩ := List.mem_map.1 isSettled
  exact ⟨given.2, List.mem_map_of_mem (List.mem_filter.1 isPresent).1, rfl⟩

/-! ## Levels -/

theorem levelsOfItems_le_iff
    (items : List Json)
    (most : Nat) : levelsOfItems items ≤ most ↔ ∀ item ∈ items, item.levels ≤ most := by
  induction items with
  | nil => simp [levelsOfItems]
  | cons item rest ih => simp [levelsOfItems, ih]

theorem levelsOfMembers_le_iff
    (members : Table Json)
    (most : Nat) :
    levelsOfMembers members ≤ most ↔ ∀ value ∈ members.map Prod.snd, value.levels ≤ most := by
  induction members with
  | nil => simp [levelsOfMembers]
  | cons member rest ih => simp [levelsOfMembers, ih]

theorem levels_obj_le
    {members : Table Json}
    {most : Nat}
    (each : ∀ value ∈ members.map Prod.snd, value.levels ≤ most) :
    (obj members).levels ≤ most + 1 := by
  have within := (levelsOfMembers_le_iff members most).2 each
  rw [levels]
  omega

theorem levels_arr_le
    {items : List Json}
    {most : Nat}
    (each : ∀ item ∈ items, item.levels ≤ most) : (arr items).levels ≤ most + 1 := by
  have within := (levelsOfItems_le_iff items most).2 each
  rw [levels]
  omega

/-- Settled members have no more levels than the members of before. -/
theorem levels_settledMembers
    {members : Table Json}
    {most : Nat}
    (each : ∀ value ∈ members.map Prod.snd, value.levels ≤ most) :
    ∀ value ∈ (settledMembers members).map Prod.snd, value.levels ≤ most := by
  intro value member
  obtain ⟨before, isThere, rfl⟩ := mem_settledMembers member
  rw [levels_finiteOnly]
  exact each before isThere

end Json

/-! ## Manifests -/

namespace SchemaProperty

/-- What is written of the property again is what was written of it before. -/
theorem toJson_settled
    {property : SchemaProperty}
    (hasDigits : ∀ value ∈ property.freeValues, value.HasDigits) :
    property.settled.toJson = property.toJson := by
  obtain ⟨default, extras⟩ := List.forall_mem_cons.1 hasDigits
  change Json.obj (Json.settledMembers property.settled.members) =
    .obj (Json.settledMembers property.members)
  have fields := Json.settledMembers_cons_finiteOnly default "default" []
  unfold members settled
  rw [Json.settledMembers_append, Json.settledMembers_append,
    Json.settledMembers_settledMembers extras]
  exact congrArg (fun field => Json.obj
    (("type", .str property.kind) :: ("title", .str property.title) :: field ++ _)) fields

theorem mem_freeValues_settled
    {property : SchemaProperty}
    {value : Json}
    (member : value ∈ property.settled.freeValues) :
    ∃ before ∈ property.freeValues, value = before.finiteOnly := by
  rcases List.mem_cons.1 member with rfl | further
  · exact ⟨property.default, List.mem_cons_self, rfl⟩
  · obtain ⟨before, isThere, same⟩ := Json.mem_settledMembers further
    exact ⟨before, List.mem_cons_of_mem _ isThere, same⟩

theorem levels_toJson
    {property : SchemaProperty}
    {most : Nat}
    (some : 1 ≤ most)
    (each : ∀ value ∈ property.freeValues, value.levels ≤ most) :
    property.toJson.levels ≤ most + 1 := by
  refine Json.levels_obj_le (Json.levels_settledMembers fun value member => ?_)
  rw [members, List.map_append, List.mem_append] at member
  rcases member with field | further
  · simp only [List.map_cons, List.map_nil, List.mem_cons, List.not_mem_nil, or_false] at field
    rcases field with rfl | rfl | rfl
    · exact some
    · exact some
    · exact each _ List.mem_cons_self
  · exact each value (List.mem_cons_of_mem _ further)

end SchemaProperty

namespace CustomAction

theorem toJson_settled
    {action : CustomAction}
    (hasDigits : ∀ value ∈ action.freeValues, value.HasDigits) :
    action.settled.toJson = action.toJson := by
  change Json.obj (Json.settledMembers action.settled.members) =
    .obj (Json.settledMembers action.members)
  unfold members settled
  rw [Json.settledMembers_append, Json.settledMembers_append,
    Json.settledMembers_settledMembers hasDigits]

theorem levels_toJson
    {action : CustomAction}
    {most : Nat}
    (some : 1 ≤ most)
    (each : ∀ value ∈ action.freeValues, value.levels ≤ most) :
    action.toJson.levels ≤ most + 1 := by
  refine Json.levels_obj_le (Json.levels_settledMembers fun value member => ?_)
  rw [members, List.map_append, List.mem_append] at member
  rcases member with field | further
  · simp only [List.map_cons, List.map_nil, List.mem_cons, List.not_mem_nil, or_false] at field
    rcases field with rfl | rfl | rfl <;> exact some
  · exact each value further

end CustomAction

namespace GraphicSchema

theorem toJson_settled
    {schema : GraphicSchema}
    (hasDigits : ∀ value ∈ schema.freeValues, value.HasDigits) :
    schema.settled.toJson = schema.toJson := by
  have properties : Table.mapEntries SchemaProperty.toJson
        (Table.mapEntries SchemaProperty.settled schema.properties) =
      Table.mapEntries SchemaProperty.toJson schema.properties := by
    unfold Table.mapEntries
    rw [List.map_map]
    refine List.map_congr_left fun entry member => ?_
    refine congrArg (Prod.mk entry.1) (SchemaProperty.toJson_settled fun value free => ?_)
    exact hasDigits value (List.mem_append_left _ (List.mem_flatMap.2 ⟨entry, member, free⟩))
  have extras : Json.settledMembers (Json.settledMembers schema.extras) =
      Json.settledMembers schema.extras :=
    Json.settledMembers_settledMembers fun value member =>
      hasDigits value (List.mem_append_right _ member)
  change Json.obj (_ ++ Json.settledMembers (Json.settledMembers schema.extras)) = _
  rw [extras]
  unfold settled
  rw [properties]
  rfl

theorem mem_freeValues_settled
    {schema : GraphicSchema}
    {value : Json}
    (member : value ∈ schema.settled.freeValues) :
    ∃ before ∈ schema.freeValues, value = before.finiteOnly := by
  rcases List.mem_append.1 member with ofProperty | further
  · obtain ⟨settled, isSettled, free⟩ := List.mem_flatMap.1 ofProperty
    obtain ⟨entry, isThere, rfl⟩ := List.mem_map.1 isSettled
    obtain ⟨before, isBefore, same⟩ := SchemaProperty.mem_freeValues_settled free
    exact ⟨before, List.mem_append_left _ (List.mem_flatMap.2 ⟨entry, isThere, isBefore⟩), same⟩
  · obtain ⟨before, isThere, same⟩ := Json.mem_settledMembers further
    exact ⟨before, List.mem_append_right _ isThere, same⟩

theorem levels_toJson
    {schema : GraphicSchema}
    {most : Nat}
    (some : 1 ≤ most)
    (each : ∀ value ∈ schema.freeValues, value.levels ≤ most) :
    schema.toJson.levels ≤ most + 3 := by
  refine Json.levels_obj_le fun value member => ?_
  rw [List.map_append, List.mem_append] at member
  rcases member with field | further
  · simp only [List.map_cons, List.map_nil, List.mem_cons, List.not_mem_nil, or_false] at field
    rcases field with rfl | rfl
    · exact Nat.le_add_left _ _
    · refine Json.levels_obj_le fun value member => ?_
      obtain ⟨written, isWritten, rfl⟩ := List.mem_map.1 member
      obtain ⟨entry, isThere, rfl⟩ := List.mem_map.1 isWritten
      exact SchemaProperty.levels_toJson some fun value free =>
        each value (List.mem_append_left _ (List.mem_flatMap.2 ⟨entry, isThere, free⟩))
  · have within : value.levels ≤ most :=
      Json.levels_settledMembers (fun value member => each value (List.mem_append_right _ member))
        value further
    omega

end GraphicSchema

namespace Manifest

variable {manifest : Manifest}

theorem toJson_settled
    (hasDigits : ∀ value ∈ manifest.freeValues, value.HasDigits) :
    manifest.settled.toJson = manifest.toJson := by
  have schema : manifest.schema.settled.toJson = manifest.schema.toJson :=
    GraphicSchema.toJson_settled fun value free =>
      hasDigits value (List.mem_append_left _ (List.mem_append_left _ free))
  have actions : (manifest.customActions.map CustomAction.settled).map CustomAction.toJson =
      manifest.customActions.map CustomAction.toJson := by
    rw [List.map_map]
    refine List.map_congr_left fun action member => CustomAction.toJson_settled fun value free => ?_
    exact hasDigits value (List.mem_append_left _
      (List.mem_append_right _ (List.mem_flatMap.2 ⟨action, member, free⟩)))
  have extras : Json.settledMembers (Json.settledMembers manifest.extras) =
      Json.settledMembers manifest.extras :=
    Json.settledMembers_settledMembers fun value member =>
      hasDigits value (List.mem_append_right _ member)
  have values : manifest.settled.values = manifest.values := by
    unfold values settled
    rw [schema, actions]
  change Json.obj (_ ++ Json.settledMembers (Json.settledMembers manifest.extras)) = _
  rw [values, extras]
  rfl

theorem mem_freeValues_settled
    {value : Json}
    (member : value ∈ manifest.settled.freeValues) :
    ∃ before ∈ manifest.freeValues, value = before.finiteOnly := by
  rcases List.mem_append.1 member with inside | further
  · rcases List.mem_append.1 inside with ofSchema | ofAction
    · obtain ⟨before, isThere, same⟩ := GraphicSchema.mem_freeValues_settled ofSchema
      exact ⟨before, List.mem_append_left _ (List.mem_append_left _ isThere), same⟩
    · obtain ⟨settled, isSettled, free⟩ := List.mem_flatMap.1 ofAction
      obtain ⟨action, isThere, rfl⟩ := List.mem_map.1 isSettled
      obtain ⟨before, isBefore, same⟩ := Json.mem_settledMembers free
      exact ⟨before, List.mem_append_left _
        (List.mem_append_right _ (List.mem_flatMap.2 ⟨action, isThere, isBefore⟩)), same⟩
  · obtain ⟨before, isThere, same⟩ := Json.mem_settledMembers further
    exact ⟨before, List.mem_append_right _ isThere, same⟩

theorem levels_toJson
    {most : Nat}
    (some : 1 ≤ most)
    (each : ∀ value ∈ manifest.freeValues, value.levels ≤ most) :
    manifest.toJson.levels ≤ most + 4 := by
  have schema : manifest.schema.toJson.levels ≤ most + 3 :=
    GraphicSchema.levels_toJson some fun value free =>
      each value (List.mem_append_left _ (List.mem_append_left _ free))
  have actions : (Json.arr (manifest.customActions.map CustomAction.toJson)).levels ≤ most + 2 := by
    refine Json.levels_arr_le fun item member => ?_
    obtain ⟨action, isThere, rfl⟩ := List.mem_map.1 member
    exact CustomAction.levels_toJson some fun value free => each value (List.mem_append_left _
      (List.mem_append_right _ (List.mem_flatMap.2 ⟨action, isThere, free⟩)))
  refine Json.levels_obj_le fun value member => ?_
  rw [members, List.map_append, List.mem_append] at member
  rcases member with field | further
  · have isValue : value ∈ manifest.values := by
      obtain ⟨entry, isThere, rfl⟩ := List.mem_map.1 field
      exact (List.of_mem_zip isThere).2
    simp only [values, List.mem_cons, List.not_mem_nil, or_false] at isValue
    rcases isValue with rfl | rfl | rfl | rfl | rfl | rfl | rfl | rfl | rfl | rfl | rfl | rfl
    case inr.inr.inr.inr.inr.inl =>
      exact Nat.le_add_left 2 (most + 1)
    case inr.inr.inr.inr.inr.inr.inr.inl => exact schema
    case inr.inr.inr.inr.inr.inr.inr.inr.inr.inr.inr => exact Nat.le_succ_of_le actions
    all_goals exact Nat.le_add_left 1 (most + 2)
  · have within : value.levels ≤ most :=
      Json.levels_settledMembers (fun value member => each value (List.mem_append_right _ member))
        value further
    omega

end Manifest

/-! ## Elements and settings -/

namespace Element

/-- The written form of an element does not show the sign of zero. -/
theorem toJson_settled (element : Element) : element.settled.toJson = element.toJson := by
  unfold toJson members settled
  simp only [Binary64.plainJson_withoutZeroSign]
  rfl

theorem levels_toJson (element : Element) : element.toJson.levels ≤ 3 := by
  have style : element.styleJson.levels ≤ 2 := by
    refine Json.levels_obj_le fun value member => ?_
    obtain ⟨entry, isThere, rfl⟩ := List.mem_map.1 member
    obtain ⟨property, _, rfl⟩ := List.mem_map.1 isThere
    exact Nat.le_refl 1
  have number (given : Binary64) : given.plainJson.levels ≤ 2 := by
    unfold Binary64.plainJson
    cases given.whole? <;> exact Nat.le_succ 1
  have content : (Json.ofText? element.content).levels ≤ 2 := by
    cases element.content <;> exact Nat.le_succ 1
  refine Json.levels_obj_le fun value member => ?_
  obtain ⟨entry, isPresent, rfl⟩ := List.mem_map.1 member
  have isThere : entry ∈ element.members := (List.mem_filter.1 isPresent).1
  simp only [members, List.mem_cons, List.not_mem_nil, or_false] at isThere
  rcases isThere with rfl | rfl | rfl | rfl | rfl | rfl | rfl | rfl
  · exact Nat.le_succ 1
  · exact Nat.le_succ 1
  · exact number _
  · exact number _
  · exact number _
  · exact number _
  · exact content
  · exact style

end Element

theorem AnimationSettings.levels_toJson (settings : AnimationSettings) :
    settings.toJson.levels ≤ 2 := by
  refine Json.levels_obj_le fun value member => ?_
  obtain ⟨entry, isThere, rfl⟩ := List.mem_map.1 member
  have isValue : entry.2 ∈ settings.values := (List.of_mem_zip isThere).2
  simp only [values, List.mem_cons, List.not_mem_nil, or_false] at isValue
  rcases isValue with same | same | same | same | same | same <;> rw [same]
  case inr.inr.inr.inr.inr => cases settings.slideOutDirection <;> exact Nat.le_refl 1
  all_goals exact Nat.le_refl 1

/-! ## Templates -/

namespace Snapshot

theorem toJson_settled
    {snapshot : Snapshot}
    (hasDigits : ∀ value ∈ snapshot.manifest.freeValues, value.HasDigits) :
    snapshot.settled.toJson = snapshot.toJson := by
  have elements : (snapshot.elements.map Element.settled).map Element.toJson =
      snapshot.elements.map Element.toJson := by
    rw [List.map_map]
    exact List.map_congr_left fun element _ => element.toJson_settled
  unfold toJson members settled
  rw [Manifest.toJson_settled hasDigits, elements]

theorem levels_toJson
    {snapshot : Snapshot}
    {most : Nat}
    (some : 1 ≤ most)
    (each : ∀ value ∈ snapshot.manifest.freeValues, value.levels ≤ most) :
    snapshot.toJson.levels ≤ most + 5 := by
  have elements : (Json.arr (snapshot.elements.map Element.toJson)).levels ≤ 4 := by
    refine Json.levels_arr_le fun item member => ?_
    obtain ⟨element, _, rfl⟩ := List.mem_map.1 member
    exact element.levels_toJson
  have animation : (animationJson snapshot.animation).levels ≤ 2 := by
    cases snapshot.animation with
    | none => exact Nat.le_succ 1
    | some settings => exact settings.levels_toJson
  have component : (Json.ofText? snapshot.component).levels ≤ 1 := by
    cases snapshot.component <;> exact Nat.le_refl 1
  refine Json.levels_obj_le fun value member => ?_
  simp only [members, List.map_cons, List.map_nil, List.mem_cons, List.not_mem_nil, or_false]
    at member
  rcases member with rfl | rfl | rfl | rfl
  · exact Manifest.levels_toJson some each
  all_goals omega

end Snapshot

namespace Template

/-- A template lasts if its written form can be read back from a text and is then written in the same
way: no value that can be anything is a number without digits, the elements lie at finite places, and
JSON text can carry its texts and integers. -/
structure Lasting (template : Template) : Prop where
  hasDigits : ∀ value ∈ template.manifest.freeValues, value.HasDigits
  placed : ∀ element ∈ template.elements, element.Placed
  legible : template.toJson.Legible
  wellFormed : template.toJson.WellFormed

instance (template : Template) : Decidable template.Lasting :=
  decidable_of_iff
    ((∀ value ∈ template.manifest.freeValues, value.HasDigits) ∧
      (∀ element ∈ template.elements, element.Placed) ∧ template.toJson.Legible ∧
      template.toJson.WellFormed)
    ⟨fun ⟨hasDigits, placed, legible, wellFormed⟩ => ⟨hasDigits, placed, legible, wellFormed⟩,
      fun ⟨hasDigits, placed, legible, wellFormed⟩ => ⟨hasDigits, placed, legible, wellFormed⟩⟩

/-- The template that is read from the text of one. -/
def reread (template : Template) : Template :=
  ofSnapshot template.snapshot.settled

section Reread

variable {template : Template}

theorem toJson_reread (lasting : template.Lasting) : template.reread.toJson = template.toJson :=
  Snapshot.toJson_settled lasting.hasDigits

theorem hasDigits_reread
    (hasDigits : ∀ value ∈ template.manifest.freeValues, value.HasDigits) :
    ∀ value ∈ template.reread.manifest.freeValues, value.HasDigits := by
  intro value member
  obtain ⟨before, isThere, rfl⟩ := Manifest.mem_freeValues_settled member
  exact (hasDigits before isThere).finiteOnly

theorem writable_reread (writable : template.Writable) : template.reread.Writable := by
  intro value member
  obtain ⟨before, isThere, rfl⟩ := Manifest.mem_freeValues_settled member
  rw [Json.levels_finiteOnly]
  exact writable before isThere

/-- What could be written before can be written again, and gives the same. -/
theorem written_reread
    (lasting : template.Lasting)
    (writable : template.Writable) : template.reread.written = template.written := by
  rw [written_of_writable (writable_reread writable), written_of_writable writable,
    toJson_reread lasting]

/-- The component depends on nothing that is lost. -/
theorem generated_reread (template : Template) : template.reread.generated = template.generated := by
  have elements : template.reread.elements.map Element.toJson =
      template.elements.map Element.toJson := by
    refine (List.map_map).trans ?_
    exact List.map_congr_left fun element _ => element.toJson_settled
  have rules : Style.rules template.reread.elements = Style.rules template.elements := by
    refine congrArg (String.intercalate "\n") ((List.map_map).trans ?_)
    exact List.map_congr_left fun element _ => rfl
  unfold generated Component.source Component.of
  rw [elements, rules]
  rfl

/-- A regular template that lasts and can be written is read back from its text. -/
theorem read_text
    (regular : template.Regular)
    (lasting : template.Lasting)
    (writable : template.Writable) :
    Json.ofText (template.toJson.literal none) = .ok template.toJson ∧
      Snapshot.read template.toJson = .ok template.reread.snapshot := by
  have shallow : template.toJson.levels ≤ Json.Reader.Limits.standard.depth :=
    (@Snapshot.levels_toJson template.snapshot _ (by decide) writable).trans (by decide)
  refine ⟨?_, Snapshot.read_toJson (regular.valid lasting.placed)⟩
  rw [Json.ofText, Json.parse_literal none lasting.legible lasting.wellFormed shallow]
  rfl

end Reread

end Template
end BroadcastGraphics
