import BroadcastGraphics.Proofs.DataStandard
import BroadcastGraphics.Proofs.TemplateValidity

/-!
# Edits keep the standard of data

What a template holds meets a standard if the values it was made from and edited with do.
-/

namespace BroadcastGraphics

/-! ## Tables of written entries -/

namespace Table

variable {α β : Type}

theorem mapEntries_put
    (change : α -> β)
    (table : Table α)
    (name : String)
    (value : α) :
    mapEntries change (put table name value) = put (mapEntries change table) name (change value) := by
  induction table with
  | nil => rfl
  | cons entry rest ih =>
    obtain ⟨key, old⟩ := entry
    unfold mapEntries at ih ⊢
    by_cases here : key = name
    · simp [put, here]
    · simp [put, here, ih]

theorem mapEntries_remove
    (change : α -> β)
    (table : Table α)
    (name : String) :
    mapEntries change (remove table name) = remove (mapEntries change table) name := by
  induction table with
  | nil => rfl
  | cons entry rest ih =>
    obtain ⟨key, old⟩ := entry
    unfold mapEntries at ih ⊢
    by_cases here : key = name
    · simp [remove, here, ih]
    · simp [remove, here, ih]

end Table

namespace Template

variable {standard : Json.Standard}

/-- The content of a template meets the standard. -/
structure Meets (standard : Json.Standard) (template : Template) : Prop where
  manifest : template.manifest.Meets standard
  elements : ∀ element ∈ template.elements, element.Meets standard
  animation : ∀ settings ∈ template.animation, settings.Meets standard

/-- The values that a call gives meet the standard. -/
def Call.Meets (standard : Json.Standard) : Call -> Prop
  | .addElement spec => spec.Meets standard
  | .addValidElement spec => spec.Meets standard
  | .updateElement _ updates => updates.Meets standard
  | .updateStyle _ style => style.Meets standard
  | .addProperty name kind title default =>
      standard.text name ∧ kind.Meets standard ∧ title.Meets standard ∧ default.Meets standard
  | .updateManifest updates => updates.Meets standard
  | .updateAnimation updates => updates.Meets standard
  | _ => True

/-- The starting values of elements meet every standard. -/
theorem meetsValues_startingMembers
    (closed : standard.Closed)
    (kind : ElementKind) : Json.MeetsValues standard kind.startingMembers := by
  have plain := fun text (isPlain : Json.IsPlain text) => closed.plain text isPlain
  have small := fun value (near : Int.natAbs value ≤ 1000) => closed.small value near
  have style : ∀ style : Table String, Table.Distinct style ->
      (∀ entry ∈ style, Json.IsPlain entry.1 ∧ Json.IsPlain entry.2) ->
      Json.Meets standard (.obj (Table.mapEntries Json.str style)) := by
    intro style distinct each
    refine Json.meets_obj ?_ fun member isThere => ?_
    · unfold Table.Distinct Table.names Table.mapEntries
      rw [List.map_map]
      exact distinct
    · obtain ⟨entry, isEntry, rfl⟩ := List.mem_map.1 isThere
      exact ⟨plain _ (each entry isEntry).1, (Json.meets_str _).2 (plain _ (each entry isEntry).2)⟩
  intro member isThere
  have values : member.2 ∈ [Json.str kind.name, .int 100, .int 200, .int 50] ∨
      member.2 = .str kind.startingContent.1 ∨
      member.2 = .obj (Table.mapEntries Json.str kind.startingContent.2) := by
    revert member
    cases kind <;> simp [ElementKind.startingMembers]
  rcases values with scalar | content | isStyle
  · simp only [List.mem_cons, List.not_mem_nil, or_false] at scalar
    rcases scalar with named | number | number | number
    · rw [named, Json.meets_str]
      exact plain _ (by cases kind <;> decide)
    all_goals
      rw [number, Json.meets_int]
      exact small _ (by decide)
  · rw [content, Json.meets_str]
    exact plain _ (by cases kind <;> decide)
  · rw [isStyle]
    refine style _ ?_ (by cases kind <;> decide)
    unfold Table.Distinct
    cases kind <;> decide

/-- The id with a number is a text of ASCII. -/
theorem isPlain_numberedId
    (number : Nat) : Json.IsPlain (numberedId number) := by
  have shape : (numberedId number).toList = "element_".toList ++ decimalDigits number := by
    unfold numberedId
    rw [String.toList_append]
    exact congrArg _ String.toList_ofList
  intro character member
  rw [shape] at member
  rcases List.mem_append.1 member with stem | digit
  · exact (by decide : Json.IsPlain "element_") character stem
  · have within := (digit_of_mem_decimalDigits digit).2
    exact Nat.lt_of_le_of_lt (show character.toNat ≤ '9'.toNat from within) (by decide)

/-- A style with some properties written over it. -/
theorem meets_mergedStyle
    {style updates : Table Json}
    (meets : Json.Meets standard (.obj style))
    (meetsUpdates : ∀ update ∈ updates, standard.text update.1 ∧ update.2.Meets standard) :
    Json.Meets standard (.obj (mergedStyle style updates)) := by
  unfold mergedStyle
  induction updates generalizing style with
  | nil => exact meets
  | cons update rest ih =>
    obtain ⟨name, value⟩ := update
    have here := meetsUpdates (name, value) List.mem_cons_self
    refine ih ?_ fun member later => meetsUpdates member (List.mem_cons_of_mem _ later)
    dsimp only
    split
    · exact meets.remove name
    · exact meets.put here.1 here.2

theorem Meets.effectiveAnimation
    {template : Template}
    (closed : standard.Closed)
    (meets : template.Meets standard) : template.effectiveAnimation.Meets standard := by
  unfold Template.effectiveAnimation
  cases given : template.animation with
  | none => exact AnimationSettings.meets_standard closed.toBasic
  | some settings => exact meets.animation settings given

theorem mem_of_element?
    {template : Template}
    {id : String}
    {element : Element}
    (present : template.element? id = some element) : element ∈ template.elements :=
  List.mem_of_find?_eq_some present

/-- What a new element is made from: a free id, and the given values over the starting ones. -/
theorem meetsValues_numbered
    (closed : standard.Closed)
    (number : Nat)
    (kind : ElementKind)
    {spec : Table Json}
    (meets : Json.MeetsValues standard spec) :
    Json.MeetsValues standard (("id", .str (numberedId number)) ::
      Table.merge kind.startingMembers (Table.remove spec "id")) := by
  have given : Json.MeetsValues standard (Table.remove spec "id") :=
    fun member isThere => meets member (Table.mem_of_mem_remove isThere)
  have rest := (meetsValues_startingMembers closed kind).merge given
  intro member isThere
  rcases List.mem_cons.1 isThere with rfl | later
  · exact (Json.meets_str _).2 (closed.plain _ (isPlain_numberedId _))
  · exact rest member later

/-- What a change of the style alone updates. -/
theorem meets_styleUpdate
    (closed : standard.Closed)
    {style : Json}
    (meets : style.Meets standard) : Json.Meets standard (.obj [("style", style)]) := by
  refine Json.meets_plainMembers closed.toBasic (List.nodup_singleton _) ?_
    fun member isThere => List.mem_singleton.1 isThere ▸ meets
  simp only [Table.names_cons, Table.names_nil]
  decide

/-- What a new property is made from. -/
theorem meets_propertyMembers
    (closed : standard.Closed)
    {name : String}
    {kind title default : Json}
    (nameMeets : standard.text name)
    (kindMeets : kind.Meets standard)
    (titleMeets : title.Meets standard)
    (defaultMeets : default.Meets standard) :
    Json.Meets standard (.obj [("type", kind),
      ("title", if title.isTruthy then title else .str name), ("default", default)]) := by
  have shown : (if title.isTruthy then title else .str name).Meets standard := by
    split
    · exact titleMeets
    · exact (Json.meets_str name).2 nameMeets
  refine Json.meets_plainMembers closed.toBasic (by simp [Table.Distinct]) ?_
    (by simp [Json.MeetsValues, kindMeets, shown, defaultMeets])
  simp only [Table.names_cons, Table.names_nil]
  decide

/-- A template keeps a standard with other properties that meet it. -/
theorem Meets.withProperties
    {template : Template}
    (meets : template.Meets standard)
    {properties : Table SchemaProperty}
    (meetsProperties : Json.Meets standard
      (.obj (Table.mapEntries (fun property => .obj property.members) properties))) :
    Meets standard { template.withProperties properties with component := none } where
  manifest :=
    have schema := meets.manifest.schema
    ⟨meets.manifest.texts, meets.manifest.steps,
      ⟨schema.kind, meetsProperties, schema.extras, schema.apart⟩, meets.manifest.actions,
      meets.manifest.extras⟩
  elements := meets.elements
  animation := meets.animation

/-- A call that is carried out keeps the standard that the values it gives meet. -/
theorem Revision.meets
    {before after : Template}
    {request : Call}
    (closed : standard.Closed)
    (revision : Revision before request after)
    (meets : before.Meets standard)
    (meetsRequest : request.Meets standard) : after.Meets standard := by
  induction revision with
  | @add spec kind element read =>
    have values := meetsValues_numbered closed before.freeNumber kind meetsRequest.values
    refine ⟨meets.manifest, fun other member => ?_, meets.animation⟩
    rcases List.mem_append.1 member with old | new
    · exact meets.elements other old
    · rw [List.mem_singleton.1 new]
      exact Element.meets_of_ofMembers closed values read
  | @addValid spec element _ valid _ ih =>
    refine ih ?_
    obtain ⟨members, rfl, read⟩ := (Check.record_accepted_iff _ _ _ _).1 valid
    exact (Element.meets_of_ofMembers closed meetsRequest.values read).members closed.toBasic
  | remove =>
    exact ⟨meets.manifest, fun element member => meets.elements element (List.mem_filter.1 member).1,
      meets.animation⟩
  | update present members _ read _ =>
    have values := Json.meetsValues_of_toMembers closed meetsRequest members
    have current := (meets.elements _ (mem_of_element? present)).members closed.toBasic
    refine ⟨meets.manifest, fun element member => ?_, meets.animation⟩
    rcases mem_replaceElement member with rfl | old
    · exact Element.meets_of_ofMembers closed (current.values.merge values) read
    · exact meets.elements element old
  | @restyle id style current after present _ ih =>
    refine ih ?_
    have merged := meets_mergedStyle (meets.elements _ (mem_of_element? present)).style
      meetsRequest.each
    exact meets_styleUpdate closed merged
  | putProperty read =>
    obtain ⟨nameMeets, kindMeets, titleMeets, defaultMeets⟩ := meetsRequest
    have members := meets_propertyMembers closed nameMeets kindMeets titleMeets defaultMeets
    have property := SchemaProperty.meets_of_ofMembers closed members read
    refine meets.withProperties ?_
    rw [Table.mapEntries_put]
    exact meets.manifest.schema.properties.put nameMeets property
  | removeProperty =>
    refine meets.withProperties ?_
    rw [Table.mapEntries_remove]
    exact meets.manifest.schema.properties.remove _
  | describe read =>
    exact ⟨meets.manifest.edited closed meetsRequest read, meets.elements, meets.animation⟩
  | animate read =>
    refine ⟨meets.manifest, meets.elements, fun settings same => ?_⟩
    cases same
    exact (meets.effectiveAnimation closed).edited closed meetsRequest read

/-- Templates with one content both meet a standard or neither does. -/
theorem SameContent.meets
    {before after : Template}
    (same : SameContent before after)
    (meets : before.Meets standard) : after.Meets standard := by
  cases before
  cases after
  obtain ⟨rfl, rfl, rfl⟩ := same
  exact ⟨meets.manifest, meets.elements, meets.animation⟩

/-- Whatever is called with values of a standard, the template keeps it. -/
theorem Meets.run
    {template : Template}
    (closed : standard.Closed)
    (meets : template.Meets standard)
    {request : Call}
    (meetsRequest : request.Meets standard) : (template.run request).template.Meets standard := by
  rcases template.run_carries request with ⟨_, same⟩ | ⟨_, _, revision⟩
  · exact same.meets meets
  · exact revision.meets closed meets meetsRequest

end Template
end BroadcastGraphics
