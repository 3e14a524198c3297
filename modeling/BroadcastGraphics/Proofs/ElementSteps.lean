import BroadcastGraphics.Proofs.ElementNames
import BroadcastGraphics.Proofs.ReachedTemplate
import BroadcastGraphics.Proofs.ValueForm

/-!
# Elements that are edited in two steps

An edit of an element can come in two steps: its fields are written first, and then properties are
written over those of its style.  The first step leaves the style alone and the second one all the
rest, so both together store what was asked for, in the place of the element that was there.
-/

namespace BroadcastGraphics

open Checked

/-- What is accepted under a name with a default is what its member is checked as, if it is there. -/
theorem Field.accepted_of_withDefault_plain
    {α : Type}
    {name : String}
    {members : Table Json}
    {value : Json}
    {check : Json -> Checked α}
    {default result : α}
    (present : Table.get? members name = some value)
    (accepted : (Field.plain name).withDefault default check members = .accepted result) :
    check value = .accepted result := by
  unfold withDefault at accepted
  rw [find?_plain, present] at accepted
  exact (under_accepted_iff _ _ _).1 accepted

/-- What is read from the written form of a number is written in the same form. -/
theorem Binary64.plainJson_of_finiteNumber
    {number read : Binary64}
    (accepted : Check.finiteNumber number.plainJson = .accepted read) :
    read.plainJson = number.plainJson := by
  cases number with
  | finite sign rank =>
    rw [finiteNumber_plainJson rfl] at accepted
    rw [← Checked.accepted.inj accepted, plainJson_withoutZeroSign]
  | infinite sign => cases accepted
  | nan => cases accepted

/-- Numbers that are equal by value in their written forms have one written form. -/
theorem Binary64.plainJson_eq_of_sameScalar
    {left right : Binary64}
    (same : Json.sameValue left.plainJson right.plainJson = true) :
    left.plainJson = right.plainJson := by
  have settled (number : Binary64) : number.plainJson.byValue = number.plainJson := by
    unfold plainJson
    cases whole : number.whole? with
    | some value => rfl
    | none =>
      change number.plainJson = _
      unfold plainJson
      rw [whole]
  have meets : left.plainJson.Meets .any := meets_plainJson Json.Standard.closed_any.toBasic left
  rw [← settled left, ← settled right, Json.byValue_eq_of_sameValue _ _ meets same]

/-- Tables with the same entries are read in the same way if their names are distinct. -/
theorem Table.get?_eq_of_perm
    {α : Type}
    {left right : Table α}
    (distinct : Distinct left)
    (perm : left.Perm right)
    (name : String) : get? left name = get? right name := by
  have distinctRight : Distinct right := (perm.map Prod.fst).nodup_iff.1 distinct
  cases found : get? left name with
  | some value => exact (get?_of_mem distinctRight (perm.mem_iff.1 (mem_of_get? found))).symm
  | none =>
    have absent := (get?_eq_none_iff left name).1 found
    refine ((get?_eq_none_iff right name).2 fun member => absent ?_).symm
    exact (perm.map Prod.fst).mem_iff.2 member

/-! ## The fields of an element and its style -/

namespace Element

/-- The members of an element other than its style. -/
def fields (element : Element) : Table Json :=
  Table.remove element.members "style"

theorem fields_eq
    (element : Element) :
    element.fields =
      [("id", .str element.id), ("type", .str element.kind.name), ("x", element.x.plainJson),
        ("y", element.y.plainJson), ("width", element.width.plainJson),
        ("height", element.height.plainJson), ("content", Json.ofText? element.content)] := by
  simp [fields, members, Table.remove]

theorem id_eq_of_fields_eq
    {left right : Element}
    (same : left.fields = right.fields) : left.id = right.id := by
  rw [fields_eq, fields_eq] at same
  exact Json.str.inj (Prod.mk.inj (List.cons.inj same).1).2

/-- Elements of one value have the same fields. -/
theorem fields_eq_of_sameValue
    {left right : Element}
    (same : left.sameValue right = true) : left.fields = right.fields := by
  simp only [sameValue, members, Json.sameValue, Json.sameMembers, Table.get?, Bool.and_eq_true,
    Json.sameScalar, beq_iff_eq, reduceIte, String.reduceEq] at same
  obtain ⟨_, id, kind, x, y, width, height, content, _⟩ := same
  have sameContent : Json.ofText? left.content = Json.ofText? right.content := by
    cases isLeft : left.content <;> cases isRight : right.content <;>
      simp_all [Json.ofText?, Json.sameValue, Json.sameScalar]
  rw [fields_eq, fields_eq, id, kind, Binary64.plainJson_eq_of_sameScalar x,
    Binary64.plainJson_eq_of_sameScalar y, Binary64.plainJson_eq_of_sameScalar width,
    Binary64.plainJson_eq_of_sameScalar height, sameContent]

/-- Elements of one value have the same style properties. -/
theorem get?_style_of_sameValue
    {left right : Element}
    (distinct : Table.Distinct left.style)
    (same : left.sameValue right = true)
    (name : String) : Table.get? left.style name = Table.get? right.style name := by
  have styles : Json.sameValue left.styleJson right.styleJson = true := by
    simp only [sameValue, members, Json.sameValue, Json.sameMembers, Table.get?, Bool.and_eq_true,
      reduceIte, String.reduceEq] at same
    exact same.2.2.2.2.2.2.2.2.1
  rw [styleJson, styleJson, Json.sameValue, Bool.and_eq_true, beq_iff_eq] at styles
  have kept (style : Table String) : Table.mapEntries (fun text => text) style = style :=
    List.map_id style
  have perm : left.style.Perm right.style := by
    rw [← kept left.style, ← kept right.style]
    refine Table.perm_mapEntries distinct (by simpa [Table.mapEntries] using styles.1) ?_
    intro entry isThere
    obtain ⟨other, found, equal⟩ := Json.exists_same_of_sameMembers styles.2
      (entry.1, .str entry.2) (List.mem_map_of_mem isThere)
    rw [Table.get?_mapEntries] at found
    obtain ⟨text, isText, rfl⟩ := Option.map_eq_some_iff.1 found
    exact ⟨text, isText, beq_iff_eq.1 equal⟩
  exact Table.get?_eq_of_perm distinct perm name

/-- Elements with the same fields and style have one value. -/
theorem sameValue_of_fields_eq
    {left right : Element}
    (distinct : Table.Distinct left.style)
    (sameFields : left.fields = right.fields)
    (sameStyle : left.style = right.style) : left.sameValue right = true := by
  have split (element : Element) :
      element.members = element.fields ++ [("style", element.styleJson)] := by
    rw [fields_eq]
    rfl
  unfold sameValue
  rw [split right, ← sameFields, styleJson, ← sameStyle, ← styleJson, ← split left]
  exact Json.sameValue_self _
    ((Template.element_meets_any distinct).members Json.Standard.closed_any.toBasic)

/-- The written form of an element tells its fields and its style. -/
theorem eq_of_toJson_eq
    {left right : Element}
    (same : left.toJson = right.toJson) :
    left.fields = right.fields ∧ left.style = right.style := by
  have written := Json.obj.inj same
  rw [presentMembers_members, presentMembers_members, ← List.append_assoc,
    ← List.append_assoc] at written
  obtain ⟨others, style⟩ := List.append_inj' written rfl
  have sameStyle : left.styleJson = right.styleJson :=
    (Prod.mk.inj (List.singleton_inj.1 style)).2
  have sameFields : left.fields = right.fields := by
    rw [fields_eq, fields_eq]
    unfold placing at others
    cases isLeft : left.content <;> cases isRight : right.content <;>
      simp_all [Json.ofText?]
  have checked := checkStyle_styleJson left
  rw [sameStyle, checkStyle_styleJson] at checked
  exact ⟨sameFields, (Checked.accepted.inj checked).symm⟩

/-! ## Reading the fields, and reading the style -/

/-- The style stays when members other than it are written. -/
theorem style_of_ofMembers
    {current asked : Element}
    {updates : Table Json}
    (absent : "style" ∉ Table.names updates)
    (read : ofMembers (Table.merge current.members updates) = .accepted asked) :
    asked.style = current.style := by
  obtain ⟨_, _, _, _, _, _, _, style⟩ := (ofMembers_accepted_iff _ _).1 read
  have present : Table.get? (Table.merge current.members updates) "style" =
      some current.styleJson := by
    rw [Table.get?_merge_of_notMem absent]
    rfl
  have checked := Field.accepted_of_withDefault_plain present style
  rw [checkStyle_styleJson] at checked
  exact (Checked.accepted.inj checked).symm

theorem merge_style
    (element : Element)
    (value : Json) :
    Table.merge element.members [("style", value)] = element.fields ++ [("style", value)] := by
  rw [fields_eq]
  simp [Table.merge, members, Table.put]

/-- The fields stay when a style is written. -/
theorem fields_of_restyled
    {element styled : Element}
    {value : Json}
    (read : ofMembers (Table.merge element.members [("style", value)]) = .accepted styled) :
    styled.fields = element.fields ∧ checkStyle value = .accepted styled.style := by
  rw [merge_style, fields_eq] at read
  obtain ⟨id, kind, x, y, width, height, content, style⟩ := (ofMembers_accepted_iff _ _).1 read
  obtain ⟨_, foundId, id⟩ := (Field.required_plain_accepted_iff _ _ _ _).1 id
  obtain ⟨_, foundKind, kind⟩ := (Field.required_plain_accepted_iff _ _ _ _).1 kind
  cases foundId
  cases foundKind
  rw [choice_kind] at kind
  have number {name : String} {number default read : Binary64} {members : Table Json}
      (present : Table.get? members name = some number.plainJson)
      (accepted : (Field.plain name).withDefault default Check.finiteNumber members =
        .accepted read) : read.plainJson = number.plainJson :=
    Binary64.plainJson_of_finiteNumber (Field.accepted_of_withDefault_plain present accepted)
  have content : styled.content = element.content := by
    have checked := Field.accepted_of_withDefault_plain rfl content
    cases isContent : element.content with
    | none =>
      rw [isContent] at checked
      exact (Checked.accepted.inj checked).symm
    | some text =>
      rw [isContent] at checked
      exact (Checked.accepted.inj checked).symm
  refine ⟨?_, Field.accepted_of_withDefault_plain rfl style⟩
  rw [fields_eq, fields_eq, ← Json.str.inj (eq_str_of_checkId id), ← Checked.accepted.inj kind,
    number rfl x, number rfl y, number rfl width, number rfl height, content]

/-- A valid element is read with any style that can be one. -/
theorem exists_restyled
    {element : Element}
    (valid : element.Valid)
    (properties : Table Json) :
    ∃ styled, ofMembers (Table.merge element.members [("style", .obj properties)]) =
      .accepted styled := by
  rw [merge_style, fields_eq]
  have content : (Field.plain "content").withDefault none (Check.optional Check.text)
      [("content", Json.ofText? element.content), ("style", .obj properties)] =
        .accepted element.content := by
    refine Field.withDefault_found (Field.find?_written rfl) ?_
    cases element.content <;> rfl
  exact ⟨_, ofMembers_placing valid content (Field.withDefault_found (Field.find?_written rfl) rfl)⟩

end Element

/-! ## Style properties that are written over others -/

namespace Template

section MergedStyle

variable {style updates : Table Json}

theorem get?_mergedStyle
    (distinct : Table.Distinct updates)
    (style : Table Json)
    (name : String) :
    Table.get? (mergedStyle style updates) name =
      match Table.get? updates name with
      | some value => if value.isNull then none else some value
      | none => Table.get? style name := by
  unfold mergedStyle
  induction updates generalizing style with
  | nil => rfl
  | cons update rest ih =>
    obtain ⟨key, value⟩ := update
    obtain ⟨first, others⟩ := List.nodup_cons.1 distinct
    rw [List.foldl_cons, ih others, Table.get?]
    by_cases here : key = name
    · subst here
      rw [(Table.get?_eq_none_iff rest key).2 first, if_pos rfl]
      cases nothing : value.isNull <;> simp [nothing, Table.get?_remove, Table.get?_put]
    · rw [if_neg here]
      cases nothing : value.isNull <;> simp [nothing, Table.get?_remove, Table.get?_put, here]

theorem distinct_mergedStyle
    (distinct : Table.Distinct style) : Table.Distinct (mergedStyle style updates) := by
  unfold mergedStyle
  induction updates generalizing style with
  | nil => exact distinct
  | cons update rest ih =>
    obtain ⟨name, value⟩ := update
    refine ih ?_
    dsimp only
    split
    · exact distinct.remove name
    · exact distinct.put name value

/-- No property of a merged style is without a value. -/
theorem presentMembers_mergedStyle
    (present : ∀ member ∈ style, member.2.isNull = false) :
    Json.presentMembers (mergedStyle style updates) = mergedStyle style updates := by
  suffices kept : ∀ member ∈ mergedStyle style updates, member.2.isNull = false by
    exact List.filter_eq_self.2 fun member isThere => by rw [kept member isThere]; rfl
  unfold mergedStyle
  induction updates generalizing style with
  | nil => exact present
  | cons update rest ih =>
    obtain ⟨name, value⟩ := update
    refine ih ?_
    dsimp only
    split
    · exact fun member isThere => present member (Table.mem_of_mem_remove isThere)
    · rename_i notNull
      intro member isThere
      rcases Table.mem_put isThere with new | old
      · exact new ▸ Bool.eq_false_of_not_eq_true notNull
      · exact present member old

end MergedStyle

/-- The value of a style property after some have been written over it. -/
def propertyAfter (style : Table String) (updates : Table Json) (name : String) : Option String :=
  match Table.get? updates name with
  | some value => if value.isNull then none else some value.display
  | none => Table.get? style name

/-- A style is read with the properties written over it. -/
theorem get?_of_checkStyle_mergedStyle
    {style merged : Table String}
    {updates : Table Json}
    (distinct : Table.Distinct updates)
    (read : Element.checkStyle
      (.obj (mergedStyle (Table.mapEntries Json.str style) updates)) = .accepted merged)
    (name : String) : Table.get? merged name = propertyAfter style updates name := by
  have present : ∀ member ∈ Table.mapEntries Json.str style, member.2.isNull = false := by
    intro member isThere
    obtain ⟨_, _, rfl⟩ := List.mem_map.1 isThere
    rfl
  rw [← Checked.accepted.inj read, presentMembers_mergedStyle present, Table.get?_mapEntries,
    get?_mergedStyle distinct, Table.get?_mapEntries, propertyAfter]
  cases Table.get? updates name with
  | none => cases Table.get? style name <;> rfl
  | some value => cases nothing : value.isNull <;> simp [nothing]

theorem distinct_of_checkStyle_mergedStyle
    {style merged : Table String}
    {updates : Table Json}
    (distinct : Table.Distinct style)
    (read : Element.checkStyle
      (.obj (mergedStyle (Table.mapEntries Json.str style) updates)) = .accepted merged) :
    Table.Distinct merged := by
  have written : Table.Distinct (Table.mapEntries Json.str style) := by
    unfold Table.Distinct
    rw [Table.names_mapEntries]
    exact distinct
  have kept : Table.Distinct (Json.presentMembers
      (mergedStyle (Table.mapEntries Json.str style) updates)) :=
    (distinct_mergedStyle written).sublist (List.filter_sublist.map Prod.fst)
  rw [← Checked.accepted.inj read, Table.Distinct, Table.names_mapEntries]
  exact kept

/-! ## One element in the place of another -/

variable {template before between after : Template} {current middle stored asked : Element}

/-- An element has come in the place of another one, which was the first with its id; the rest of the
content is as it was. -/
structure Replaces (current stored : Element) (before after : Template) : Prop where
  manifest : after.manifest = before.manifest
  animation : after.animation = before.animation
  elements : ∃ front back, before.elements = front ++ current :: back ∧
    after.elements = front ++ stored :: back ∧
    current.id ∉ front.map Element.id ∧ stored.id ∉ front.map Element.id

theorem exists_place
    {id : String}
    (present : template.element? id = some current) :
    ∃ front back, template.elements = front ++ current :: back ∧
      id ∉ front.map Element.id := by
  obtain ⟨_, front, back, split, others⟩ := List.find?_eq_some_iff_append.1 present
  refine ⟨front, back, split, fun member => ?_⟩
  obtain ⟨element, isThere, same⟩ := List.mem_map.1 member
  have differs := others element isThere
  simp [same] at differs

theorem replaceElement_of_place
    {front back : List Element}
    (absent : current.id ∉ front.map Element.id)
    (replacement : Element) :
    replaceElement current.id replacement (front ++ current :: back) =
      front ++ replacement :: back := by
  induction front with
  | nil => rw [List.nil_append, replaceElement, if_pos (beq_self_eq_true _), List.nil_append]
  | cons first rest ih =>
    rw [List.map_cons, List.mem_cons, not_or] at absent
    have elsewhere : ¬(first.id == current.id) = true := fun same =>
      absent.1 (beq_iff_eq.1 same).symm
    rw [List.cons_append, replaceElement, if_neg elsewhere, ih absent.2, List.cons_append]

theorem element?_of_place
    {front back : List Element}
    (split : template.elements = front ++ current :: back)
    (absent : current.id ∉ front.map Element.id) :
    template.element? current.id = some current := by
  refine List.find?_eq_some_iff_append.2 ⟨beq_self_eq_true _, front, back, split, ?_⟩
  intro element isThere
  rw [Bool.not_eq_true', beq_eq_false_iff_ne]
  exact fun same => absent (same ▸ List.mem_map_of_mem isThere)

theorem replaces_self
    {id : String}
    (present : template.element? id = some current) : Replaces current current template template := by
  obtain ⟨front, back, split, absent⟩ := exists_place present
  rw [← id_of_element? present] at absent
  exact ⟨rfl, rfl, front, back, split, split, absent, absent⟩

theorem Replaces.element?_after
    (replaces : Replaces current stored before after) :
    after.element? stored.id = some stored := by
  obtain ⟨front, back, _, split, _, absent⟩ := replaces.elements
  exact element?_of_place split absent

/-- An element that has come in a place gives way to one with its id. -/
theorem Replaces.trans
    (first : Replaces current middle before between)
    (second : Replaces middle stored between after)
    (sameId : stored.id = middle.id) : Replaces current stored before after := by
  obtain ⟨front, back, splitBefore, split, absentBefore, absent⟩ := first.elements
  obtain ⟨otherFront, otherBack, otherSplit, splitAfter, otherAbsent, _⟩ := second.elements
  refine ⟨second.manifest.trans first.manifest, second.animation.trans first.animation,
    front, back, splitBefore, ?_, absentBefore, sameId ▸ absent⟩
  rw [splitAfter, ← replaceElement_of_place otherAbsent stored, ← otherSplit, split,
    replaceElement_of_place absent]

/-- If both templates are written in one form, so are the two elements. -/
theorem Replaces.toJson_eq
    (replaces : Replaces current stored before after)
    (same : after.toJson = before.toJson) : stored.toJson = current.toJson := by
  obtain ⟨front, back, splitBefore, splitAfter, _, _⟩ := replaces.elements
  simp only [toJson, snapshot, Snapshot.toJson, Snapshot.members, Json.obj.injEq, List.cons.injEq,
    Prod.mk.injEq, true_and, Json.arr.injEq, splitBefore, splitAfter, List.map_append,
    List.map_cons, List.append_cancel_left_eq] at same
  exact same.2.1.1

/-! ## The two steps -/

/-- What an edit of an element does with it: what is read comes in its place, unless that has the
value of what is there. -/
structure Stores (before : Template) (updates : Table Json) (edit : Edit Bool)
    (current asked stored : Element) : Prop where
  read : Element.ofMembers (Table.merge current.members updates) = .accepted asked
  replaces : Replaces current stored before edit.template
  either : (edit.announced = false ∧ edit.template = before ∧ stored = current ∧
      asked.sameValue current = true) ∨
    (edit.announced = true ∧ stored = asked ∧ asked.sameValue current = false)

theorem Stores.fields_eq
    {updates : Table Json}
    {edit : Edit Bool}
    (stores : Stores before updates edit current asked stored) : stored.fields = asked.fields := by
  rcases stores.either with ⟨_, _, rfl, same⟩ | ⟨_, rfl, _⟩
  · exact (Element.fields_eq_of_sameValue same).symm
  · rfl

/-- An edit that is carried out on an element answers yes and stores what it reads. -/
theorem updateElement_stores
    {id : String}
    {updates : Table Json}
    {answer : Bool}
    (present : template.element? id = some current)
    (done : (template.updateElement id (.obj updates)).outcome = .ok answer) :
    answer = true ∧ ∃ asked stored,
      Stores template updates (template.updateElement id (.obj updates)) current asked stored := by
  unfold updateElement at done ⊢
  simp only [present, Json.toMembers] at done ⊢
  split at done
  · cases done
  rename_i free
  rw [if_neg free]
  split at done
  · cases done
  rename_i asked accepted
  have read := (Checked.orInvalid_eq_ok _ _ _).1 accepted
  split at done
  · rename_i same
    cases done
    refine ⟨rfl, asked, current, read, ?_, ?_⟩
    · rw [if_pos same]
      exact replaces_self present
    · rw [if_pos same]
      exact Or.inl ⟨rfl, rfl, rfl, same⟩
  · rename_i differs
    cases done
    refine ⟨rfl, asked, asked, read, ?_, ?_⟩
    · rw [if_neg differs]
      obtain ⟨front, back, split, absent⟩ := exists_place present
      have sameId := id_of_element? present
      refine ⟨rfl, rfl, front, back, split, ?_, sameId ▸ absent, ?_⟩
      · change replaceElement id asked template.elements = _
        rw [split, ← sameId, replaceElement_of_place (sameId ▸ absent)]
      · intro member
        by_cases kept : asked.id = id
        · exact absent (kept ▸ member)
        · have isThere : (template.element? asked.id).isSome = true := by
            rw [isSome_element?_iff, split, List.map_append]
            exact List.mem_append_left _ member
          refine free ?_
          unfold Json.memberOrNull
          rw [Element.id_of_ofMembers read]
          exact Bool.and_eq_true_iff.2 ⟨bne_iff_ne.2 kept, isThere⟩
    · rw [if_neg differs]
      exact Or.inr ⟨rfl, rfl, Bool.eq_false_of_not_eq_true differs⟩

/-- An edit that is not announced leaves the template as it is, and one that is announced answers
yes. -/
theorem updateElement_quiet_or_done
    (template : Template)
    (id : String)
    (updates : Json) :
    ((template.updateElement id updates).announced = false ∧
        (template.updateElement id updates).template = template) ∨
      (template.updateElement id updates).announced = true ∧
        (template.updateElement id updates).outcome = .ok true := by
  unfold updateElement
  split
  · exact Or.inl ⟨rfl, rfl⟩
  split
  · exact Or.inl ⟨rfl, rfl⟩
  dsimp only
  split
  · exact Or.inl ⟨rfl, rfl⟩
  split
  · exact Or.inl ⟨rfl, rfl⟩
  split
  · exact Or.inl ⟨rfl, rfl⟩
  · exact Or.inr ⟨rfl, rfl⟩

theorem updateStyle_quiet_or_done
    (template : Template)
    (id : String)
    (style : Json) :
    ((template.updateStyle id style).announced = false ∧
        (template.updateStyle id style).template = template) ∨
      (template.updateStyle id style).announced = true ∧
        (template.updateStyle id style).outcome = .ok true := by
  unfold updateStyle
  split
  · exact Or.inl ⟨rfl, rfl⟩
  split
  · exact updateElement_quiet_or_done _ _ _
  · exact Or.inl ⟨rfl, rfl⟩

/-- What a style step does with an element that is there, if the style is an object. -/
theorem updateStyle_of_properties
    {id : String}
    (present : template.element? id = some current)
    (properties : Table Json) :
    template.updateStyle id (.obj properties) = template.updateElement id (.obj [("style",
      .obj (mergedStyle (Table.mapEntries Json.str current.style) properties))]) := by
  unfold updateStyle
  rw [present]

/-- A style that is no object is refused for an element that is there. -/
theorem updateStyle_of_shapeless
    {id : String}
    {style : Json}
    (present : template.element? id = some current)
    (shapeless : ∀ properties, style ≠ .obj properties) :
    template.updateStyle id style = .refused template .noMembers := by
  unfold updateStyle
  rw [present]
  cases style with
  | obj properties => exact absurd rfl (shapeless properties)
  | _ => rfl

/-- A style is written to a valid element. -/
theorem updateElement_style_done
    {id : String}
    (present : template.element? id = some current)
    (valid : current.Valid)
    (properties : Table Json) :
    (template.updateElement id (.obj [("style", .obj properties)])).outcome = .ok true := by
  obtain ⟨styled, read⟩ := Element.exists_restyled valid properties
  have sameId : styled.id = id :=
    (Element.id_eq_of_fields_eq (Element.fields_of_restyled read).1).trans (id_of_element? present)
  have free : template.isTaken id (Json.memberOrNull
      (Table.merge current.members [("style", .obj properties)]) "id") = false := by
    unfold Json.memberOrNull
    rw [Element.id_of_ofMembers read, sameId]
    change (id != id && _) = false
    rw [bne_self_eq_false, Bool.false_and]
  unfold updateElement
  simp only [present, Json.toMembers, free, Bool.false_eq_true, if_false,
    (Checked.orInvalid_eq_ok _ _ _).2 read]
  split <;> rfl

/-- The id under which an element is found after an edit with some members. -/
def targetOf (element : String) (members : Table Json) : String :=
  ((Json.memberOrNull (Table.remove members "style") "id").str?).getD element

/-- The first step: the members other than the style. -/
def editFields (template : Template) (element : String) (members : Table Json) : Edit Bool :=
  template.updateElement element (.obj (Table.remove members "style"))

/-- The second step: the style, if one is given. -/
def editStyle (template : Template) (element : String) (members : Table Json) : Edit Bool :=
  let between := (template.editFields element members).template
  let style := Json.memberOrNull members "style"
  if style.isNull then .quiet between true
  else between.updateStyle (targetOf element members) style

/-- The style properties that are given: those of an object, or none if the style is left open. -/
def GivesStyle (members properties : Table Json) : Prop :=
  Json.memberOrNull members "style" = .obj properties ∨
    Json.memberOrNull members "style" = .null ∧ properties = []

/-- An element holds what an edit with some members asks for.  Its fields are those that are read
from the given members written over those of the element that was there, and its style has the given
properties written over those that were there, without the ones that are given no value. -/
structure Takes (members : Table Json) (current stored : Element) : Prop where
  fields : ∃ asked,
    Element.ofMembers (Table.merge current.members (Table.remove members "style")) =
      .accepted asked ∧ stored.fields = asked.fields
  style : ∃ properties, GivesStyle members properties ∧
    ∀ name, Table.get? stored.style name = propertyAfter current.style properties name

theorem editFields_carries
    (template : Template)
    (element : String)
    (members : Table Json) :
    (template.editFields element members).Carries template
      (.updateElement element (.obj (Table.remove members "style"))) :=
  (template.updateElement_performs _ _).carries

theorem editFields_quiet_or_done
    (template : Template)
    (element : String)
    (members : Table Json) :
    ((template.editFields element members).announced = false ∧
        (template.editFields element members).template = template) ∨
      (template.editFields element members).announced = true ∧
        (template.editFields element members).outcome = .ok true :=
  updateElement_quiet_or_done _ _ _

theorem editStyle_quiet_or_done
    (template : Template)
    (element : String)
    (members : Table Json) :
    ((template.editStyle element members).announced = false ∧
        (template.editStyle element members).template =
          (template.editFields element members).template) ∨
      (template.editStyle element members).announced = true ∧
        (template.editStyle element members).outcome = .ok true := by
  unfold editStyle
  dsimp only
  split
  · exact Or.inl ⟨rfl, rfl⟩
  · exact updateStyle_quiet_or_done _ _ _

section Steps

variable {standard : Json.Standard} {element : String} {members : Table Json}

/-- What the first step of an edit does: it finds its element and leaves the style alone. -/
structure FieldsStored (template : Template) (element : String) (members : Table Json)
    (current asked middle : Element) : Prop where
  stores : Stores template (Table.remove members "style") (template.editFields element members)
    current asked middle
  isThere : current ∈ template.elements
  oldId : current.id = element
  newId : middle.id = targetOf element members
  askedStyle : asked.style = current.style
  style : middle.style = current.style

theorem editFields_stores
    (distinct : Table.Distinct members)
    (found : (template.editFields element members).outcome = .ok true) :
    ∃ current asked middle, FieldsStored template element members current asked middle := by
  obtain ⟨_, current, _, _, present, _⟩ := updateElement_of_found found
  obtain ⟨_, asked, middle, stores⟩ := updateElement_stores present found
  have sameId := id_of_element? present
  have askedStyle := Element.style_of_ofMembers (Table.notMem_names_remove members "style") stores.read
  have askedId : asked.id = targetOf element members :=
    sameId ▸ id_of_ofMembers_merge (distinct.remove "style") stores.read
  refine ⟨current, asked, middle, stores, mem_of_element? present, sameId,
    (Element.id_eq_of_fields_eq stores.fields_eq).trans askedId, askedStyle, ?_⟩
  rcases stores.either with ⟨_, _, rfl, _⟩ | ⟨_, rfl, _⟩
  · rfl
  · exact askedStyle

/-- Where the fields that are stored are those that were there, the first step changed nothing. -/
theorem FieldsStored.quiet_of_fields_eq
    {asked middle : Element}
    (stored : FieldsStored template element members current asked middle)
    (distinct : Table.Distinct current.style)
    (same : middle.fields = current.fields) :
    (template.editFields element members).announced = false ∧ middle = current := by
  rcases stored.stores.either with ⟨quiet, _, unchanged, _⟩ | ⟨_, _, differs⟩
  · exact ⟨quiet, unchanged⟩
  · have equal := Element.sameValue_of_fields_eq (stored.askedStyle ▸ distinct)
      (stored.stores.fields_eq.symm.trans same) stored.askedStyle
    exact nomatch equal.symm.trans differs

/-- If the first step changed something, the template is written in another form afterwards. -/
theorem toJson_editFields_ne
    (distinct : Table.Distinct members)
    (styles : ∀ element ∈ template.elements, Table.Distinct element.style)
    (found : (template.editFields element members).outcome = .ok true)
    (changed : (template.editFields element members).announced = true) :
    (template.editFields element members).template.toJson ≠ template.toJson := by
  intro same
  obtain ⟨current, asked, middle, stored⟩ := editFields_stores distinct found
  have written := stored.stores.replaces.toJson_eq same
  have quiet := (stored.quiet_of_fields_eq (styles current stored.isThere)
    (Element.eq_of_toJson_eq written).1).1
  exact nomatch changed.symm.trans quiet

theorem editStyle_of_open
    (nothing : (Json.memberOrNull members "style").isNull = true) :
    template.editStyle element members =
      .quiet (template.editFields element members).template true := by
  unfold editStyle
  simp only [nothing, if_true]

theorem editStyle_of_given
    (given : (Json.memberOrNull members "style").isNull = false) :
    template.editStyle element members =
      (template.editFields element members).template.updateStyle (targetOf element members)
        (Json.memberOrNull members "style") := by
  unfold editStyle
  simp only [given, Bool.false_eq_true, if_false]

/-- A style that is neither open nor an object is refused, and what the first step left stays. -/
theorem editStyle_of_shapeless
    (distinct : Table.Distinct members)
    (found : (template.editFields element members).outcome = .ok true)
    (given : (Json.memberOrNull members "style").isNull = false)
    (shapeless : ∀ properties, Json.memberOrNull members "style" ≠ .obj properties) :
    template.editStyle element members =
      .refused (template.editFields element members).template .noMembers := by
  obtain ⟨current, asked, middle, stored⟩ := editFields_stores distinct found
  have present := stored.stores.replaces.element?_after
  rw [stored.newId] at present
  rw [editStyle_of_given given]
  exact updateStyle_of_shapeless present shapeless

/-- A style that is an object is never refused after fields have changed. -/
theorem editStyle_of_properties
    (distinct : Table.Distinct members)
    (found : (template.editFields element members).outcome = .ok true)
    (changed : (template.editFields element members).announced = true)
    {properties : Table Json}
    (given : Json.memberOrNull members "style" = .obj properties) :
    (template.editStyle element members).outcome = .ok true := by
  obtain ⟨current, asked, middle, stored⟩ := editFields_stores distinct found
  have present := stored.stores.replaces.element?_after
  rw [stored.newId] at present
  have valid : middle.Valid := by
    rcases stored.stores.either with ⟨quiet, _⟩ | ⟨_, rfl, _⟩
    · exact nomatch changed.symm.trans quiet
    · exact Element.valid_of_ofMembers stored.stores.read
  rw [editStyle_of_given (by rw [given]; rfl), given, updateStyle_of_properties present]
  exact updateElement_style_done present valid _

/-- Both steps together. -/
theorem editStyle_stores
    (meets : Json.Meets standard (.obj members))
    (styles : ∀ element ∈ template.elements, Table.Distinct element.style)
    (found : (template.editFields element members).outcome = .ok true)
    {answer : Bool}
    (styled : (template.editStyle element members).outcome = .ok answer) :
    ∃ current stored, current.id = element ∧ stored.id = targetOf element members ∧
      Replaces current stored template (template.editStyle element members).template ∧
      Takes members current stored ∧
      ((template.editFields element members).announced = true ∨
          (template.editStyle element members).announced = true ->
        (template.editStyle element members).template.toJson ≠ template.toJson) := by
  obtain ⟨current, asked, middle, first⟩ := editFields_stores meets.distinct found
  have distinct := styles current first.isThere
  have present := first.stores.replaces.element?_after
  rw [first.newId] at present
  cases given : Json.memberOrNull members "style" with
  | null =>
    rw [editStyle_of_open (by rw [given]; rfl)]
    refine ⟨current, middle, first.oldId, first.newId, first.stores.replaces, ⟨?_, ?_⟩, ?_⟩
    · exact ⟨asked, first.stores.read, first.stores.fields_eq⟩
    · exact ⟨[], Or.inr ⟨given, rfl⟩, fun name => by rw [first.style]; rfl⟩
    · rintro (changed | changed)
      · exact toJson_editFields_ne meets.distinct styles found changed
      · cases changed
  | obj properties =>
    have step : template.editStyle element members =
        (template.editFields element members).template.updateElement (targetOf element members)
          (.obj [("style",
            .obj (mergedStyle (Table.mapEntries Json.str middle.style) properties))]) := by
      rw [editStyle_of_given (by rw [given]; rfl), given, updateStyle_of_properties present]
    rw [step] at styled ⊢
    obtain ⟨_, styledAsked, stored, second⟩ := updateElement_stores present styled
    obtain ⟨askedFields, askedStyle⟩ := Element.fields_of_restyled second.read
    have fields : stored.fields = middle.fields := second.fields_eq.trans askedFields
    have sameId := Element.id_eq_of_fields_eq fields
    have replaces := first.stores.replaces.trans second.replaces sameId
    have distinctAsked : Table.Distinct styledAsked.style :=
      distinct_of_checkStyle_mergedStyle (first.style ▸ distinct) askedStyle
    have distinctGiven : Table.Distinct properties :=
      (given ▸ meets_memberOrNull meets.values "style").distinct
    refine ⟨current, stored, first.oldId, sameId.trans first.newId, replaces, ⟨?_, ?_⟩, ?_⟩
    · exact ⟨asked, first.stores.read, fields.trans first.stores.fields_eq⟩
    · refine ⟨properties, Or.inl given, fun name => ?_⟩
      rw [← first.style, ← get?_of_checkStyle_mergedStyle distinctGiven askedStyle name]
      rcases second.either with ⟨_, _, rfl, same⟩ | ⟨_, rfl, _⟩
      · exact (Element.get?_style_of_sameValue distinctAsked same name).symm
      · rfl
    · intro changed same
      obtain ⟨sameFields, sameStyle⟩ := Element.eq_of_toJson_eq (replaces.toJson_eq same)
      -- The fields of the first step are still there, so it changed nothing; then neither did the second.
      obtain ⟨quiet, rfl⟩ := first.quiet_of_fields_eq distinct (fields.symm.trans sameFields)
      rcases second.either with ⟨quietToo, _⟩ | ⟨_, rfl, differs⟩
      · rcases changed with changed | changed
        · exact nomatch changed.symm.trans quiet
        · exact nomatch changed.symm.trans quietToo
      · exact nomatch (Element.sameValue_of_fields_eq distinctAsked sameFields sameStyle).symm.trans
          differs
  | _ =>
    rw [editStyle_of_shapeless meets.distinct found (by rw [given]; rfl)
      fun properties same => nomatch given.symm.trans same] at styled
    cases styled

end Steps

end Template
end BroadcastGraphics
