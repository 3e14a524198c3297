import BroadcastGraphics.Proofs.ComponentCache
import BroadcastGraphics.Proofs.WholeTime
import BroadcastGraphics.Proofs.WrittenData
import Mathlib.Data.List.Perm.Subperm

/-!
# Values in one form

Values that are equal by value differ at most in the order of members and in the kinds of numbers.
The form by value settles both: members stand in the order of their names, truth values are zero and
one, and numbers without a fraction are integers.  Values that are equal by value have one form, and
records of one form are written in one form.
-/

namespace BroadcastGraphics

namespace Table

variable {α β : Type}

/-- The entries in the order of their names. -/
def sorted (table : Table α) : Table α :=
  table.mergeSort fun left right => decide (left.1 ≤ right.1)

theorem sorted_perm (table : Table α) : (sorted table).Perm table :=
  List.mergeSort_perm table _

theorem pairwise_sorted (table : Table α) :
    (sorted table).Pairwise fun left right => left.1 ≤ right.1 := by
  refine (List.pairwise_mergeSort ?_ ?_ table).imp of_decide_eq_true
  · intro first second third before after
    exact decide_eq_true (String.le_trans (of_decide_eq_true before) (of_decide_eq_true after))
  · intro first second
    rw [Bool.or_eq_true, decide_eq_true_eq, decide_eq_true_eq]
    exact String.le_total first.1 second.1

theorem sorted_mapEntries
    (change : α -> β)
    (table : Table α) : sorted (mapEntries change table) = mapEntries change (sorted table) := by
  unfold sorted mapEntries
  exact (List.map_mergeSort (f := fun entry : String × α => (entry.1, change entry.2))
    fun _ _ _ _ => rfl).symm

@[simp] theorem names_mapEntries
    (change : α -> β)
    (table : Table α) : names (mapEntries change table) = names table := by
  unfold names mapEntries
  rw [List.map_map]
  rfl

theorem get?_mapEntries
    (change : α -> β)
    (table : Table α)
    (name : String) : get? (mapEntries change table) name = (get? table name).map change := by
  induction table with
  | nil => rfl
  | cons entry rest ih =>
    change (if entry.1 = name then some (change entry.2) else get? (mapEntries change rest) name) =
      (if entry.1 = name then some entry.2 else get? rest name).map change
    rw [ih]
    split <;> rfl

/-- Entries with distinct names are put in one order, however they stood. -/
theorem sorted_eq_of_perm
    {left right : Table α}
    (distinct : Distinct left)
    (perm : left.Perm right) : sorted left = sorted right := by
  have arranged : (sorted left).Perm (sorted right) :=
    (sorted_perm left).trans (perm.trans (sorted_perm right).symm)
  refine arranged.eq_of_pairwise ?_ (pairwise_sorted left) (pairwise_sorted right)
  rintro ⟨name, first⟩ ⟨other, second⟩ isLeft isRight before after
  obtain rfl : name = other := String.le_antisymm before after
  have isFirst := get?_of_mem distinct ((sorted_perm left).mem_iff.1 isLeft)
  have isSecond := get?_of_mem distinct
    (perm.mem_iff.2 ((sorted_perm right).mem_iff.1 isRight))
  rw [Option.some.inj (isFirst.symm.trans isSecond)]

/-- Tables of one length with distinct names have the same entries after a change if each entry of
the first has a partner in the second. -/
theorem perm_mapEntries
    {change : α -> β}
    {left right : Table α}
    (distinct : Distinct left)
    (sameLength : left.length = right.length)
    (partner : ∀ entry ∈ left, ∃ other, get? right entry.1 = some other ∧
      change entry.2 = change other) :
    (mapEntries change left).Perm (mapEntries change right) := by
  have nodup : (mapEntries change left).Nodup := by
    refine List.Nodup.of_map Prod.fst ?_
    have kept := names_mapEntries change left
    unfold names at kept
    rw [kept]
    exact distinct
  have among : mapEntries change left ⊆ mapEntries change right := by
    intro entry member
    obtain ⟨old, isOld, rfl⟩ := List.mem_map.1 member
    obtain ⟨other, found, same⟩ := partner old isOld
    exact List.mem_map.2 ⟨(old.1, other), mem_of_get? found, by rw [same]⟩
  refine (nodup.subperm among).perm_of_length_le ?_
  unfold mapEntries
  rw [List.length_map, List.length_map, sameLength]

end Table

namespace Binary64

/-- Numbers of one value are written in one way. -/
theorem plainJson_eq_of_sameValue
    {left right : Binary64}
    (same : left.sameValue right = true) : left.plainJson = right.plainJson := by
  have beyond : 0 < beyondSteps :=
    Nat.zero_lt_of_lt (magnitudeSteps_lt_beyondSteps ⟨0, finiteMagnitudes_pos⟩)
  unfold sameValue at same
  cases left with
  | nan => cases same
  | infinite sign =>
    cases right with
    | nan => cases same
    | infinite other =>
      have places : (if sign then -(beyondSteps : Int) else beyondSteps) =
          if other then -(beyondSteps : Int) else beyondSteps := beq_iff_eq.1 same
      have signs : sign = other := by
        generalize beyondSteps = bound at places beyond
        cases sign <;> cases other <;> simp only [Bool.false_eq_true, if_true, if_false] at places ⊢
          <;> omega
      rw [signs]
    | finite other rank =>
      have within := magnitudeSteps_lt_beyondSteps rank
      have places : (if sign then -(beyondSteps : Int) else beyondSteps) =
          if other then -(magnitudeSteps rank : Int) else magnitudeSteps rank :=
        beq_iff_eq.1 same
      generalize beyondSteps = bound at places within
      split at places <;> split at places <;> omega
  | finite sign rank =>
    cases right with
    | nan => cases same
    | infinite other =>
      have within := magnitudeSteps_lt_beyondSteps rank
      have places : (if sign then -(magnitudeSteps rank : Int) else magnitudeSteps rank) =
          if other then -(beyondSteps : Int) else beyondSteps := beq_iff_eq.1 same
      generalize beyondSteps = bound at places within
      split at places <;> split at places <;> omega
    | finite other otherRank =>
      have sameSteps : (finite sign rank).steps? = (finite other otherRank).steps? :=
        congrArg some (beq_iff_eq.1 same)
      have sameWhole : (finite sign rank).whole? = (finite other otherRank).whole? := by
        unfold whole?
        rw [sameSteps]
      unfold plainJson
      rw [sameWhole]
      cases fractional : (finite other otherRank).whole? with
      | some whole => rfl
      | none =>
        -- Only zero has both signs, and zero has no fraction.
        have notZero : (finite other otherRank).steps? ≠ some 0 := by
          intro counted
          have isZero : (finite other otherRank).whole? = some 0 :=
            whole?_eq_some_iff.2 (by rw [counted, Int.zero_mul])
          exact nomatch fractional.symm.trans isZero
        simp only [steps?, Option.some.injEq, ne_eq] at sameSteps notZero
        have signs : sign = other := by
          cases sign <;> cases other <;> simp at sameSteps notZero ⊢ <;> omega
        have magnitudes : magnitudeSteps rank = magnitudeSteps otherRank := by
          subst signs
          cases sign <;> simp at sameSteps <;> omega
        rw [signs, Fin.ext (magnitudeSteps_strictMono.injective magnitudes)]

theorem plainJson_of_equalsInt
    {number : Binary64}
    {value : Int}
    (same : number.equalsInt value = true) : number.plainJson = .int value := by
  unfold plainJson
  rw [whole?_eq_some_iff.2 (beq_iff_eq.1 same)]

end Binary64

namespace Json

mutual

/-- The form by value: members in the order of their names, truth values as zero and one, and
numbers without a fraction as integers. -/
def byValue : Json -> Json
  | bool value => int (if value then 1 else 0)
  | float value => value.plainJson
  | arr items => arr (itemsByValue items)
  | obj members => obj (Table.sorted (membersByValue members))
  | value => value

/-- Every item in its form by value. -/
def itemsByValue : List Json -> List Json
  | [] => []
  | item :: rest => byValue item :: itemsByValue rest

/-- Every member with its value in its form by value. -/
def membersByValue : List (String × Json) -> List (String × Json)
  | [] => []
  | (name, value) :: rest => (name, byValue value) :: membersByValue rest

end

@[simp] theorem byValue_bool (value : Bool) :
    byValue (.bool value) = .int (if value then 1 else 0) := rfl

@[simp] theorem byValue_int (value : Int) : byValue (.int value) = .int value := rfl

@[simp] theorem byValue_float (value : Binary64) : byValue (.float value) = value.plainJson := rfl

@[simp] theorem byValue_str (value : String) : byValue (.str value) = .str value := rfl

@[simp] theorem byValue_arr (items : List Json) :
    byValue (.arr items) = .arr (itemsByValue items) := by
  rw [byValue]

theorem itemsByValue_eq_map (items : List Json) : itemsByValue items = items.map byValue := by
  induction items with
  | nil => rfl
  | cons item rest ih => rw [itemsByValue, ih, List.map_cons]

theorem membersByValue_eq_mapEntries
    (members : Table Json) : membersByValue members = Table.mapEntries byValue members := by
  induction members with
  | nil => rfl
  | cons member rest ih =>
    obtain ⟨name, value⟩ := member
    rw [membersByValue, ih]
    rfl

/-! ## Equality by value -/

theorem byValue_eq_of_sameScalar
    {left right : Json}
    (same : sameScalar left right = true) : left.byValue = right.byValue := by
  unfold sameScalar at same
  split at same
  · rfl
  · rw [beq_iff_eq.1 same]
  · rw [beq_iff_eq.1 same]
  · rw [byValue_bool, byValue_int, beq_iff_eq.1 same]
  · rw [byValue_bool, byValue_float, Binary64.plainJson_of_equalsInt same]
  · rw [byValue_int, byValue_bool, beq_iff_eq.1 same]
  · rw [beq_iff_eq.1 same]
  · rw [byValue_int, byValue_float, Binary64.plainJson_of_equalsInt same]
  · rw [byValue_float, byValue_bool, Binary64.plainJson_of_equalsInt same]
  · rw [byValue_float, byValue_int, Binary64.plainJson_of_equalsInt same]
  · rw [byValue_float, byValue_float]
    rw [Bool.or_eq_true] at same
    rcases same with identical | equal
    · rw [beq_iff_eq.1 identical]
    · exact Binary64.plainJson_eq_of_sameValue equal
  · cases same

/-- Members of two objects have the same entries in their forms by value. -/
def AlikeMembers (left right : Table Json) : Prop :=
  (Table.mapEntries byValue left).Perm (Table.mapEntries byValue right)

theorem AlikeMembers.cons
    {left right : Table Json}
    {name : String}
    {value other : Json}
    (same : value.byValue = other.byValue)
    (alike : AlikeMembers left right) :
    AlikeMembers ((name, value) :: left) ((name, other) :: right) := by
  unfold AlikeMembers Table.mapEntries
  rw [List.map_cons, List.map_cons, same]
  exact List.Perm.cons _ alike

theorem AlikeMembers.append
    {left right first second : Table Json}
    (alike : AlikeMembers first second)
    (further : AlikeMembers left right) : AlikeMembers (first ++ left) (second ++ right) := by
  unfold AlikeMembers Table.mapEntries
  rw [List.map_append, List.map_append]
  exact List.Perm.append alike further

/-- Values under the same names. -/
theorem AlikeMembers.zip
    (names : List String)
    {left right : List Json}
    (same : itemsByValue left = itemsByValue right) :
    AlikeMembers (names.zip left) (names.zip right) := by
  have zipped (values : List Json) :
      Table.mapEntries byValue (names.zip values) = names.zip (values.map byValue) :=
    List.zip_map_right.symm
  unfold AlikeMembers
  rw [zipped, zipped, ← itemsByValue_eq_map, ← itemsByValue_eq_map, same]

theorem byValue_obj_of_alike
    {left right : Table Json}
    (distinct : Table.Distinct left)
    (alike : AlikeMembers left right) : byValue (.obj left) = byValue (.obj right) := by
  rw [byValue, byValue, membersByValue_eq_mapEntries, membersByValue_eq_mapEntries,
    Table.sorted_eq_of_perm ?_ alike]
  unfold Table.Distinct
  rw [Table.names_mapEntries]
  exact distinct

mutual

/-- Values that are equal by value have one form. -/
theorem byValue_eq_of_sameValue :
    ∀ left right : Json, left.Meets .any -> left.sameValue right = true ->
      left.byValue = right.byValue
  | .arr left, .arr right, meets, same => by
      rw [byValue, byValue, itemsByValue_eq_of_sameItems left right ((meets_arr left).1 meets) same]
  | .obj left, .obj right, meets, same => by
      rw [sameValue, Bool.and_eq_true, beq_iff_eq] at same
      exact byValue_obj_of_alike meets.distinct (Table.perm_mapEntries meets.distinct same.1
        (exists_partner_of_sameMembers left right meets.members same.2))
  | .null, _, _, same | .bool _, _, _, same | .int _, _, _, same | .float _, _, _, same
  | .str _, _, _, same => byValue_eq_of_sameScalar same

theorem itemsByValue_eq_of_sameItems :
    ∀ left right : List Json, MeetsItems .any left -> sameItems left right = true ->
      itemsByValue left = itemsByValue right
  | [], [], _, _ => rfl
  | left :: lefts, right :: rights, meets, same => by
      rw [sameItems, Bool.and_eq_true] at same
      rw [itemsByValue, itemsByValue, byValue_eq_of_sameValue left right meets.1 same.1,
        itemsByValue_eq_of_sameItems lefts rights meets.2 same.2]

theorem exists_partner_of_sameMembers :
    ∀ left right : List (String × Json), MeetsMembers .any left -> sameMembers left right = true ->
      ∀ member ∈ left, ∃ other, Table.get? right member.1 = some other ∧
        member.2.byValue = other.byValue
  | [], _, _, _, _, isThere => nomatch isThere
  | (name, left) :: lefts, rights, meets, same, member, isThere => by
      rw [sameMembers, Bool.and_eq_true] at same
      rcases List.mem_cons.1 isThere with rfl | later
      · have here := same.1
        cases found : Table.get? rights name with
        | none => rw [found] at here; cases here
        | some right =>
          rw [found] at here
          exact ⟨right, rfl, byValue_eq_of_sameValue left right meets.2.1 here⟩
      · exact exists_partner_of_sameMembers lefts rights meets.2.2 same.2 member later

end

theorem alikeMembers_of_sameValue
    {left right : Table Json}
    (meets : Json.Meets .any (.obj left))
    (same : sameValue (.obj left) (.obj right) = true) : AlikeMembers left right := by
  rw [sameValue, Bool.and_eq_true, beq_iff_eq] at same
  exact Table.perm_mapEntries meets.distinct same.1
    (exists_partner_of_sameMembers left right meets.members same.2)

/-! ## Written values -/

theorem isNull_byValue (value : Json) : value.byValue.isNull = value.isNull := by
  cases value with
  | float number =>
    rw [byValue_float]
    unfold Binary64.plainJson
    cases number.whole? <;> rfl
  | _ => rfl

theorem finiteOnly_plainJson
    (number : Binary64) : number.plainJson.finiteOnly = (finiteOnly (.float number)).byValue := by
  rw [finiteOnly]
  cases whole : number.whole? with
  | some value =>
    rw [if_pos (Binary64.isFinite_of_whole? whole), byValue_float]
    unfold Binary64.plainJson
    rw [whole]
    rfl
  | none =>
    have written : number.plainJson = .float number := by
      unfold Binary64.plainJson
      rw [whole]
    rw [written, finiteOnly]
    split
    · rw [byValue_float, written]
    · rfl

mutual

/-- Numbers that are not finite are left out of the form by value as they are of the value. -/
theorem finiteOnly_byValue : ∀ value : Json, value.byValue.finiteOnly = value.finiteOnly.byValue
  | .null | .bool _ | .int _ | .str _ => rfl
  | .float number => finiteOnly_plainJson number
  | .arr items => by
      rw [byValue, finiteOnly, finiteOnly, byValue, finiteItems_itemsByValue items]
  | .obj members => by
      rw [byValue, finiteOnly, finiteOnly, byValue, ← finiteMembers_membersByValue members,
        finiteMembers_eq_map, finiteMembers_eq_map, Table.sorted_mapEntries]

theorem finiteItems_itemsByValue :
    ∀ items : List Json, finiteItems (itemsByValue items) = itemsByValue (finiteItems items)
  | [] => rfl
  | item :: rest => by
      rw [itemsByValue, finiteItems, finiteItems, itemsByValue, finiteOnly_byValue item,
        finiteItems_itemsByValue rest]

theorem finiteMembers_membersByValue :
    ∀ members : List (String × Json),
      finiteMembers (membersByValue members) = membersByValue (finiteMembers members)
  | [] => rfl
  | (name, value) :: rest => by
      rw [membersByValue, finiteMembers, finiteMembers, membersByValue, finiteOnly_byValue value,
        finiteMembers_membersByValue rest]

end

theorem mapEntries_byValue_presentMembers
    (members : Table Json) :
    Table.mapEntries byValue (presentMembers members) =
      presentMembers (Table.mapEntries byValue members) := by
  unfold presentMembers Table.mapEntries
  rw [List.filter_map]
  refine congrArg _ (List.filter_congr fun member _ => ?_)
  exact congrArg _ (isNull_byValue member.2).symm

theorem mapEntries_byValue_finiteMembers
    (members : Table Json) :
    Table.mapEntries byValue (finiteMembers members) =
      finiteMembers (Table.mapEntries byValue members) := by
  rw [← membersByValue_eq_mapEntries, ← membersByValue_eq_mapEntries,
    finiteMembers_membersByValue]

/-- Members with the same entries by value have the same ones that are not nothing. -/
theorem AlikeMembers.present
    {left right : Table Json}
    (alike : AlikeMembers left right) :
    AlikeMembers (presentMembers left) (presentMembers right) := by
  unfold AlikeMembers
  rw [mapEntries_byValue_presentMembers, mapEntries_byValue_presentMembers]
  exact alike.filter _

/-- Members with the same entries by value are written with the same entries by value. -/
theorem AlikeMembers.settled
    {left right : Table Json}
    (alike : AlikeMembers left right) :
    AlikeMembers (settledMembers left) (settledMembers right) := by
  unfold AlikeMembers settledMembers
  rw [mapEntries_byValue_finiteMembers, mapEntries_byValue_finiteMembers, finiteMembers_eq_map,
    finiteMembers_eq_map]
  exact alike.present.map _

theorem byValue_settled_of_sameValue
    {left right : Table Json}
    (meets : Json.Meets .any (.obj left))
    (same : sameValue (.obj left) (.obj right) = true) :
    byValue (.obj (settledMembers left)) = byValue (.obj (settledMembers right)) :=
  byValue_obj_of_alike meets.settled.distinct (alikeMembers_of_sameValue meets same).settled

end Json

/-! ## Written records -/

open Json (Standard AlikeMembers)

/-- Elements of one value are written in one form. -/
theorem Element.byValue_toJson_of_sameValue
    {left right : Element}
    (meets : left.Meets .any)
    (same : left.sameValue right = true) : left.toJson.byValue = right.toJson.byValue := by
  have whole := meets.members Standard.closed_any.toBasic
  exact Json.byValue_obj_of_alike (whole.sublist List.filter_sublist).distinct
    (Json.alikeMembers_of_sameValue whole same).present

/-- Tables of records, one and the same by value, are written in one form if their records are. -/
theorem Json.byValue_entries_of_sameValue
    {α : Type}
    {fields write : α -> Json}
    {left right : Table α}
    (distinct : Table.Distinct left)
    (written : ∀ entry ∈ left, ∀ other, (fields entry.2).sameValue (fields other) = true ->
      (write entry.2).byValue = (write other).byValue)
    (same : sameValue (.obj (Table.mapEntries fields left)) (.obj (Table.mapEntries fields right)) =
      true) :
    byValue (.obj (Table.mapEntries write left)) = byValue (.obj (Table.mapEntries write right)) := by
  have distinctWritten : Table.Distinct (Table.mapEntries write left) := by
    unfold Table.Distinct
    rw [Table.names_mapEntries]
    exact distinct
  have composed (table : Table α) : Table.mapEntries byValue (Table.mapEntries write table) =
      Table.mapEntries (byValue ∘ write) table := List.map_map
  rw [sameValue, Bool.and_eq_true, beq_iff_eq] at same
  refine byValue_obj_of_alike distinctWritten ?_
  unfold AlikeMembers
  rw [composed, composed]
  refine Table.perm_mapEntries distinct ?_ fun entry isThere => ?_
  · simpa [Table.mapEntries] using same.1
  · obtain ⟨other, found, equal⟩ := exists_same_of_sameMembers same.2
      (entry.1, fields entry.2) (List.mem_map_of_mem isThere)
    rw [Table.get?_mapEntries] at found
    obtain ⟨record, isRecord, rfl⟩ := Option.map_eq_some_iff.1 found
    exact ⟨record, isRecord, written entry isThere record equal⟩

/-- Schemas of one value are written in one form. -/
theorem GraphicSchema.byValue_toJson_of_sameValue
    {left right : GraphicSchema}
    (meets : left.Meets .any)
    (same : Json.sameValue (.obj left.members) (.obj right.members) = true) :
    left.toJson.byValue = right.toJson.byValue := by
  rw [Json.sameValue, Bool.and_eq_true, beq_iff_eq] at same
  obtain ⟨sameLength, same⟩ := same
  simp only [members, List.cons_append, List.nil_append, Json.sameMembers, Table.get?,
    Bool.and_eq_true, if_true, String.reduceEq, if_false] at same
  obtain ⟨kinds, properties, extras⟩ := same
  have exists_partner := Json.exists_partner_of_sameMembers _ _ meets.extras.members extras
  have kind : left.kind = right.kind := beq_iff_eq.1 kinds
  have distinct : Table.Distinct left.properties := by
    have held := meets.properties.distinct
    unfold Table.Distinct at held
    rwa [Table.names_mapEntries] at held
  have each : ∀ entry ∈ left.properties, ∀ other : SchemaProperty,
      (Json.obj entry.2.members).sameValue (.obj other.members) = true ->
        entry.2.toJson.byValue = other.toJson.byValue := fun entry isThere other equal =>
    Json.byValue_settled_of_sameValue (meets.properties.each _ (List.mem_map_of_mem isThere)).2
      equal
  have written := Json.byValue_entries_of_sameValue distinct each properties
  have further : AlikeMembers left.extras right.extras := by
    refine Table.perm_mapEntries meets.extras.distinct ?_ fun member isThere => ?_
    · simpa [members] using sameLength
    · obtain ⟨other, found, equal⟩ := exists_partner member isThere
      have named := Table.mem_names_of_mem isThere
      have notKind : "type" ≠ member.1 := fun same =>
        meets.apart (.plain "type") (by decide) (same ▸ named)
      have notProperties : "properties" ≠ member.1 := fun same =>
        meets.apart (.plain "properties") (by decide) (same ▸ named)
      rw [Table.get?, if_neg notKind, Table.get?, if_neg notProperties] at found
      exact ⟨other, found, equal⟩
  exact Json.byValue_obj_of_alike (meets.toJson Standard.closed_any).distinct
    (.cons (by rw [kind]) (.cons written further.settled))

/-- Actions of one value are written in one form. -/
theorem CustomAction.itemsByValue_toJson_of_sameItems
    {left right : List CustomAction}
    (meets : ∀ action ∈ left, Json.Meets .any (.obj action.members))
    (same : Json.sameItems (left.map fun action => .obj action.members)
      (right.map fun action => .obj action.members) = true) :
    Json.itemsByValue (left.map toJson) = Json.itemsByValue (right.map toJson) := by
  induction left generalizing right with
  | nil =>
    cases right with
    | nil => rfl
    | cons _ _ => cases same
  | cons first rest ih =>
    cases right with
    | nil => cases same
    | cons other others =>
      rw [List.map_cons, List.map_cons, Json.sameItems, Bool.and_eq_true] at same
      have here : first.toJson.byValue = other.toJson.byValue :=
        Json.byValue_settled_of_sameValue (meets first List.mem_cons_self) same.1
      rw [List.map_cons, List.map_cons, Json.itemsByValue, Json.itemsByValue, here,
        ih (fun action later => meets action (List.mem_cons_of_mem _ later)) same.2]

/-- Manifests of one value are written in one form. -/
theorem Manifest.byValue_toJson_of_sameValue
    {left right : Manifest}
    (meets : left.Meets .any)
    (apart : Field.Apart fields left.extras)
    (same : left.sameValue right = true) : left.toJson.byValue = right.toJson.byValue := by
  rw [sameValue, Bool.and_eq_true] at same
  obtain ⟨held, extras⟩ := same
  have further := (Json.alikeMembers_of_sameValue meets.extras extras).settled
  simp only [fullValues, Json.sameItems, Bool.and_eq_true] at held
  obtain ⟨schemaUrl, id, version, name, description, author, main, schema, realTime, nonRealTime,
    steps, actions, _⟩ := held
  refine Json.byValue_obj_of_alike (meets.toJson Standard.closed_any apart).distinct
    (.append (.zip _ ?_) further)
  have text {first second : String} (same : (Json.str first).sameValue (.str second) = true) :
      first = second := beq_iff_eq.1 same
  have truth {first second : Bool} (same : (Json.bool first).sameValue (.bool second) = true) :
      first = second := beq_iff_eq.1 same
  have count : left.stepCount = right.stepCount := beq_iff_eq.1 steps
  have author := Json.byValue_eq_of_sameValue _ _
    ((Json.meetsItems_iff _).1 (meets.fullValues Standard.closed_any) _ (by simp [fullValues])) author
  have schema := GraphicSchema.byValue_toJson_of_sameValue meets.schema schema
  have actions := CustomAction.itemsByValue_toJson_of_sameItems meets.actions actions
  simp only [values, Json.itemsByValue]
  rw [text schemaUrl, text id, text version, text name, text description, author, text main, schema,
    truth realTime, truth nonRealTime, count, Json.byValue_arr, Json.byValue_arr, actions]

end BroadcastGraphics
