import BroadcastGraphics.Proofs.JsonStandard
import BroadcastGraphics.Proofs.NumberText
import BroadcastGraphics.Proofs.StringText
import BroadcastGraphics.Fault

/-!
# Written values are read back

The text of a value is read back as that value, whether it is one line or broken into indented lines
and whether its characters stand for themselves or are escaped.  Three things keep a value from
this: an integer with more digits than are read, more levels of lists and objects than are read,
and, in ASCII only, a text with the two halves of a pair next to each other.
-/

namespace BroadcastGraphics
namespace Json

mutual

/-- No integer inside the value has more digits than are read, and no text holds a pair of halves. -/
def Legible : Json -> Prop
  | int value => (decimalDigits value.natAbs).length ≤ Reader.Limits.standard.digits
  | str value => Text.HalfPair.Unpaired value.toList
  | arr items => LegibleItems items
  | obj members => LegibleMembers members
  | _ => True

/-- Every item is legible. -/
def LegibleItems : List Json -> Prop
  | [] => True
  | item :: rest => Legible item ∧ LegibleItems rest

/-- Every name is, and so is the value of every member. -/
def LegibleMembers : List (String × Json) -> Prop
  | [] => True
  | (name, value) :: rest =>
      Text.HalfPair.Unpaired name.toList ∧ Legible value ∧ LegibleMembers rest

end

mutual

/-- Whether a value is legible can be computed. -/
def decidableLegible : ∀ value : Json, Decidable (Legible value)
  | null => isTrue trivial
  | bool _ => isTrue trivial
  | int value => inferInstanceAs
      (Decidable ((decimalDigits value.natAbs).length ≤ Reader.Limits.standard.digits))
  | float _ => isTrue trivial
  | str value => inferInstanceAs (Decidable (Text.HalfPair.Unpaired value.toList))
  | arr items => decidableLegibleItems items
  | obj members => decidableLegibleMembers members

/-- So it can be of the items of a list. -/
def decidableLegibleItems : ∀ items : List Json, Decidable (LegibleItems items)
  | [] => isTrue trivial
  | item :: rest =>
      have := decidableLegible item
      have := decidableLegibleItems rest
      inferInstanceAs (Decidable (Legible item ∧ LegibleItems rest))

/-- And of the members of an object. -/
def decidableLegibleMembers :
    ∀ members : List (String × Json), Decidable (LegibleMembers members)
  | [] => isTrue trivial
  | (name, value) :: rest =>
      have := decidableLegible value
      have := decidableLegibleMembers rest
      inferInstanceAs (Decidable
        (Text.HalfPair.Unpaired name.toList ∧ Legible value ∧ LegibleMembers rest))

end

instance : DecidablePred Legible := decidableLegible

/-- What a text has to be for its literal to be read back as it, and an integer for its digits. -/
def Standard.carried (asciiOnly : Bool) (limits : Reader.Limits) : Standard where
  text := fun text => Text.HalfPair.Carries asciiOnly text.toList
  integer := fun value => (decimalDigits value.natAbs).length ≤ limits.digits

mutual

/-- What is legible and has distinct names is carried by every layout. -/
theorem meets_of_legible :
    ∀ (value : Json) {asciiOnly : Bool}, value.Legible -> value.WellFormed ->
      value.Meets (.carried asciiOnly .standard)
  | .null, _, _, _ => meets_null
  | .bool value, _, _, _ => meets_bool value
  | .float value, _, _, _ => meets_float value
  | .int value, _, legible, _ => (meets_int value).2 legible
  | .str value, _, legible, _ => (meets_str value).2 fun _ => legible
  | .arr items, _, legible, wellFormed =>
      (meets_arr items).2 (meetsItems_of_legible items legible wellFormed)
  | .obj members, _, legible, wellFormed =>
      meets_obj wellFormed.1
        ((meetsMembers_iff members).1 (meetsMembers_of_legible members legible wellFormed.2))

/-- The same of the items of a list. -/
theorem meetsItems_of_legible :
    ∀ (items : List Json) {asciiOnly : Bool}, LegibleItems items -> WellFormedItems items ->
      MeetsItems (.carried asciiOnly .standard) items
  | [], _, _, _ => trivial
  | item :: rest, _, legible, wellFormed =>
      ⟨meets_of_legible item legible.1 wellFormed.1,
        meetsItems_of_legible rest legible.2 wellFormed.2⟩

/-- And of the members of an object. -/
theorem meetsMembers_of_legible :
    ∀ (members : List (String × Json)) {asciiOnly : Bool}, LegibleMembers members ->
      WellFormedMembers members -> MeetsMembers (.carried asciiOnly .standard) members
  | [], _, _, _ => trivial
  | (_, value) :: rest, _, legible, wellFormed =>
      ⟨fun _ => legible.1, meets_of_legible value legible.2.1 wellFormed.1,
        meetsMembers_of_legible rest legible.2.2 wellFormed.2⟩

end

namespace Reader

/-! ## How values start -/

/-- What a written value starts with: no blank, nothing that closes a list or an object, and no mark
of the order of bytes. -/
def StartsValue (text : List Char) : Prop :=
  ∃ first more, text = first :: more ∧ isGap first = false ∧
    first ≠ ']' ∧ first ≠ '\x7d' ∧ first ≠ '\ufeff'

/-- What a written scalar other than a string starts with. -/
def StartsScalar (text : List Char) : Prop :=
  ∃ first more, text = first :: more ∧ isGap first = false ∧
    (first ≠ ']' ∧ first ≠ '\x7d' ∧ first ≠ '\ufeff') ∧
    first ≠ '\x22' ∧ first ≠ '[' ∧ first ≠ '\x7b'

theorem StartsScalar.startsValue
    {text : List Char}
    (starts : StartsScalar text) :
    StartsValue text := by
  obtain ⟨first, more, same, noGap, allowed, _⟩ := starts
  exact ⟨first, more, same, noGap, allowed⟩

theorem startsScalar_number
    (negative : Bool)
    {first : Char}
    (between : '0' ≤ first ∧ first ≤ '9')
    (more : List Char) :
    StartsScalar (signText negative ++ first :: more) := by
  cases negative with
  | true => exact ⟨'-', first :: more, rfl, by decide⟩
  | false =>
    have other : ∀ mark : Char, ¬ ('0' ≤ mark ∧ mark ≤ '9') -> first ≠ mark := by
      rintro mark outside rfl
      exact outside between
    refine ⟨first, more, rfl, ?_,
      ⟨other _ (by decide), other _ (by decide), other _ (by decide)⟩, other _ (by decide),
      other _ (by decide), other _ (by decide)⟩
    unfold isGap
    rw [beq_false_of_ne (other ' ' (by decide)), beq_false_of_ne (other '\t' (by decide)),
      beq_false_of_ne (other '\n' (by decide)), beq_false_of_ne (other '\r' (by decide))]
    rfl

theorem startsScalar_integerText
    (value : Int) :
    StartsScalar (integerText value).toList := by
  obtain ⟨first, more, between, start⟩ := exists_number_start value
  rw [start]
  exact startsScalar_number _ between more

theorem startsScalar_floatText
    (value : Binary64) :
    StartsScalar (value.text jsonNames).toList := by
  cases value with
  | finite negative rank =>
    obtain ⟨first, more, between, start⟩ := exists_text_start (Binary64.readsBack_shortest rank)
    rw [toList_text_finite, start]
    exact startsScalar_number _ between more
  | infinite negative =>
    cases negative with
    | true => exact ⟨'-', "Infinity".toList, rfl, by decide⟩
    | false => exact ⟨'I', "nfinity".toList, rfl, by decide⟩
  | nan => exact ⟨'N', "aN".toList, rfl, by decide⟩

theorem startsValue_render
    (layout : Layout)
    (level : Nat)
    (value : Json) :
    StartsValue (render layout level value) := by
  cases value with
  | null => exact ⟨'n', "ull".toList, rfl, by decide⟩
  | bool value =>
    cases value with
    | true => exact ⟨'t', "rue".toList, rfl, by decide⟩
    | false => exact ⟨'f', "alse".toList, rfl, by decide⟩
  | int value => exact (startsScalar_integerText value).startsValue
  | float value => exact (startsScalar_floatText value).startsValue
  | str text => exact ⟨'\x22', _, rfl, by decide⟩
  | arr items =>
    cases items with
    | nil => exact ⟨'[', _, rfl, by decide⟩
    | cons item rest => exact ⟨'[', _, rfl, by decide⟩
  | obj members =>
    cases members with
    | nil => exact ⟨'\x7b', _, rfl, by decide⟩
    | cons member rest => exact ⟨'\x7b', _, rfl, by decide⟩

theorem StartsValue.append
    {text : List Char}
    (starts : StartsValue text)
    (rest : List Char) :
    StartsValue (text ++ rest) := by
  obtain ⟨first, more, rfl, allowed⟩ := starts
  exact ⟨first, _, rfl, allowed⟩

/-! ## Blanks -/

/-- A run of blanks. -/
def AreGaps (blanks : List Char) : Prop :=
  ∀ blank ∈ blanks, isGap blank = true

theorem areGaps_nil : AreGaps [] := fun _ member => nomatch member

theorem areGaps_blank : AreGaps [' '] := by
  intro blank member
  rw [List.mem_singleton.1 member]
  rfl

theorem areGaps_lineBreak
    (layout : Layout)
    (level : Nat) :
    AreGaps (layout.lineBreak level) := by
  unfold Layout.lineBreak
  cases layout.indent with
  | none => exact areGaps_nil
  | some width =>
    intro blank member
    rcases List.mem_cons.1 member with rfl | member
    · rfl
    · rw [List.eq_of_mem_replicate member]
      rfl

/-- Between two entries there is a comma before blanks. -/
theorem exists_separator
    (layout : Layout)
    (level : Nat) :
    ∃ blanks, AreGaps blanks ∧ layout.separator level = ',' :: blanks := by
  unfold Layout.separator
  cases layout.indent with
  | none => exact ⟨_, areGaps_blank, rfl⟩
  | some width => exact ⟨_, areGaps_lineBreak layout level, rfl⟩

theorem AreGaps.skipGap_append
    {blanks : List Char}
    (gaps : AreGaps blanks)
    (text : List Char) :
    skipGap (blanks ++ text) = skipGap text :=
  List.dropWhile_append_of_pos gaps

/-- No number goes on behind blanks. -/
theorem AreGaps.endsNumber
    {blanks : List Char}
    (gaps : AreGaps blanks)
    {rest : List Char}
    (ends : EndsNumber rest) :
    EndsNumber (blanks ++ rest) := by
  cases blanks with
  | nil => exact ends
  | cons blank blanks =>
    have isBlank := gaps blank List.mem_cons_self
    unfold isGap at isBlank
    rw [Bool.or_eq_true, Bool.or_eq_true, Bool.or_eq_true, beq_iff_eq, beq_iff_eq, beq_iff_eq,
      beq_iff_eq] at isBlank
    rcases isBlank with ((rfl | rfl) | rfl) | rfl <;> exact endsNumber_cons (by decide) _

theorem skipGap_of_not_gap
    {first : Char}
    (noGap : isGap first = false)
    (more : List Char) :
    skipGap (first :: more) = first :: more := by
  unfold skipGap
  rw [List.dropWhile_cons_of_neg (by rw [noGap]; exact Bool.false_ne_true)]

/-- Blanks are passed over in front of a value, and nothing else is. -/
theorem StartsValue.skipGap_blanks
    {text : List Char}
    (starts : StartsValue text)
    {blanks : List Char}
    (gaps : AreGaps blanks) :
    skipGap (blanks ++ text) = text := by
  obtain ⟨first, more, rfl, noGap, _⟩ := starts
  rw [gaps.skipGap_append, skipGap_of_not_gap noGap]

/-! ## Values -/

section Values

variable {limits : Limits} {asciiOnly : Bool} {fuel room : Nat} {blanks rest : List Char}

theorem readValue_scalar
    {text : List Char}
    (starts : StartsScalar text) :
    readValue limits (fuel + 1) room (text ++ rest) = readScalar limits (text ++ rest) := by
  obtain ⟨first, more, rfl, _, _, noQuote, noBracket, noBrace⟩ := starts
  unfold readValue
  split
  · rename_i same
    exact absurd (List.cons.inj same).1 noQuote
  · rename_i same
    exact absurd (List.cons.inj same).1 noBracket
  · rename_i same
    exact absurd (List.cons.inj same).1 noBrace
  · rfl

theorem stringLiteral_append
    (text : String)
    (rest : List Char) :
    stringLiteral asciiOnly text ++ rest = '\x22' :: literalTail asciiOnly text.toList rest := by
  unfold stringLiteral literalTail
  rw [List.cons_append, List.cons_append, List.append_assoc]
  rfl

/-- There is room for the characters of a literal. -/
theorem length_lt_literalTail
    (text rest : List Char) :
    text.length < (literalTail asciiOnly text rest).length + 1 := by
  induction text with
  | nil => exact Nat.succ_pos _
  | cons character text ih =>
    have nonempty : 0 < (stringCharacter asciiOnly character).length := by
      have spelling := spelling_stringCharacter asciiOnly character
      generalize stringCharacter asciiOnly character = spelled at spelling ⊢
      cases spelling <;> exact Nat.succ_pos _
    rw [literalTail_cons, List.length_append, List.length_cons]
    omega

theorem readString_whole
    {text : List Char}
    (carries : Text.HalfPair.Carries asciiOnly text)
    (rest : List Char) :
    readString ('\x22' :: literalTail asciiOnly text rest)
        ((literalTail asciiOnly text rest).length + 1) (literalTail asciiOnly text rest) =
      .ok (text, rest) :=
  readString_literal _ carries rest (length_lt_literalTail text rest)

theorem readValue_str
    {text : String}
    (carries : Text.HalfPair.Carries asciiOnly text.toList) :
    readValue limits (fuel + 1) room (stringLiteral asciiOnly text ++ rest) =
      .ok (.str text, rest) := by
  rw [stringLiteral_append]
  have read := readString_whole carries rest
  unfold readValue
  simp only [read]
  refine congrArg (fun text => Except.ok (Json.str text, rest)) ?_
  exact String.ofList_toList

theorem readValue_list
    {text : List Char}
    (gaps : AreGaps blanks)
    (starts : StartsValue text) :
    readValue limits (fuel + 1) (room + 1) ('[' :: (blanks ++ text)) =
      (readItems limits fuel room text).map fun read => (.arr read.1, read.2) := by
  have whole := starts.skipGap_blanks gaps
  obtain ⟨first, more, rfl, _, noBracket, _⟩ := starts
  conv => lhs; unfold readValue
  simp only [whole]
  split
  · rename_i same
    cases same
  · rename_i same
    exact absurd (List.cons.inj same).1 noBracket
  · rename_i same _
    cases same
    cases readItems limits fuel room (first :: more) <;> rfl

theorem readValue_object
    {text : List Char}
    (gaps : AreGaps blanks)
    (starts : StartsValue text) :
    readValue limits (fuel + 1) (room + 1) ('\x7b' :: (blanks ++ text)) =
      (readMembers limits fuel room [] text).map fun read => (.obj read.1, read.2) := by
  have whole := starts.skipGap_blanks gaps
  obtain ⟨first, more, rfl, _, _, noBrace, _⟩ := starts
  conv => lhs; unfold readValue
  simp only [whole]
  split
  · rename_i same
    cases same
  · rename_i same
    exact absurd (List.cons.inj same).1 noBrace
  · rename_i same _
    cases same
    cases readMembers limits fuel room [] (first :: more) <;> rfl

/-- The last item of a list. -/
theorem readItems_last
    {input : List Char}
    {item : Json}
    (gaps : AreGaps blanks)
    (read : readValue limits fuel room input = .ok (item, blanks ++ ']' :: rest)) :
    readItems limits (fuel + 1) room input = .ok ([item], rest) := by
  have closes : skipGap (blanks ++ ']' :: rest) = ']' :: rest := gaps.skipGap_append _
  conv => lhs; unfold readItems
  rw [read]
  simp only [bind, Except.bind, closes]

/-- An item of a list that is followed by others. -/
theorem readItems_more
    {input text : List Char}
    {item : Json}
    {items : List Json}
    (gaps : AreGaps blanks)
    (starts : StartsValue text)
    (read : readValue limits fuel room input = .ok (item, ',' :: (blanks ++ text)))
    (readRest : readItems limits fuel room text = .ok (items, rest)) :
    readItems limits (fuel + 1) room input = .ok (item :: items, rest) := by
  have whole := starts.skipGap_blanks gaps
  conv => lhs; unfold readItems
  rw [read]
  change (readItems limits fuel room (skipGap (blanks ++ text)) >>= _) = _
  rw [whole, readRest]
  rfl

/-- The last member of an object. -/
theorem readMembers_last
    {name : String}
    (carries : Text.HalfPair.Carries asciiOnly name.toList)
    {text : List Char}
    (starts : StartsValue text)
    {value : Json}
    (gaps : AreGaps blanks)
    (read : readValue limits fuel room text = .ok (value, blanks ++ '\x7d' :: rest))
    (before : Table Json) :
    readMembers limits (fuel + 1) room before
        (stringLiteral asciiOnly name ++ ':' :: ' ' :: text) =
      .ok (Table.put before name value, rest) := by
  have whole := starts.skipGap_blanks areGaps_blank
  have closes : skipGap (blanks ++ '\x7d' :: rest) = '\x7d' :: rest := gaps.skipGap_append _
  rw [stringLiteral_append]
  have readName := readString_whole carries (':' :: ' ' :: text)
  conv => lhs; unfold readMembers
  simp only [readName]
  change (readValue limits fuel room (skipGap ([' '] ++ text)) >>= _) = _
  rw [whole, read]
  simp only [bind, Except.bind, closes]
  rw [String.ofList_toList]

/-- A member of an object that is followed by others. -/
theorem readMembers_more
    {name : String}
    (carries : Text.HalfPair.Carries asciiOnly name.toList)
    {text later : List Char}
    (starts : StartsValue text)
    (gaps : AreGaps blanks)
    (startsLater : StartsValue later)
    {value : Json}
    (read : readValue limits fuel room text = .ok (value, ',' :: (blanks ++ later)))
    (before : Table Json) :
    readMembers limits (fuel + 1) room before
        (stringLiteral asciiOnly name ++ ':' :: ' ' :: text) =
      readMembers limits fuel room (Table.put before name value) later := by
  have whole := starts.skipGap_blanks areGaps_blank
  have wholeLater := startsLater.skipGap_blanks gaps
  rw [stringLiteral_append]
  have readName := readString_whole carries (':' :: ' ' :: text)
  conv => lhs; unfold readMembers
  simp only [readName]
  change (readValue limits fuel room (skipGap ([' '] ++ text)) >>= _) = _
  rw [whole, read]
  change readMembers limits fuel room (Table.put before (String.ofList name.toList) value)
    (skipGap (blanks ++ later)) = _
  rw [String.ofList_toList, wholeLater]

end Values

/-! ## The parts of a written value -/

section Parts

variable (layout : Layout) (level : Nat)

theorem render_arr
    (item : Json)
    (items : List Json) :
    render layout level (arr (item :: items)) =
      '[' :: (layout.lineBreak (level + 1) ++ (renderItems layout (level + 1) (item :: items) ++
        (layout.lineBreak level ++ [']']))) := by
  rw [render]
  simp only [List.cons_append, List.append_assoc]

theorem renderItems_single
    (item : Json) :
    renderItems layout level [item] = render layout level item := by
  rw [renderItems]
  exact List.append_nil _

theorem renderItems_cons
    (item second : Json)
    (items : List Json) :
    renderItems layout level (item :: second :: items) =
      render layout level item ++
        (layout.separator level ++ renderItems layout level (second :: items)) := by
  rw [renderItems]

theorem render_obj
    (member : String × Json)
    (members : List (String × Json)) :
    render layout level (obj (member :: members)) =
      '\x7b' :: (layout.lineBreak (level + 1) ++
        (renderMembers layout (level + 1) (member :: members) ++
          (layout.lineBreak level ++ ['\x7d']))) := by
  rw [render]
  simp only [List.cons_append, List.append_assoc]

theorem renderMembers_single
    (name : String)
    (value : Json) :
    renderMembers layout level [(name, value)] =
      stringLiteral layout.asciiOnly name ++ ':' :: ' ' :: render layout level value := by
  rw [renderMembers]
  exact List.append_nil _

theorem renderMembers_cons
    (name : String)
    (value : Json)
    (second : String × Json)
    (members : List (String × Json)) :
    renderMembers layout level ((name, value) :: second :: members) =
      stringLiteral layout.asciiOnly name ++ ':' :: ' ' :: (render layout level value ++
        (layout.separator level ++ renderMembers layout level (second :: members))) := by
  rw [renderMembers]
  simp only [List.cons_append, List.append_assoc]

theorem startsValue_renderItems
    (item : Json)
    (items : List Json) :
    StartsValue (renderItems layout level (item :: items)) := by
  have starts := startsValue_render layout level item
  cases items with
  | nil =>
    rw [renderItems_single]
    exact starts
  | cons second items =>
    rw [renderItems_cons]
    exact starts.append _

theorem startsValue_renderMembers
    (member : String × Json)
    (members : List (String × Json)) :
    StartsValue (renderMembers layout level (member :: members)) := by
  obtain ⟨name, value⟩ := member
  cases members with
  | nil =>
    rw [renderMembers_single]
    exact ⟨'\x22', _, rfl, by decide⟩
  | cons second members =>
    rw [renderMembers_cons]
    exact ⟨'\x22', _, rfl, by decide⟩

end Parts

/-! ## The text of a value -/

section Rendering

variable (layout : Layout) {limits : Limits}

mutual

/-- A value is read back from its text, with two more rounds of reading for each character. -/
theorem readValue_render :
    ∀ (value : Json) (level : Nat) {fuel room : Nat} {rest : List Char},
      value.Meets (.carried layout.asciiOnly limits) -> value.levels ≤ room ->
      2 * (render layout level value).length + 1 ≤ fuel -> EndsNumber rest ->
      readValue limits fuel room (render layout level value ++ rest) = .ok (value, rest)
  | .null, level, fuel + 1, room, rest, _, _, _, _ => rfl
  | .bool value, level, fuel + 1, room, rest, _, _, _, _ => by cases value <;> rfl
  | .int value, level, fuel + 1, room, rest, meets, _, _, ends => by
      rw [render, readValue_scalar (startsScalar_integerText value)]
      exact readScalar_int ((meets_int value).1 meets) ends
  | .float value, level, fuel + 1, room, rest, _, _, _, ends => by
      rw [render, readValue_scalar (startsScalar_floatText value)]
      exact readScalar_float value ends
  | .str text, level, fuel + 1, room, rest, meets, _, _, _ =>
      readValue_str ((meets_str text).1 meets)
  | .arr [], level, fuel + 1, room + 1, rest, _, _, _, _ => rfl
  | .arr (item :: items), level, fuel + 1, room, rest, meets, shallow, enough, _ => by
      rw [render_arr] at enough ⊢
      rw [List.length_cons, List.length_append, List.length_append] at enough
      rw [levels] at shallow
      obtain ⟨room, rfl⟩ := Nat.exists_eq_add_of_le' (show 1 ≤ room by omega)
      have read := readItems_render item items (level + 1) ((meets_arr _).1 meets)
        (show levelsOfItems (item :: items) ≤ room by omega)
        (show 2 * (renderItems layout (level + 1) (item :: items)).length + 2 ≤ fuel by omega)
        (areGaps_lineBreak layout level) rest
      rw [List.cons_append, List.append_assoc, List.append_assoc, List.append_assoc,
        readValue_list (areGaps_lineBreak layout (level + 1))
          ((startsValue_renderItems layout (level + 1) item items).append _)]
      exact congrArg (Except.map _) read
  | .obj [], level, fuel + 1, room + 1, rest, _, _, _, _ => rfl
  | .obj (member :: members), level, fuel + 1, room, rest, meets, shallow, enough, _ => by
      rw [render_obj] at enough ⊢
      rw [List.length_cons, List.length_append, List.length_append] at enough
      rw [levels] at shallow
      obtain ⟨room, rfl⟩ := Nat.exists_eq_add_of_le' (show 1 ≤ room by omega)
      have read := readMembers_render member members (level + 1) [] meets.members meets.distinct
        (show levelsOfMembers (member :: members) ≤ room by omega)
        (show 2 * (renderMembers layout (level + 1) (member :: members)).length + 2 ≤ fuel by omega)
        (areGaps_lineBreak layout level) rest
      rw [List.cons_append, List.append_assoc, List.append_assoc, List.append_assoc,
        readValue_object (areGaps_lineBreak layout (level + 1))
          ((startsValue_renderMembers layout (level + 1) member members).append _)]
      exact congrArg (Except.map _) read
termination_by value => sizeOf value

/-- The items of a list are read back. -/
theorem readItems_render :
    ∀ (item : Json) (items : List Json) (level : Nat) {fuel room : Nat} {blanks : List Char},
      MeetsItems (.carried layout.asciiOnly limits) (item :: items) ->
      levelsOfItems (item :: items) ≤ room ->
      2 * (renderItems layout level (item :: items)).length + 2 ≤ fuel -> AreGaps blanks ->
      ∀ rest : List Char,
      readItems limits fuel room
          (renderItems layout level (item :: items) ++ (blanks ++ ']' :: rest)) =
        .ok (item :: items, rest)
  | item, [], level, fuel + 1, room, blanks, meets, shallow, enough, gaps, rest => by
      rw [renderItems_single] at enough ⊢
      rw [levelsOfItems] at shallow
      exact readItems_last gaps (readValue_render item level meets.1 (by omega) (by omega)
        (gaps.endsNumber (endsNumber_cons (by decide) rest)))
  | item, second :: items, level, fuel + 1, room, blanks, meets, shallow, enough, gaps, rest => by
      obtain ⟨apart, areGaps, separated⟩ := exists_separator layout level
      rw [renderItems_cons, separated] at enough ⊢
      rw [List.length_append, List.cons_append, List.length_cons, List.length_append] at enough
      rw [levelsOfItems] at shallow
      rw [List.append_assoc, List.cons_append, List.cons_append, List.append_assoc]
      refine readItems_more areGaps ((startsValue_renderItems layout level second items).append _)
        (readValue_render item level meets.1 (by omega) (by omega)
          (endsNumber_cons (by decide) _)) ?_
      exact readItems_render second items level meets.2 (by omega) (by omega) gaps rest
termination_by item items => sizeOf (item :: items)

/-- The members of an object are read back behind those read before. -/
theorem readMembers_render :
    ∀ (member : String × Json) (members : List (String × Json)) (level : Nat)
      (before : Table Json) {fuel room : Nat} {blanks : List Char},
      MeetsMembers (.carried layout.asciiOnly limits) (member :: members) ->
      Table.Distinct (before ++ member :: members) ->
      levelsOfMembers (member :: members) ≤ room ->
      2 * (renderMembers layout level (member :: members)).length + 2 ≤ fuel -> AreGaps blanks ->
      ∀ rest : List Char,
      readMembers limits fuel room before
          (renderMembers layout level (member :: members) ++ (blanks ++ '\x7d' :: rest)) =
        .ok (before ++ member :: members, rest)
  | (name, value), [], level, before, fuel + 1, room, blanks, meets, distinct, shallow, enough,
      gaps, rest => by
      rw [renderMembers_single] at enough ⊢
      rw [List.length_append, List.length_cons, List.length_cons] at enough
      rw [levelsOfMembers] at shallow
      rw [List.append_assoc]
      have read := readValue_render value level meets.2.1 (show value.levels ≤ room by omega)
        (show 2 * (render layout level value).length + 1 ≤ fuel by omega)
        (gaps.endsNumber (@endsNumber_cons '\x7d' (by decide) rest))
      have last := readMembers_last meets.1 ((startsValue_render layout level value).append _)
        gaps read before
      rw [Table.put_of_notMem (distinct.notMem_of_append)] at last
      exact last
  | (name, value), second :: members, level, before, fuel + 1, room, blanks, meets, distinct,
      shallow, enough, gaps, rest => by
      obtain ⟨apart, areGaps, separated⟩ := exists_separator layout level
      rw [renderMembers_cons, separated] at enough ⊢
      rw [List.length_append, List.length_cons, List.length_cons, List.length_append,
        List.cons_append, List.length_cons, List.length_append] at enough
      rw [levelsOfMembers] at shallow
      have readLater := readMembers_render second members level (before ++ [(name, value)])
        meets.2.2 (by rwa [List.append_assoc]) (show _ ≤ room by omega) (show _ ≤ fuel by omega)
        gaps rest
      have read := @readValue_render value level fuel room (',' :: (apart ++
          (renderMembers layout level (second :: members) ++ (blanks ++ '\x7d' :: rest))))
        meets.2.1 (by omega) (by omega) (endsNumber_cons (by decide) _)
      have later := readMembers_more meets.1 ((startsValue_render layout level value).append _)
        areGaps ((startsValue_renderMembers layout level second members).append _) read before
      rw [Table.put_of_notMem distinct.notMem_of_append, readLater, List.append_assoc] at later
      simp only [List.append_assoc, List.cons_append]
      exact later
termination_by member members => sizeOf (member :: members)

end

theorem readText_render
    {value : Json}
    (meets : value.Meets (.carried layout.asciiOnly limits))
    (shallow : value.levels ≤ limits.depth) :
    readText limits (render layout 0 value) = .ok value := by
  have starts := startsValue_render layout 0 value
  have read := @readValue_render layout limits value 0 (2 * (render layout 0 value).length + 2) _ []
    meets shallow (Nat.le_succ _) endsNumber_nil
  have whole := starts.skipGap_blanks areGaps_nil
  rw [List.nil_append] at whole
  rw [List.append_nil] at read
  unfold readText
  rw [whole, read]
  rfl

end Rendering

end Reader

/-- A value is read back from its text in any layout. -/
theorem parseWithin_text
    (layout : Layout)
    {limits : Reader.Limits}
    {value : Json}
    (meets : value.Meets (.carried layout.asciiOnly limits))
    (shallow : value.levels ≤ limits.depth) :
    parseWithin limits (value.text layout) = .ok value := by
  obtain ⟨first, more, start, _, _, _, noMark⟩ := Reader.startsValue_render layout 0 value
  have read := Reader.readText_render layout meets shallow
  have characters : (value.text layout).toList = render layout 0 value := String.toList_ofList
  unfold parseWithin
  simp only [characters, read]
  rw [if_neg]
  rw [start, List.head?_cons, beq_iff_eq]
  exact fun same => noMark (Option.some.inj same)

/-- A legible value is read back from its literal. -/
theorem parse_literal
    {value : Json}
    (indent : Option Nat)
    (legible : value.Legible)
    (wellFormed : value.WellFormed)
    (shallow : value.levels ≤ Reader.Limits.standard.depth) :
    parse (value.literal indent) = .ok value :=
  parseWithin_text ⟨true, indent⟩ (meets_of_legible value legible wellFormed) shallow

end Json
end BroadcastGraphics
