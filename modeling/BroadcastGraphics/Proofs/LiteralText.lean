import BroadcastGraphics.Proofs.JsonText

/-!
# Literals do not end the line that they stand in

A declaration of component source ends with a semicolon and a line break.  The text of a value in
ASCII holds no such end, whatever its texts hold: line breaks stand between the entries of a value
only, behind a bracket or a comma, and inside of a string literal they are escaped.
-/

namespace BroadcastGraphics
namespace Json

open Text (KeepsApart)
open Reader (AreDigits areDigits_decimalDigits areDigits_zeros)

/-- A character of ASCII other than a semicolon. -/
def IsQuiet (character : Char) : Prop :=
  character.toNat < 128 ∧ character ≠ ';'

/-- A quiet character other than a line break. -/
def IsStill (character : Char) : Prop :=
  IsQuiet character ∧ character ≠ '\n'

instance (character : Char) : Decidable (IsQuiet character) :=
  inferInstanceAs (Decidable (_ ∧ _))

instance (character : Char) : Decidable (IsStill character) :=
  inferInstanceAs (Decidable (_ ∧ _))

/-- Text in ASCII that has no end of a declaration inside and can stand in front of one. -/
structure Inert (text : List Char) : Prop where
  ascii : ∀ character ∈ text, character.toNat < 128
  unbroken : KeepsApart (· = ';') (· = '\n') text
  unended : text.getLast? ≠ some ';'

theorem inert_of_quiet
    {text : List Char}
    (quiet : ∀ character ∈ text, IsQuiet character) : Inert text where
  ascii character member := (quiet character member).1
  unbroken := Text.keepsApart_of_no_first fun character member => (quiet character member).2
  unended last := (quiet ';' (List.mem_of_getLast? last)).2 rfl

theorem Inert.append
    {first second : List Char}
    (inertFirst : Inert first)
    (inertSecond : Inert second) : Inert (first ++ second) where
  ascii := List.forall_mem_append.2 ⟨inertFirst.ascii, inertSecond.ascii⟩
  unbroken := inertFirst.unbroken.append inertSecond.unbroken fun last isLast _ _ both =>
    inertFirst.unended (both.1 ▸ isLast)
  unended := by
    rw [List.getLast?_append]
    cases ended : second.getLast? with
    | none => exact inertFirst.unended
    | some last =>
      rw [Option.some_or, ← ended]
      exact inertSecond.unended

theorem Inert.cons
    {text : List Char}
    (inert : Inert text)
    {character : Char}
    (quiet : IsQuiet character) : Inert (character :: text) :=
  (inert_of_quiet (List.forall_mem_singleton.2 quiet)).append inert

theorem Inert.tail
    {character : Char}
    {text : List Char}
    (inert : Inert (character :: text)) : Inert text where
  ascii := (List.forall_mem_cons.1 inert.ascii).2
  unbroken := inert.unbroken.tail
  unended last := inert.unended (by rw [List.getLast?_cons, last]; rfl)

/-! ## Strings -/

theorem ascii_unitEscape
    {unit : Nat}
    (small : unit < 0x10000) :
    ∀ character ∈ unitEscape unit, character.toNat < 128 ∧ character ≠ '\n' := by
  have digit : ∀ value < 16, value.digitChar.toNat < 128 ∧ value.digitChar ≠ '\n' := by decide
  unfold unitEscape
  rw [Reader.hexPadded_four small]
  simp only [List.forall_mem_cons, List.not_mem_nil, false_imp_iff, implies_true, and_true]
  exact ⟨by decide, by decide, digit _ (by omega), digit _ (by omega), digit _ (by omega),
    digit _ (by omega)⟩

theorem ascii_characterEscape
    (character : Char) :
    ∀ written ∈ characterEscape character, written.toNat < 128 ∧ written ≠ '\n' := by
  have inRange := Text.HalfPair.toNat_lt character
  unfold characterEscape
  dsimp only
  split
  · rename_i unit half
    have bounds := (Text.HalfPair.unit?_eq_some_iff _ _).1 half
    exact ascii_unitEscape (by omega)
  · split
    · exact ascii_unitEscape ‹_›
    · exact List.forall_mem_append.2
        ⟨ascii_unitEscape (by omega), ascii_unitEscape (by omega)⟩

/-- What a character of a literal in ASCII is written as has no line break. -/
theorem ascii_stringCharacter
    (character : Char) :
    ∀ written ∈ stringCharacter true character, written.toNat < 128 ∧ written ≠ '\n' := by
  unfold stringCharacter
  split
  · rename_i marked
    rw [Bool.or_eq_true, beq_iff_eq, beq_iff_eq] at marked
    rcases marked with rfl | rfl <;> decide
  · split
    · decide
    · rename_i noBreak
      iterate 4
        split
        · decide
      split
      · exact ascii_unitEscape (by omega)
      · split
        · exact ascii_characterEscape character
        · rename_i plain
          rw [Bool.true_and, decide_eq_true_eq] at plain
          rw [beq_iff_eq] at noBreak
          exact List.forall_mem_singleton.2 ⟨by omega, noBreak⟩

theorem ascii_stringLiteral
    (text : String) :
    ∀ written ∈ stringLiteral true text, written.toNat < 128 ∧ written ≠ '\n' := by
  refine List.forall_mem_append.2 ⟨List.forall_mem_cons.2 ⟨by decide, ?_⟩, by decide⟩
  intro written member
  obtain ⟨source, _, isWritten⟩ := List.mem_flatMap.1 member
  exact ascii_stringCharacter source written isWritten

theorem inert_stringLiteral
    (text : String) :
    Inert (stringLiteral true text) := by
  have written := ascii_stringLiteral text
  refine ⟨fun character member => (written character member).1,
    Text.keepsApart_of_no_second fun character member => (written character member).2, ?_⟩
  unfold stringLiteral
  rw [List.getLast?_concat]
  decide

/-! ## Numbers -/

theorem Reader.AreDigits.still
    {digits : List Char}
    (areDigits : AreDigits digits) : ∀ digit ∈ digits, IsStill digit := by
  intro digit member
  obtain ⟨least, most⟩ := areDigits digit member
  have least : 48 ≤ digit.toNat := least
  have most : digit.toNat ≤ 57 := most
  refine ⟨⟨by omega, ?_⟩, ?_⟩
  · rintro rfl
    exact absurd most (by decide)
  · rintro rfl
    exact absurd least (by decide)

theorem still_signText
    (negative : Bool) :
    ∀ character ∈ Reader.signText negative, IsStill character := by
  cases negative <;> decide

theorem still_integerText
    (value : Int) :
    ∀ character ∈ (integerText value).toList, IsStill character := by
  rw [Reader.toList_integerText]
  exact List.forall_mem_append.2 ⟨still_signText _, (areDigits_decimalDigits _).still⟩

/-- Digits are written with a point, an exponent and zeros. -/
theorem still_decimalText
    {decimal : Binary64.Decimal}
    (areDigits : AreDigits decimal.digits) :
    ∀ character ∈ decimal.text .plain, IsStill character := by
  have digits := areDigits.still
  have zeros := fun count => (areDigits_zeros count).still
  have part : ∀ count, (∀ digit ∈ decimal.digits.take count, IsStill digit) ∧
      ∀ digit ∈ decimal.digits.drop count, IsStill digit := fun count =>
    ⟨fun digit member => digits digit (List.mem_of_mem_take member),
      fun digit member => digits digit (List.mem_of_mem_drop member)⟩
  unfold Binary64.Decimal.text Binary64.DigitForm.plain
  dsimp only
  split
  · split
    · exact List.forall_mem_append.2 ⟨List.forall_mem_cons.2 ⟨by decide,
        List.forall_mem_cons.2 ⟨by decide, zeros _⟩⟩, digits⟩
    · refine List.forall_mem_append.2 ⟨List.forall_mem_append.2 ⟨(part _).1, zeros _⟩,
        List.forall_mem_cons.2 ⟨by decide, ?_⟩⟩
      split
      · decide
      · exact (part _).2
  · refine List.forall_mem_append.2 ⟨List.forall_mem_append.2 ⟨?_, List.forall_mem_cons.2
      ⟨by decide, List.forall_mem_cons.2 ⟨by split <;> decide, zeros _⟩⟩⟩,
      (areDigits_decimalDigits _).still⟩
    split
    · rename_i first second rest same
      rw [same] at digits
      obtain ⟨stillFirst, stillRest⟩ := List.forall_mem_cons.1 digits
      exact List.forall_mem_cons.2 ⟨stillFirst, List.forall_mem_cons.2 ⟨by decide, stillRest⟩⟩
    · exact digits

theorem still_floatText
    (value : Binary64) :
    ∀ character ∈ (value.text jsonNames).toList, IsStill character := by
  cases value with
  | finite negative rank =>
    rw [Reader.toList_text_finite]
    exact List.forall_mem_append.2 ⟨still_signText negative,
      still_decimalText (Binary64.readsBack_shortest rank).areDigits⟩
  | infinite negative => cases negative <;> decide
  | nan => decide

/-! ## Values -/

/-- A property that the text of every value in a layout has, because the texts from which it is put
together have it: those of scalars, line breaks, and the marks of lists and objects. -/
structure Composes (layout : Layout) (Holds : List Char -> Prop) : Prop where
  append : ∀ {first second}, Holds first -> Holds second -> Holds (first ++ second)
  mark : ∀ mark ∈ ['[', ']', '\x7b', '\x7d', ':', ',', ' '], Holds [mark]
  lineBreak : ∀ level, Holds (layout.lineBreak level)
  scalar : ∀ {value : Json}, value.isScalar = true -> ∀ level, Holds (render layout level value)

namespace Composes

variable {layout : Layout} {Holds : List Char -> Prop} (composes : Composes layout Holds)
include composes

theorem cons
    {mark : Char}
    {text : List Char}
    (isMark : mark ∈ ['[', ']', '\x7b', '\x7d', ':', ',', ' '])
    (holds : Holds text) : Holds (mark :: text) :=
  composes.append (composes.mark mark isMark) holds

theorem name (text : String) : Holds (stringLiteral layout.asciiOnly text) := by
  have written := @scalar _ _ composes (.str text) rfl 0
  rwa [Json.render] at written

theorem separator (level : Nat) : Holds (layout.separator level) := by
  unfold Layout.separator
  cases layout.indent with
  | none => exact composes.cons (by decide) (composes.mark ' ' (by decide))
  | some width => exact composes.cons (by decide) (composes.lineBreak level)

mutual

/-- The text of every value has the property. -/
theorem render : ∀ (value : Json) (level : Nat), Holds (value.render layout level)
  | .null, level => composes.scalar rfl level
  | .bool _, level => composes.scalar rfl level
  | .int _, level => composes.scalar rfl level
  | .float _, level => composes.scalar rfl level
  | .str _, level => composes.scalar rfl level
  | .arr [], level => by
      rw [Json.render]
      exact composes.cons (by decide) (composes.mark ']' (by decide))
  | .arr (item :: items), level => by
      rw [Reader.render_arr]
      exact composes.cons (by decide) (composes.append (composes.lineBreak _)
        (composes.append (renderItems item items (level + 1))
          (composes.append (composes.lineBreak level) (composes.mark ']' (by decide)))))
  | .obj [], level => by
      rw [Json.render]
      exact composes.cons (by decide) (composes.mark '\x7d' (by decide))
  | .obj (member :: members), level => by
      rw [Reader.render_obj]
      exact composes.cons (by decide) (composes.append (composes.lineBreak _)
        (composes.append (renderMembers member members (level + 1))
          (composes.append (composes.lineBreak level) (composes.mark '\x7d' (by decide)))))
termination_by value => sizeOf value

/-- So have the texts of items. -/
theorem renderItems :
    ∀ (item : Json) (items : List Json) (level : Nat),
      Holds (Json.renderItems layout level (item :: items))
  | item, [], level => by
      rw [Reader.renderItems_single]
      exact render item level
  | item, second :: items, level => by
      rw [Reader.renderItems_cons]
      exact composes.append (render item level)
        (composes.append (composes.separator level) (renderItems second items level))
termination_by item items => sizeOf (item :: items)

/-- And so have the texts of members. -/
theorem renderMembers :
    ∀ (member : String × Json) (members : List (String × Json)) (level : Nat),
      Holds (Json.renderMembers layout level (member :: members))
  | (name, value), [], level => by
      rw [Reader.renderMembers_single]
      exact composes.append (composes.name name)
        (composes.cons (by decide) (composes.cons (by decide) (render value level)))
  | (name, value), second :: members, level => by
      rw [Reader.renderMembers_cons]
      exact composes.append (composes.name name)
        (composes.cons (by decide) (composes.cons (by decide)
          (composes.append (render value level)
            (composes.append (composes.separator level) (renderMembers second members level)))))
termination_by member members => sizeOf (member :: members)

end

end Composes

/-- The texts of values in ASCII have no end of a declaration. -/
theorem composes_inert (indent : Option Nat) : Composes ⟨true, indent⟩ Inert where
  append := Inert.append
  mark := by
    intro mark isMark
    refine inert_of_quiet (List.forall_mem_singleton.2 ?_)
    revert mark
    decide
  lineBreak level := by
    unfold Layout.lineBreak
    cases indent with
    | none => exact inert_of_quiet fun _ member => nomatch member
    | some width =>
      refine Inert.cons (inert_of_quiet fun blank member => ?_) (by decide)
      rw [List.eq_of_mem_replicate member]
      decide
  scalar {value} isScalar level := by
    cases value with
    | str text =>
      rw [render]
      exact inert_stringLiteral text
    | null => exact inert_of_quiet (by rw [render]; decide)
    | bool value => exact inert_of_quiet (by rw [render]; cases value <;> decide)
    | int value =>
      rw [render]
      exact inert_of_quiet fun character member => (still_integerText value character member).1
    | float value =>
      rw [render]
      exact inert_of_quiet fun character member => (still_floatText value character member).1
    | arr _ => cases isScalar
    | obj _ => cases isScalar

/-- A literal is inert whatever the texts of the value hold. -/
theorem inert_literal
    (value : Json)
    (indent : Option Nat) :
    Inert (value.literal indent).toList := by
  unfold literal text
  rw [String.toList_ofList]
  exact (composes_inert indent).render value 0

end Json
end BroadcastGraphics
