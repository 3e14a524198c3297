import BroadcastGraphics.Proofs.ComponentCache
import BroadcastGraphics.Proofs.JsonReading
import BroadcastGraphics.Proofs.WholeTime
import Mathlib.Data.List.TakeWhile

/-!
# Data that text carries

The names of fields and the whole numbers among the places of elements can be read back from every
text.  So can the integers that are read from texts, which have no more digits than a text may have;
nothing but an integer of its own that is longer keeps data from being read back from a text whose
characters stand for themselves.
-/

namespace BroadcastGraphics

/-! ## Digits -/

namespace Binary64

/-- A whole number among the numbers with a point is within their range. -/
theorem natAbs_lt_of_whole?
    {number : Binary64}
    {value : Int}
    (whole : number.whole? = some value) :
    value.natAbs < beyondSteps := by
  rw [whole?_eq_some_iff] at whole
  cases number with
  | infinite negative => cases whole
  | nan => cases whole
  | finite negative rank =>
    have within := magnitudeSteps_lt_beyondSteps rank
    have size : (value * (unitSteps : Int)).natAbs = magnitudeSteps rank := by
      rw [← Option.some.inj whole]
      cases negative <;> simp
    rw [Int.natAbs_mul, Int.natAbs_natCast] at size
    exact Nat.lt_of_le_of_lt (Nat.le_mul_of_pos_right _ unitSteps_pos) (size ▸ within)

end Binary64

namespace Check

/-- An integer is not longer than an integer may be if its digits and its sign are not. -/
theorem length_of_sized
    {value : Int}
    {digits : List Char}
    (negative : Bool)
    (sign : Nat)
    (short : (digits.head? != some '0' &&
      decide (longestInteger < sign + (digits.takeWhile isDigit).length)) = false)
    (wellFormed : (!digits.isEmpty && digits.all isDigit &&
      (digits.length == 1 || digits.head? != some '0')) = true)
    (same : (if negative then -(digitsValue digits : Int) else digitsValue digits) = value) :
    (decimalDigits value.natAbs).length ≤ longestInteger := by
  simp only [Bool.and_eq_true, Bool.not_eq_true', Bool.or_eq_true, beq_iff_eq, bne_iff_ne]
    at wellFormed
  obtain ⟨⟨nonempty, areDigits⟩, start⟩ := wellFormed
  have size : value.natAbs = digitsValue digits := by
    rw [← same]
    cases negative <;> simp
  have some : 0 < digits.length := by
    rw [List.isEmpty_eq_false_iff] at nonempty
    exact List.length_pos_of_ne_nil nonempty
  have small : digitsValue digits < 10 ^ digits.length := by
    refine digitsValue_lt fun digit member => ?_
    have isDigit := List.all_eq_true.1 areDigits digit member
    unfold Check.isDigit at isDigit
    simpa using isDigit
  have within : digits.length ≤ longestInteger := by
    rcases start with single | noZero
    · rw [single]
      decide
    · have whole : digits.takeWhile isDigit = digits :=
        List.takeWhile_eq_self_iff.2 (List.all_eq_true.1 areDigits)
      rw [whole] at short
      simp only [Bool.and_eq_false_iff, bne_eq_false_iff_eq, decide_eq_false_iff_not] at short
      rcases short with zero | short
      · exact absurd zero noZero
      · omega
  rw [size]
  exact Nat.le_trans (length_decimalDigits_le some small) within

/-- An integer in plain notation is not longer than an integer may be. -/
theorem length_of_plainInteger?
    {text : List Char}
    {value : Int}
    (fits : isOversized text = false)
    (read : plainInteger? text = some value) :
    (decimalDigits value.natAbs).length ≤ longestInteger := by
  by_cases signed : ∃ rest, text = '-' :: rest
  · obtain ⟨rest, rfl⟩ := signed
    obtain ⟨wellFormed, same⟩ := Option.ite_none_right_eq_some.1 read
    exact length_of_sized true 1 fits wellFormed (Option.some.inj same)
  · unfold plainInteger? at read
    unfold isOversized at fits
    split at fits
    rename_i oversized
    split at oversized
    · exact absurd ⟨_, rfl⟩ signed
    cases oversized
    split at read
    rename_i plain
    split at plain
    · exact absurd ⟨_, rfl⟩ signed
    cases plain
    obtain ⟨wellFormed, same⟩ := Option.ite_none_right_eq_some.1 read
    exact length_of_sized false 0 fits wellFormed (Option.some.inj same)

theorem length_of_integerOfText
    {text : String}
    {value : Int}
    (read : integerOfText text = .accepted value) :
    (decimalDigits value.natAbs).length ≤ longestInteger := by
  unfold integerOfText at read
  dsimp only at read
  split at read
  · cases read
  · rename_i fits
    split at read
    · rename_i plain
      cases read
      exact length_of_plainInteger? (Bool.eq_false_iff.2 fits) plain
    · split at read
      · unfold integerOfPlain at read
        split at read
        · cases read
        · rename_i fits
          split at read
          · rename_i plain
            cases read
            exact length_of_plainInteger? (Bool.eq_false_iff.2 fits) plain
          · cases read
      · cases read

end Check

/-! ## Standards -/

namespace Json

open Text.HalfPair (Carries Unpaired)

variable {asciiOnly : Bool}

/-- Characters of ASCII are no halves of pairs. -/
theorem unpaired_of_isPlain
    {text : String}
    (plain : IsPlain text) : Unpaired text.toList := by
  unfold IsPlain at plain
  generalize text.toList = characters at plain
  induction characters with
  | nil => trivial
  | cons first rest ih =>
    obtain ⟨small, others⟩ := List.forall_mem_cons.1 plain
    cases rest with
    | nil => trivial
    | cons second rest =>
      refine ⟨fun ⟨⟨unit, half, _⟩, _⟩ => ?_, ih others⟩
      have far := ((Text.HalfPair.unit?_eq_some_iff _ _).1 half).1
      unfold Text.HalfPair.offset at far
      omega

/-- Whatever records have of themselves can be read back from a text. -/
theorem Standard.basic_carried : (Standard.carried asciiOnly .standard).Basic where
  plain _ isPlain := fun _ => unpaired_of_isPlain isPlain
  small value near := by
    refine length_decimalDigits_le (by decide) (Nat.lt_of_le_of_lt near ?_)
    exact Nat.lt_of_lt_of_le (by decide) (Nat.pow_le_pow_right (by decide) (by decide : 4 ≤ 4300))
  whole number value isWhole := by
    have within : Binary64.beyondSteps ≤ 10 ^ Reader.Limits.standard.digits := by decide +kernel
    exact length_decimalDigits_le (by decide)
      (Nat.lt_of_lt_of_le (Binary64.natAbs_lt_of_whole? isWhole) within)

/-- So can whatever is made from values that a text of characters for themselves carries. -/
theorem Standard.closed_carried : (Standard.carried false .standard).Closed where
  toBasic := basic_carried
  single _ _ _ _ := nofun
  shown _ _ := nofun
  named name _ := by
    unfold Name.toJson
    have asText : (Json.str name).Meets (.carried false .standard) := (meets_str _).2 nofun
    split
    · split
      · rename_i rest _ _
        cases read : parse (String.ofList rest) with
        | error fault => exact asText
        | ok value =>
          cases scalar : value.isScalar with
          | false => simpa [Except.toOption, Option.filter, scalar] using asText
          | true => simpa [Except.toOption, Option.filter, scalar] using meets_of_parse read
      · exact asText
    · exact asText
  read value number meets read := by
    cases value with
    | null => cases read
    | arr _ => cases read
    | obj _ => cases read
    | int value => exact Checked.accepted.inj read ▸ (meets_int _).1 meets
    | bool value =>
      refine basic_carried.small number ?_
      rw [← Checked.accepted.inj read]
      cases value <;> decide
    | float value =>
      unfold Check.integer at read
      dsimp only at read
      split at read
      · cases read
      · split at read
        · rename_i isWhole
          split at read
          · cases read
            exact basic_carried.whole _ _ isWhole
          · cases read
        · cases read
    | str text =>
      change Check.reading Check.integerOfText text = _ at read
      unfold Check.reading at read
      split at read
      · cases read
      · exact Check.length_of_integerOfText read

end Json
end BroadcastGraphics
