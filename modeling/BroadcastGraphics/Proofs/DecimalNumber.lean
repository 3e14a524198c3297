import BroadcastGraphics.Proofs.FreshNames
import BroadcastGraphics.Proofs.Rounding

/-!
# Decimals read back

Rounding depends on a fraction of steps and not on how the fraction is written.  So a decimal is
read as the number nearest to it, also where the reader decides by size alone, and the digits that
are chosen for a number are read as that number.
-/

namespace BroadcastGraphics

/-! ## Digits -/

theorem digitsValue_append
    (first second : List Char) :
    digitsValue (first ++ second) = digitsValue first * 10 ^ second.length + digitsValue second := by
  simp only [digitsValue_eq_ofDigitChars]
  rw [Nat.ofDigitChars_append, Nat.ofDigitChars_eq_ofDigitChars_zero, Nat.mul_comm]

theorem digitsValue_zeros
    (count : Nat) :
    digitsValue (List.replicate count '0') = 0 := by
  rw [digitsValue_eq_ofDigitChars, Nat.ofDigitChars_replicate_zero, Nat.mul_zero]

theorem decimalDigits_ne_nil
    (value : Nat) :
    decimalDigits value ≠ [] :=
  Nat.toDigits_ne_nil

/-- A number has as many digits as powers of ten below it say. -/
theorem ten_pow_le_of_length
    {value : Nat}
    (positive : 0 < value) :
    10 ^ ((decimalDigits value).length - 1) ≤ value := by
  by_contra below
  have shorter := Nat.lt_of_not_le below
  have some := List.length_pos_of_ne_nil (decimalDigits_ne_nil value)
  by_cases single : (decimalDigits value).length - 1 = 0
  · rw [single] at shorter
    omega
  · have := (Nat.length_toDigits_le_iff (by decide) (Nat.pos_of_ne_zero single)).mpr shorter
    unfold decimalDigits at some
    unfold decimalDigits at this
    omega

theorem lt_ten_pow_length
    (value : Nat) :
    value < 10 ^ (decimalDigits value).length :=
  (Nat.length_toDigits_le_iff (by decide) (List.length_pos_of_ne_nil (decimalDigits_ne_nil value))).mp
    (Nat.le_refl _)

/-- A number below a power of ten has no more digits than the power says. -/
theorem length_decimalDigits_le
    {value count : Nat}
    (some : 0 < count)
    (small : value < 10 ^ count) :
    (decimalDigits value).length ≤ count :=
  (Nat.length_toDigits_le_iff (by decide) some).mpr small

/-- A decimal digit of a number is one of the ten characters. -/
theorem digit_of_mem_decimalDigits
    {value : Nat}
    {digit : Char}
    (member : digit ∈ decimalDigits value) :
    '0' ≤ digit ∧ digit ≤ '9' := by
  have isDigit := Nat.isDigit_of_mem_toDigits (by decide) (Nat.le_refl 10) member
  unfold Char.isDigit at isDigit
  rw [Bool.and_eq_true, decide_eq_true_eq, decide_eq_true_eq] at isDigit
  exact isDigit

/-- Digits are worth less than the next power of ten. -/
theorem digitsValue_lt
    {digits : List Char}
    (areDigits : ∀ digit ∈ digits, '0' ≤ digit ∧ digit ≤ '9') :
    digitsValue digits < 10 ^ digits.length := by
  induction digits with
  | nil => exact Nat.one_pos
  | cons first rest ih =>
    have restSmall := ih fun digit member => areDigits digit (List.mem_cons_of_mem _ member)
    have single : digitsValue [first] ≤ 9 := by
      have top : first.toNat ≤ '9'.toNat := (areDigits first List.mem_cons_self).2
      change 10 * 0 + (first.toNat - '0'.toNat) ≤ 9
      change first.toNat ≤ 57 at top
      change 10 * 0 + (first.toNat - 48) ≤ 9
      omega
    have scaled := Nat.mul_le_mul_right (10 ^ rest.length) single
    rw [show first :: rest = [first] ++ rest from rfl, digitsValue_append, List.length_append,
      List.length_singleton, Nat.add_comm 1, Nat.pow_succ]
    omega

/-- The digits of a number above zero do not start with a zero. -/
theorem head?_decimalDigits_ne_zero
    {value : Nat}
    (positive : 0 < value) :
    (decimalDigits value).head? ≠ some '0' := by
  intro startsWithZero
  obtain ⟨rest, split⟩ := List.head?_eq_some_iff.mp startsWithZero
  have areDigits : ∀ digit ∈ rest, '0' ≤ digit ∧ digit ≤ '9' := by
    intro digit member
    refine @digit_of_mem_decimalDigits value _ ?_
    rw [split]
    exact List.mem_cons_of_mem _ member
  have small := digitsValue_lt areDigits
  have large := ten_pow_le_of_length positive
  have sameValue : digitsValue rest = value := by
    have whole := digitsValue_decimalDigits value
    rw [split, show '0' :: rest = List.replicate 1 '0' ++ rest from rfl, digitsValue_append,
      digitsValue_zeros, Nat.zero_mul, Nat.zero_add] at whole
    exact whole
  rw [split, List.length_cons, Nat.add_sub_cancel] at large
  omega

/-- A run of digits without the zeros at its end. -/
theorem exists_trailing_zeros
    (digits : List Char) :
    ∃ zeros, digits =
      (digits.reverse.dropWhile (· == '0')).reverse ++ List.replicate zeros '0' := by
  refine ⟨(digits.reverse.takeWhile (· == '0')).length, ?_⟩
  have allZeros : (digits.reverse.takeWhile (· == '0')).reverse =
      List.replicate (digits.reverse.takeWhile (· == '0')).length '0' := by
    rw [List.eq_replicate_iff, List.length_reverse]
    refine ⟨rfl, fun digit member => ?_⟩
    have isZero := List.all_eq_true.mp List.all_takeWhile digit (List.mem_reverse.mp member)
    exact eq_of_beq isZero
  rw [← allZeros, ← List.reverse_append, List.takeWhile_append_dropWhile, List.reverse_reverse]

/-! ## Fractions of steps -/

theorem roundHalfEven_mul
    (numerator denominator : Nat)
    {factor : Nat}
    (positive : 0 < factor) :
    roundHalfEven (numerator * factor) (denominator * factor) =
      roundHalfEven numerator denominator := by
  unfold roundHalfEven
  rw [Nat.mul_div_mul_right _ _ positive, Nat.mul_mod_mul_right, ← Nat.mul_assoc]
  simp only [Nat.mul_lt_mul_right positive]

namespace Binary64

theorem roundedRank_mul
    (numerator denominator : Nat)
    {factor : Nat}
    (positive : 0 < factor) :
    roundedRank (numerator * factor) (denominator * factor) = roundedRank numerator denominator := by
  unfold roundedRank
  rw [Nat.mul_div_mul_right _ _ positive, Nat.mul_right_comm denominator factor,
    roundHalfEven_mul _ _ positive]

/-- Rounding does not depend on how a fraction is written. -/
theorem ofSteps_congr
    (negative : Bool)
    {numerator denominator otherNumerator otherDenominator : Nat}
    (positive : 0 < denominator)
    (otherPositive : 0 < otherDenominator)
    (same : numerator * otherDenominator = otherNumerator * denominator) :
    ofSteps negative numerator denominator = ofSteps negative otherNumerator otherDenominator := by
  have sameRank : roundedRank numerator denominator =
      roundedRank otherNumerator otherDenominator := by
    rw [← roundedRank_mul numerator denominator otherPositive, same, Nat.mul_comm denominator,
      roundedRank_mul _ _ positive]
  simp only [ofSteps_eq, sameRank]

/-- The sign does not take part in rounding. -/
theorem ofSteps_eq_finite_of_false
    {numerator denominator : Nat}
    {rank : Fin finiteMagnitudes}
    (negative : Bool)
    (reads : ofSteps false numerator denominator = finite false rank) :
    ofSteps negative numerator denominator = finite negative rank := by
  rw [ofSteps_eq] at reads ⊢
  split at reads
  · rename_i inside
    rw [dif_pos inside]
    injection reads with _ sameRank
    rw [sameRank]
  · cases reads

theorem ofSteps_zero
    (negative : Bool)
    {denominator : Nat}
    (positive : 0 < denominator) :
    ofSteps negative 0 denominator = finite negative ⟨0, by decide⟩ := by
  have zeroRank := ofSteps_magnitudeSteps negative ⟨0, by decide⟩ positive
  rw [magnitudeSteps_zero, Nat.zero_mul] at zeroRank
  exact zeroRank

/-! ## Reading decimals -/

theorem expansionUnit_pos : 0 < expansionUnit := by
  unfold expansionUnit
  exact Nat.pow_pos (Nat.succ_pos 4)

theorem two_pow_mul_five_pow
    (exponent : Nat) :
    2 ^ exponent * 5 ^ exponent = 10 ^ exponent := by
  rw [← Nat.mul_pow]

theorem unitSteps_eq : unitSteps = 2 ^ finestPlaces := by
  unfold unitSteps finestPlaces
  rfl

theorem unitSteps_mul_expansionUnit : unitSteps * expansionUnit = 10 ^ finestPlaces := by
  rw [unitSteps_eq]
  unfold expansionUnit
  rw [Nat.pow_eq, two_pow_mul_five_pow]

/-- A fraction of many digits before the point lies beyond all magnitudes. -/
theorem ofSteps_of_large
    (negative : Bool)
    {digits places : Nat}
    (positive : 0 < digits)
    (large : 1384 < places + (decimalDigits digits).length) :
    ofSteps negative (digits * 10 ^ places) expansionUnit = infinite negative := by
  have beyond : beyondSteps * expansionUnit ≤ 10 ^ (310 + finestPlaces) := by
    have powers : 2 ^ 1024 ≤ 10 ^ 310 := by decide +kernel
    calc beyondSteps * expansionUnit
        = 2 ^ 1024 * (unitSteps * expansionUnit) := by
          unfold beyondSteps unitSteps
          rw [Nat.pow_eq, Nat.pow_eq, ← Nat.mul_assoc, ← Nat.pow_add]
      _ ≤ 10 ^ 310 * (unitSteps * expansionUnit) := Nat.mul_le_mul_right _ powers
      _ = 10 ^ (310 + finestPlaces) := by rw [unitSteps_mul_expansionUnit, ← Nat.pow_add]
  have reached : 10 ^ (310 + finestPlaces) ≤ digits * 10 ^ places := by
    refine Nat.le_trans ?_ (Nat.mul_le_mul_right _ (ten_pow_le_of_length positive))
    rw [← Nat.pow_add]
    exact Nat.pow_le_pow_right (by decide) (by unfold finestPlaces; omega)
  have outside : finiteMagnitudes ≤ roundedRank (digits * 10 ^ places) expansionUnit := by
    refine Nat.le_trans ?_ (floorRank_le_roundedRank _ _)
    rw [← magnitudeSteps_le_iff, magnitudeSteps_finiteMagnitudes,
      Nat.le_div_iff_mul_le expansionUnit_pos]
    exact Nat.le_trans beyond reached
  rw [ofSteps_eq, dif_neg (Nat.not_lt_of_le outside)]

/-- A fraction of many zeros behind the point is nearest to zero. -/
theorem ofSteps_of_small
    (negative : Bool)
    {digits places : Nat}
    (small : places + (decimalDigits digits).length < 744) :
    ofSteps negative (digits * 10 ^ places) expansionUnit = finite negative ⟨0, by decide⟩ := by
  have below : 2 * (digits * 10 ^ places) < expansionUnit := by
    have powers : 2 * 10 ^ 743 < expansionUnit := by decide +kernel
    refine Nat.lt_of_le_of_lt (Nat.mul_le_mul_left 2 ?_) powers
    refine Nat.le_trans (Nat.mul_le_mul_right _ (Nat.le_of_lt (lt_ten_pow_length digits))) ?_
    rw [← Nat.pow_add]
    exact Nat.pow_le_pow_right (by decide) (by omega)
  have quotient : digits * 10 ^ places / expansionUnit = 0 := Nat.div_eq_of_lt (by omega)
  have rounded : roundedRank (digits * 10 ^ places) expansionUnit = 0 := by
    unfold roundedRank roundHalfEven
    rw [quotient, show stepsScale 0 = 0 by decide, Nat.pow_zero, Nat.mul_one, quotient,
      Nat.mod_eq_of_lt (by omega)]
    simp only [if_pos below, Nat.zero_mul]
  rw [ofSteps_eq, dif_pos (by rw [rounded]; decide)]
  exact congrArg (finite negative) (Fin.ext rounded)

/-- A decimal is read as the number nearest to it: where size alone decides, it decides so. -/
theorem ofDecimal_eq_ofSteps
    (negative : Bool)
    (digits places : Nat)
    {exponent : Int}
    (shifted : exponent + 1074 = places) :
    ofDecimal negative digits exponent = ofSteps negative (digits * 10 ^ places) expansionUnit := by
  unfold ofDecimal
  by_cases none : digits = 0
  · subst none
    have nothing := congrArg (ofSteps negative · expansionUnit) (Nat.zero_mul (10 ^ places))
    exact ((ofSteps_zero negative expansionUnit_pos).symm.trans nothing.symm)
  · rw [if_neg (by rwa [beq_iff_eq])]
    have positive := Nat.pos_of_ne_zero none
    simp only
    split
    · exact (ofSteps_of_large negative positive (by omega)).symm
    split
    · exact (ofSteps_of_small negative (by omega)).symm
    split
    · have more : places = exponent.toNat + finestPlaces := by unfold finestPlaces; omega
      refine ofSteps_congr negative Nat.one_pos expansionUnit_pos ?_
      rw [Nat.pow_eq, more, Nat.pow_add, ← unitSteps_mul_expansionUnit]
      ring
    · have fewer : exponent.natAbs + places = finestPlaces := by unfold finestPlaces; omega
      refine ofSteps_congr negative (Nat.pow_pos (by decide)) expansionUnit_pos ?_
      rw [Nat.pow_eq, Nat.mul_assoc, unitSteps_mul_expansionUnit, ← fewer, Nat.pow_add]
      ring

/-! ## The digits that are chosen -/

/-- A neighbour that is chosen reads back. -/
theorem neighbourReadingBack?_reads
    {rank : Fin finiteMagnitudes}
    {expansion dropped multiple : Nat}
    (chosen : neighbourReadingBack? rank expansion dropped = some multiple) :
    ofSteps false (multiple * 10 ^ dropped) expansionUnit = finite false rank := by
  have readsBack := List.find?_some chosen
  rw [Nat.pow_eq, ofSteps_eq] at readsBack
  rw [ofSteps_eq]
  split
  · rename_i inside
    rw [dif_pos inside] at readsBack
    exact congrArg (finite false) (Fin.ext (eq_of_beq readsBack))
  · rename_i outside
    rw [dif_neg outside] at readsBack
    cases readsBack

/-- The search ends at digits that read back, at the latest at the exact expansion. -/
theorem shortestFrom_reads
    {rank : Fin finiteMagnitudes}
    {expansion : Nat}
    (exact : ofSteps false expansion expansionUnit = finite false rank)
    (dropped : Nat) :
    ofSteps false ((shortestFrom rank expansion dropped).1 *
      10 ^ (shortestFrom rank expansion dropped).2) expansionUnit = finite false rank := by
  induction dropped with
  | zero =>
    rw [shortestFrom, Nat.pow_zero, Nat.mul_one]
    exact exact
  | succ dropped ih =>
    rw [shortestFrom]
    split
    · rename_i multiple chosen
      exact neighbourReadingBack?_reads chosen
    · exact ih

/-- The digits that are written for a magnitude: they are digits, without a zero in front or behind
unless it stands alone, and their value reads back as the magnitude. -/
structure ReadsBack (rank : Fin finiteMagnitudes) (decimal : Decimal) : Prop where
  nonempty : decimal.digits ≠ []
  areDigits : ∀ digit ∈ decimal.digits, '0' ≤ digit ∧ digit ≤ '9'
  noZeroInFront : decimal.digits.head? = some '0' -> decimal.digits = ['0'] ∧ decimal.point = 1
  reads : ∃ places : Nat, decimal.point - decimal.digits.length + 1074 = places ∧
    ofSteps false (digitsValue decimal.digits * 10 ^ places) expansionUnit = finite false rank

theorem ReadsBack.ofMultiple
    {rank : Fin finiteMagnitudes}
    {multiple dropped : Nat}
    (nonzero : rank.val ≠ 0)
    (reads : ofSteps false (multiple * 10 ^ dropped) expansionUnit = finite false rank) :
    ReadsBack rank (Decimal.ofMultiple multiple dropped) := by
  have positive : 0 < multiple := by
    refine Nat.pos_of_ne_zero fun none => nonzero ?_
    rw [none, Nat.zero_mul, ofSteps_zero false expansionUnit_pos] at reads
    injection reads with _ sameRank
    exact (Fin.ext_iff.mp sameRank).symm
  obtain ⟨zeros, split⟩ := exists_trailing_zeros (decimalDigits multiple)
  unfold Decimal.ofMultiple
  simp only
  generalize ((decimalDigits multiple).reverse.dropWhile (· == '0')).reverse = kept at split ⊢
  have value : multiple = digitsValue kept * 10 ^ zeros := by
    have whole := digitsValue_decimalDigits multiple
    rw [split, digitsValue_append, digitsValue_zeros, List.length_replicate, Nat.add_zero] at whole
    exact whole.symm
  have nonempty : kept ≠ [] := by
    rintro rfl
    rw [show digitsValue [] = 0 from rfl, Nat.zero_mul] at value
    omega
  have noZero : kept.head? ≠ some '0' := by
    intro startsWithZero
    refine head?_decimalDigits_ne_zero positive ?_
    rw [split, List.head?_append_of_ne_nil kept nonempty]
    exact startsWithZero
  refine ⟨nonempty, fun digit member => ?_, fun isZero => absurd isZero noZero, zeros + dropped,
    ?_, ?_⟩
  · refine @digit_of_mem_decimalDigits multiple _ ?_
    rw [split]
    exact List.mem_append_left _ member
  · rw [split, List.length_append, List.length_replicate]
    push_cast
    unfold finestPlaces
    ring
  · rw [Nat.pow_add, ← Nat.mul_assoc, ← value]
    exact reads

theorem readsBack_shortest
    (rank : Fin finiteMagnitudes) :
    ReadsBack rank (shortest rank) := by
  unfold shortest
  by_cases zeroRank : rank.val = 0
  · rw [if_pos (beq_iff_eq.mpr zeroRank)]
    refine ⟨List.cons_ne_nil _ _, by decide, fun _ => ⟨rfl, rfl⟩, finestPlaces, rfl, ?_⟩
    rw [show digitsValue ['0'] = 0 from rfl, Nat.zero_mul, ofSteps_zero false expansionUnit_pos]
    exact congrArg (finite false) (Fin.ext zeroRank.symm)
  · rw [if_neg (by rwa [beq_iff_eq])]
    exact ReadsBack.ofMultiple zeroRank
      (shortestFrom_reads (ofSteps_magnitudeSteps false rank expansionUnit_pos) _)

/-- Digits that read back, with zeros behind them, are read as the number. -/
theorem ReadsBack.ofDecimal_eq
    {rank : Fin finiteMagnitudes}
    {decimal : Decimal}
    (readsBack : ReadsBack rank decimal)
    (negative : Bool)
    {zeros : Nat}
    {exponent : Int}
    (placed : exponent + zeros = decimal.point - decimal.digits.length)
    (fine : -1074 ≤ exponent) :
    ofDecimal negative (digitsValue decimal.digits * 10 ^ zeros) exponent =
      finite negative rank := by
  obtain ⟨places, shifted, reads⟩ := readsBack.reads
  obtain ⟨shift, shiftEq⟩ := Int.eq_ofNat_of_zero_le (show 0 ≤ exponent + 1074 by omega)
  have sum : zeros + shift = places := by omega
  rw [ofDecimal_eq_ofSteps negative _ shift shiftEq, Nat.mul_assoc, ← Nat.pow_add, sum]
  exact ofSteps_eq_finite_of_false negative reads

end Binary64
end BroadcastGraphics
