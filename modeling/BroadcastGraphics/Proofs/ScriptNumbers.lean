import BroadcastGraphics.Playout
import BroadcastGraphics.Proofs.NumberText
import BroadcastGraphics.Proofs.RecordWriting
import BroadcastGraphics.Proofs.WholeTime

/-!
# Numbers in live text and in scripts

Live text and scripts write a number with the same digits, the fewest that read back, but not in the same
notation.  An integer is written out in live text, while a script knows only the nearest number and
writes zeros for the digits that do not matter; and a small fraction goes over to scientific notation
at different exponents.  What is said here is exactly which numbers have one text.
-/

namespace BroadcastGraphics

open Json.Reader (AreDigits areDigits_decimalDigits areDigits_zeros signText toList_integerText
  toList_text_finite)

/-! ## Runs of digits -/

theorem digitsValue_cons
    (first : Char)
    (rest : List Char) :
    digitsValue (first :: rest) =
      (first.toNat - '0'.toNat) * 10 ^ rest.length + digitsValue rest := by
  rw [show first :: rest = [first] ++ rest from rfl, digitsValue_append]
  congr 2
  exact Nat.zero_add _

/-- Runs of digits of one length and one value are the same. -/
theorem eq_of_digitsValue_eq
    {first second : List Char}
    (firstDigits : AreDigits first)
    (secondDigits : AreDigits second)
    (sameLength : first.length = second.length)
    (sameValue : digitsValue first = digitsValue second) : first = second := by
  induction first generalizing second with
  | nil => exact (List.length_eq_zero_iff.1 sameLength.symm).symm
  | cons digit rest ih =>
    cases second with
    | nil => cases sameLength
    | cons other more =>
      have lengths : rest.length = more.length := Nat.succ.inj sameLength
      have restDigits : AreDigits rest := fun _ member => firstDigits _ (List.mem_cons_of_mem _ member)
      have moreDigits : AreDigits more := fun _ member => secondDigits _ (List.mem_cons_of_mem _ member)
      have restSmall := digitsValue_lt restDigits
      have moreSmall := digitsValue_lt moreDigits
      rw [digitsValue_cons, digitsValue_cons, ← lengths] at sameValue
      rw [← lengths] at moreSmall
      have digits : digit.toNat - '0'.toNat = other.toNat - '0'.toNat := by
        have quotients := congrArg (· / 10 ^ rest.length) sameValue
        have positive : 0 < 10 ^ rest.length := Nat.pow_pos (by decide)
        simpa only [Nat.mul_comm _ (10 ^ rest.length), Nat.mul_add_div positive,
          Nat.div_eq_of_lt restSmall, Nat.div_eq_of_lt moreSmall, Nat.add_zero] using quotients
      rw [digits, Nat.add_left_cancel_iff] at sameValue
      have digitLow : '0'.toNat ≤ digit.toNat := (firstDigits digit List.mem_cons_self).1
      have otherLow : '0'.toNat ≤ other.toNat := (secondDigits other List.mem_cons_self).1
      have same : digit = other := Char.toNat_inj.1 (by omega)
      rw [same, ih restDigits moreDigits lengths sameValue]

theorem ten_pow_le_digitsValue
    {digits : List Char}
    (areDigits : AreDigits digits)
    (nonempty : digits ≠ [])
    (noZero : digits.head? ≠ some '0') : 10 ^ (digits.length - 1) ≤ digitsValue digits := by
  cases digits with
  | nil => exact absurd rfl nonempty
  | cons first rest =>
    have low : '0'.toNat ≤ first.toNat := (areDigits first List.mem_cons_self).1
    have other : first.toNat ≠ '0'.toNat := fun same =>
      noZero (congrArg some (Char.toNat_inj.1 same))
    have positive : 1 ≤ first.toNat - '0'.toNat := by omega
    have scaled := Nat.mul_le_mul_right (10 ^ rest.length) positive
    rw [digitsValue_cons, List.length_cons, Nat.add_sub_cancel]
    omega

/-- Digits without a zero in front are the digits of their value. -/
theorem decimalDigits_digitsValue
    {digits : List Char}
    (areDigits : AreDigits digits)
    (nonempty : digits ≠ [])
    (noZero : digits.head? ≠ some '0') : decimalDigits (digitsValue digits) = digits := by
  have filled := List.length_pos_of_ne_nil nonempty
  have large := ten_pow_le_digitsValue areDigits nonempty noZero
  have upper := length_decimalDigits_le filled (digitsValue_lt areDigits)
  have lower : digits.length - 1 < (decimalDigits (digitsValue digits)).length :=
    (Nat.pow_lt_pow_iff_right (by decide)).1
      (Nat.lt_of_le_of_lt large (lt_ten_pow_length (digitsValue digits)))
  exact eq_of_digitsValue_eq (areDigits_decimalDigits _) areDigits (by omega)
    (digitsValue_decimalDigits _)

namespace Binary64

/-- A fraction of steps that reaches a magnitude is not rounded below it. -/
theorem magnitudeSteps_le_of_reached
    {sign negative : Bool}
    {numerator denominator top : Nat}
    {rank : Fin finiteMagnitudes}
    (reads : ofSteps sign numerator denominator = finite negative rank)
    (reached : magnitudeSteps top ≤ numerator / denominator) :
    magnitudeSteps top ≤ magnitudeSteps rank := by
  rw [ofSteps_eq] at reads
  split at reads
  · injection reads with _ sameRank
    rw [← sameRank]
    exact magnitudeSteps_strictMono.monotone (Nat.le_trans ((magnitudeSteps_le_iff _ _).1 reached)
      (floorRank_le_roundedRank numerator denominator))
  · cases reads

/-! ## Decimals without a fraction -/

/-- The decimal has no fraction and stands for an integer. -/
structure Decimal.IsInteger (decimal : Decimal) (value : Nat) : Prop where
  placed : (decimal.digits.length : Int) ≤ decimal.point
  counts : digitsValue decimal.digits * 10 ^ (decimal.point.toNat - decimal.digits.length) = value

section ReadsBack

variable {rank : Fin finiteMagnitudes} {decimal : Decimal} (readsBack : ReadsBack rank decimal)
include readsBack

/-- Digits without a fraction that read back as a magnitude are an integer nearest to which it is. -/
theorem ReadsBack.ofInt_eq
    {value : Nat}
    (integer : decimal.IsInteger value) : ofInt value = finite false rank := by
  obtain ⟨places, shifted, reads⟩ := readsBack.reads
  have placed := integer.placed
  have more : places = decimal.point.toNat - decimal.digits.length + finestPlaces := by
    unfold finestPlaces
    omega
  unfold ofInt
  rw [decide_eq_false (by omega), ← reads]
  refine ofSteps_congr false Nat.one_pos expansionUnit_pos ?_
  rw [Int.natAbs_natCast, Nat.mul_assoc, unitSteps_mul_expansionUnit, Nat.mul_one, more, Nat.pow_add,
    ← Nat.mul_assoc, integer.counts]

/-- The digits of a magnitude with zeros behind them are the digits of their value. -/
theorem ReadsBack.decimalDigits_eq
    {value : Nat}
    (integer : decimal.IsInteger value) :
    decimalDigits value =
      decimal.digits ++ List.replicate (decimal.point.toNat - decimal.digits.length) '0' := by
  by_cases zero : decimal.digits.head? = some '0'
  · obtain ⟨digits, point⟩ := readsBack.noZeroInFront zero
    rw [← integer.counts, digits, point]
    decide
  · have nonempty : decimal.digits ++
        List.replicate (decimal.point.toNat - decimal.digits.length) '0' ≠ [] := by
      simp [readsBack.nonempty]
    have areDigits := (show AreDigits decimal.digits from readsBack.areDigits).append
      (areDigits_zeros (decimal.point.toNat - decimal.digits.length))
    have whole := decimalDigits_digitsValue areDigits nonempty
      (by rwa [List.head?_append_of_ne_nil _ readsBack.nonempty])
    rwa [digitsValue_append, digitsValue_zeros, List.length_replicate, Nat.add_zero,
      integer.counts] at whole

theorem ReadsBack.length_pos : 0 < decimal.digits.length :=
  List.length_pos_of_ne_nil readsBack.nonempty

theorem ReadsBack.length_decimalDigits
    {value : Nat}
    (integer : decimal.IsInteger value) :
    ((decimalDigits value).length : Int) = decimal.point := by
  have placed := integer.placed
  have filled := readsBack.length_pos
  rw [readsBack.decimalDigits_eq integer, List.length_append, List.length_replicate]
  omega

/-- A script writes a decimal with the digits of an integer and nothing else just if the decimal is that
integer, below `10 ^ 21`. -/
theorem ReadsBack.scriptText_eq_iff
    (value : Nat) :
    decimal.scriptText = decimalDigits value ↔ decimal.IsInteger value ∧ value < 10 ^ 21 := by
  have filled := readsBack.length_pos
  constructor
  · intro same
    have areDigits := areDigits_decimalDigits value
    rw [← same] at areDigits
    unfold Decimal.scriptText at same areDigits
    dsimp only at same areDigits
    split at same
    · rename_i form
      rw [if_pos form] at areDigits
      refine ⟨⟨form.1, ?_⟩, ?_⟩
      · have values := congrArg digitsValue same
        rwa [digitsValue_append, digitsValue_zeros, List.length_replicate, Nat.add_zero,
          digitsValue_decimalDigits] at values
      · have lengths := congrArg List.length same
        rw [List.length_append, List.length_replicate] at lengths
        refine Nat.lt_of_lt_of_le (lt_ten_pow_length value) (Nat.pow_le_pow_right (by decide) ?_)
        omega
    · rename_i form
      rw [if_neg form] at areDigits
      exfalso
      split at areDigits
      · exact absurd (areDigits '.' (by simp)) (by decide)
      · split at areDigits
        · exact absurd (areDigits '.' (by simp)) (by decide)
        · exact absurd (areDigits 'e' (by simp)) (by decide)
  · rintro ⟨integer, small⟩
    have length := readsBack.length_decimalDigits integer
    have short := length_decimalDigits_le (by decide) small
    unfold Decimal.scriptText
    dsimp only
    rw [if_pos ⟨integer.placed, by omega⟩, readsBack.decimalDigits_eq integer]

end ReadsBack

/-! ## Integers -/

/-- An integer keeps its digits in a script: the fewest digits that read back as the number nearest to it
are its own, and it is not too large for positional notation. -/
structure KeepsDigits (value : Int) : Prop where
  nearest : ∃ rank, ofInt value = finite (value < 0) rank ∧
    (shortest rank).IsInteger value.natAbs
  short : value.natAbs < 10 ^ 21

theorem scriptText_finite
    (negative : Bool)
    (rank : Fin finiteMagnitudes) :
    (finite negative rank).scriptText =
      signText (negative && rank.val != 0) ++ (shortest rank).scriptText := by
  unfold scriptText signText
  dsimp only
  split <;> rfl

/-- An integer other than zero does not round to zero. -/
theorem rank_ne_zero_of_ofInt
    {value : Int}
    (nonzero : value ≠ 0)
    {negative : Bool}
    {rank : Fin finiteMagnitudes}
    (rounds : ofInt value = finite negative rank) : rank.val ≠ 0 := by
  have reached : magnitudeSteps 1 ≤ value.natAbs * unitSteps / 1 := by
    rw [Nat.div_one]
    exact Nat.mul_pos (Int.natAbs_pos.2 nonzero) unitSteps_pos
  have above := magnitudeSteps_le_of_reached rounds reached
  intro zero
  rw [zero] at above
  exact absurd above (by decide)

/-- The sign of the number nearest to an integer is that of the integer. -/
theorem ofInt_cases
    (value : Int) :
    (∃ rank, ofInt value = finite (value < 0) rank) ∨ ofInt value = infinite (value < 0) := by
  unfold ofInt
  rw [ofSteps_eq]
  split
  · exact Or.inl ⟨_, rfl⟩
  · exact Or.inr rfl

theorem scriptText_ofInt_iff
    (value : Int) :
    (ofInt value).scriptText = (integerText value).toList ↔ KeepsDigits value := by
  rw [toList_integerText]
  rcases ofInt_cases value with ⟨rank, rounds⟩ | beyond
  · have sign : (decide (value < 0) && rank.val != 0) = decide (value < 0) := by
      by_cases zero : value = 0
      · rw [zero]
        rfl
      · have nonzero := rank_ne_zero_of_ofInt zero rounds
        simp [nonzero]
    rw [rounds, scriptText_finite, sign, List.append_cancel_left_eq,
      (readsBack_shortest rank).scriptText_eq_iff]
    constructor
    · rintro ⟨integer, short⟩
      exact ⟨⟨rank, rounds, integer⟩, short⟩
    · rintro ⟨⟨other, otherRounds, integer⟩, short⟩
      cases rounds.symm.trans otherRounds
      exact ⟨integer, short⟩
  · rw [beyond]
    refine iff_of_false (fun same => ?_) fun keeps => ?_
    · have letter : 'I' ∈ (infinite (decide (value < 0))).scriptText := by
        cases decide (value < 0) <;> decide
      rw [same, List.mem_append] at letter
      rcases letter with sign | digit
      · revert sign
        cases decide (value < 0) <;> decide
      · exact absurd (areDigits_decimalDigits _ _ digit) (by decide)
    · obtain ⟨rank, rounds, _⟩ := keeps.nearest
      cases beyond.symm.trans rounds

theorem exists_whole?_iff
    {negative : Bool}
    {rank : Fin finiteMagnitudes} :
    (∃ value, (finite negative rank).whole? = some value) ↔ unitSteps ∣ magnitudeSteps rank := by
  constructor
  · rintro ⟨value, whole⟩
    have counted := Option.some.inj (whole?_eq_some_iff.1 whole)
    have absolute := congrArg Int.natAbs counted
    rw [Int.natAbs_mul, Int.natAbs_natCast, apply_ite Int.natAbs, Int.natAbs_neg, Int.natAbs_natCast,
      ite_self] at absolute
    exact ⟨value.natAbs, absolute.trans (Nat.mul_comm _ _)⟩
  · rintro ⟨count, units⟩
    refine ⟨if negative then -(count : Int) else count, whole?_eq_some_iff.2 (congrArg some ?_)⟩
    rw [units]
    split <;> push_cast <;> ring

theorem scriptText_withoutZeroSign
    (number : Binary64) : number.withoutZeroSign.scriptText = number.scriptText := by
  cases number with
  | finite negative rank =>
    rw [withoutZeroSign, scriptText_finite, scriptText_finite, Bool.and_assoc, Bool.and_self]
  | infinite negative => rfl
  | nan => rfl

/-- A number without a fraction has the text of the integer that it stands for. -/
theorem scriptText_of_whole
    {number : Binary64}
    {value : Int}
    (whole : number.whole? = some value) : number.scriptText = (ofInt value).scriptText := by
  rw [ofInt_of_whole? whole, scriptText_withoutZeroSign]

/-! ## Fractions -/

/-- Digits that read back as a magnitude below `2 ^ 53` stand for less than `10 ^ 16`. -/
theorem ReadsBack.point_le
    {rank : Fin finiteMagnitudes}
    {decimal : Decimal}
    (readsBack : ReadsBack rank decimal)
    (small : magnitudeSteps rank < 2 ^ 53 * unitSteps) : decimal.point ≤ 16 := by
  by_contra far
  obtain ⟨places, shifted, reads⟩ := readsBack.reads
  have filled := readsBack.length_pos
  have noZero : decimal.digits.head? ≠ some '0' := by
    intro zero
    obtain ⟨_, point⟩ := readsBack.noZeroInFront zero
    omega
  obtain ⟨top, units⟩ := exists_magnitudeSteps_eq_units (Nat.le_refl (2 ^ 53))
  have powers (grid : Nat) : 2 ^ 53 * grid ≤ 10 ^ 16 * grid :=
    Nat.mul_le_mul_right grid (by decide)
  have counted : 2 ^ 53 * unitSteps * expansionUnit ≤ digitsValue decimal.digits * 10 ^ places := by
    calc 2 ^ 53 * unitSteps * expansionUnit
        = 2 ^ 53 * 10 ^ finestPlaces := by rw [Nat.mul_assoc, unitSteps_mul_expansionUnit]
      _ ≤ 10 ^ 16 * 10 ^ finestPlaces := powers _
      _ = 10 ^ (16 + finestPlaces) := by rw [← Nat.pow_add]
      _ ≤ 10 ^ (decimal.digits.length - 1 + places) :=
          Nat.pow_le_pow_right (by decide) (by unfold finestPlaces; omega)
      _ = 10 ^ (decimal.digits.length - 1) * 10 ^ places := Nat.pow_add 10 _ _
      _ ≤ digitsValue decimal.digits * 10 ^ places := Nat.mul_le_mul_right _
          (ten_pow_le_digitsValue readsBack.areDigits readsBack.nonempty noZero)
  have reached : magnitudeSteps top ≤
      digitsValue decimal.digits * 10 ^ places / expansionUnit := by
    rw [units]
    exact (Nat.le_div_iff_mul_le expansionUnit_pos).2 counted
  have above := magnitudeSteps_le_of_reached reads reached
  rw [units] at above
  exact absurd small (Nat.not_lt.2 above)

section Notation

variable {decimal : Decimal}

theorem Decimal.text_scientific
    (small : decimal.point ≤ -4) :
    decimal.text .plain = pointedDigits decimal.digits ++ 'e' :: '-' ::
      (List.replicate (2 - (decimalDigits (decimal.point - 1).natAbs).length) '0' ++
        decimalDigits (decimal.point - 1).natAbs) := by
  have exponent : ¬ (-4 ≤ decimal.point - 1) := by omega
  have below : decimal.point - 1 < 0 := by omega
  unfold Decimal.text
  dsimp only
  rw [decide_eq_false exponent, Bool.false_and, if_neg Bool.false_ne_true, if_pos below,
    List.append_assoc, List.cons_append, List.cons_append]
  rfl

theorem Decimal.scriptText_scientific
    (small : decimal.point ≤ -6) :
    decimal.scriptText = pointedDigits decimal.digits ++ 'e' :: '-' ::
      decimalDigits (decimal.point - 1).natAbs := by
  unfold Decimal.scriptText
  dsimp only
  rw [if_neg (by omega), if_neg (by omega), if_neg (by omega), if_pos (by omega)]

/-- A fraction below one tenth in positional notation. -/
theorem Decimal.scriptText_below_one
    (filled : 0 < decimal.digits.length)
    (small : decimal.point ≤ 0)
    (near : -5 ≤ decimal.point) :
    decimal.scriptText =
      '0' :: '.' :: List.replicate decimal.point.natAbs '0' ++ decimal.digits := by
  unfold Decimal.scriptText
  dsimp only
  rw [if_neg (by omega), if_neg (by omega), if_pos (by omega)]

theorem length_decimalDigits_ge_two_iff
    (value : Nat) : 2 ≤ (decimalDigits value).length ↔ 10 ≤ value := by
  constructor
  · intro long
    by_contra small
    have := @length_decimalDigits_le value 1 Nat.one_pos (by omega)
    omega
  · intro large
    by_contra short
    have bound := lt_ten_pow_length value
    have power : 10 ^ (decimalDigits value).length ≤ 10 ^ 1 :=
      Nat.pow_le_pow_right (by decide) (by omega)
    omega

/-- A decimal with a fraction, below `10 ^ 16`, has one notation in live text and in scripts just if it is
at least `10 ^ (-4)`, where both are positional, or below `10 ^ (-9)`, where both are scientific and the
exponent has two digits. -/
theorem Decimal.scriptText_eq_text_iff
    (areDigits : AreDigits decimal.digits)
    (filled : 0 < decimal.digits.length)
    (fractional : decimal.point < decimal.digits.length)
    (small : decimal.point ≤ 16) :
    decimal.scriptText = decimal.text .plain ↔ -3 ≤ decimal.point ∨ decimal.point ≤ -9 := by
  by_cases positional : -3 ≤ decimal.point
  · refine iff_of_true ?_ (Or.inl positional)
    have range : (decide (-4 ≤ decimal.point - 1) &&
        decide (decimal.point - 1 < DigitForm.plain.positionalBelow)) = true := by
      rw [Bool.and_eq_true, decide_eq_true_eq, decide_eq_true_eq]
      exact ⟨by omega, show decimal.point - 1 < 16 by omega⟩
    unfold Decimal.text
    dsimp only
    rw [if_pos range]
    split
    · rename_i below
      exact scriptText_below_one filled below (by omega)
    · rename_i above
      have whole : (decimal.digits.take decimal.point.toNat).length = decimal.point.toNat :=
        List.length_take_of_le (by omega)
      have rest : decimal.digits.drop decimal.point.toNat ≠ [] := by
        rw [Ne, List.drop_eq_nil_iff]
        omega
      unfold Decimal.scriptText
      dsimp only
      rw [if_neg (by omega), if_pos (by omega), whole, Nat.sub_self, List.replicate_zero,
        List.append_nil, List.isEmpty_eq_false_iff.2 rest, if_neg Bool.false_ne_true]
  · by_cases near : -5 ≤ decimal.point
    · refine iff_of_false (fun same => ?_) (by omega)
      rw [scriptText_below_one filled (by omega) near, text_scientific (by omega)] at same
      have letter : 'e' ∈ '0' :: '.' :: List.replicate decimal.point.natAbs '0' ++ decimal.digits := by
        rw [same]
        simp
      have digit := (areDigits_zeros decimal.point.natAbs).append areDigits
      simp only [List.cons_append, List.mem_cons] at letter
      rcases letter with wrong | wrong | inDigits
      · exact absurd wrong (by decide)
      · exact absurd wrong (by decide)
      · exact absurd (digit 'e' inDigits) (by decide)
    · rw [scriptText_scientific (by omega), text_scientific (by omega), List.append_cancel_left_eq,
        List.cons_inj_right, List.cons_inj_right, List.self_eq_append_left, List.replicate_eq_nil_iff,
        Nat.sub_eq_zero_iff_le, length_decimalDigits_ge_two_iff]
      omega

end Notation

section Fraction

variable {negative : Bool} {rank : Fin finiteMagnitudes}
  (fraction : (finite negative rank).whole? = none)
include fraction

theorem not_dvd_of_fraction : ¬ unitSteps ∣ magnitudeSteps rank := by
  intro units
  obtain ⟨value, whole⟩ := (@exists_whole?_iff negative rank).2 units
  cases fraction.symm.trans whole

theorem lt_of_fraction : magnitudeSteps rank < 2 ^ 53 * unitSteps := by
  by_contra large
  exact not_dvd_of_fraction fraction (dvd_magnitudeSteps unitSteps_eq (Nat.not_lt.1 large))

theorem not_isInteger_of_fraction
    (value : Nat) : ¬ (shortest rank).IsInteger value := by
  intro integer
  have rounds := (readsBack_shortest rank).ofInt_eq integer
  have whole := @exists_whole?_ofInt value (rounds ▸ rfl)
  rw [rounds] at whole
  exact not_dvd_of_fraction fraction (exists_whole?_iff.1 whole)

/-- A fraction has one text in live text and in scripts just if it is at least `10 ^ (-4)` or below
`10 ^ (-9)`. -/
theorem scriptText_fraction_iff
    (names : SpecialNames) :
    (finite negative rank).scriptText = ((finite negative rank).text names).toList ↔
      -3 ≤ (shortest rank).point ∨ (shortest rank).point ≤ -9 := by
  have readsBack := readsBack_shortest rank
  have fractional : (shortest rank).point < (shortest rank).digits.length := by
    by_contra placed
    exact not_isInteger_of_fraction fraction _ ⟨Int.not_lt.1 placed, rfl⟩
  have nonzero : rank.val ≠ 0 := by
    intro zero
    refine not_dvd_of_fraction fraction ?_
    rw [zero, magnitudeSteps_zero]
    exact Nat.dvd_zero unitSteps
  have sign : (negative && rank.val != 0) = negative := by simp [nonzero]
  rw [scriptText_finite, toList_text_finite, sign, List.append_cancel_left_eq]
  exact Decimal.scriptText_eq_text_iff readsBack.areDigits readsBack.length_pos fractional
    (readsBack.point_le (lt_of_fraction fraction))

end Fraction

/-! ## Small integers -/

section Integer

variable {rank : Fin finiteMagnitudes} {count : Nat}
  (units : magnitudeSteps rank = count * unitSteps)
include units

theorem expansionOf_eq : expansionOf rank = count * 10 ^ finestPlaces := by
  unfold expansionOf
  rw [units, Nat.mul_assoc, unitSteps_mul_expansionUnit]

/-- An integer itself is found at the places of the unit. -/
theorem neighbourReadingBack?_integer :
    neighbourReadingBack? rank (expansionOf rank) finestPlaces = some count := by
  have reads : ofSteps false (count * 10 ^ finestPlaces) expansionUnit = finite false rank := by
    rw [← expansionOf_eq units]
    exact ofSteps_magnitudeSteps false rank expansionUnit_pos
  have positive : 0 < 10 ^ finestPlaces := Nat.pow_pos (by decide)
  unfold neighbourReadingBack?
  dsimp only
  rw [expansionOf_eq units, Nat.pow_eq, Nat.mul_div_cancel _ positive, Nat.mul_mod_left,
    Nat.mul_zero, decide_eq_true positive, Bool.true_or, if_pos rfl]
  exact List.find?_cons_of_pos (by rw [reads]; exact beq_self_eq_true _)

/-- So the search that starts there or above ends there or above. -/
theorem le_shortestFrom
    {start : Nat}
    (above : finestPlaces ≤ start) :
    finestPlaces ≤ (shortestFrom rank (expansionOf rank) start).2 := by
  induction start with
  | zero => exact absurd above (by decide)
  | succ dropped ih =>
    rw [shortestFrom]
    split
    · exact above
    · rename_i nothing
      rcases Nat.lt_or_eq_of_le above with higher | last
      · exact ih (Nat.le_of_lt_succ higher)
      · rw [← last, neighbourReadingBack?_integer units] at nothing
        cases nothing

/-- The digits of an integer have no fraction. -/
theorem placed_shortest :
    ((shortest rank).digits.length : Int) ≤ (shortest rank).point := by
  unfold shortest
  split
  · exact Int.le_refl 1
  · rename_i nonzero
    have positive : 0 < count := by
      refine Nat.pos_of_ne_zero fun none => nonzero (beq_iff_eq.2 ?_)
      rw [none, Nat.zero_mul, ← magnitudeSteps_zero] at units
      exact magnitudeSteps_strictMono.injective units
    have start : finestPlaces ≤ (decimalDigits (expansionOf rank)).length - 1 := by
      by_contra short
      have bound := lt_ten_pow_length (expansionOf rank)
      have power : 10 ^ (decimalDigits (expansionOf rank)).length ≤ 10 ^ finestPlaces :=
        Nat.pow_le_pow_right (by decide) (by omega)
      have least := Nat.le_mul_of_pos_left (10 ^ finestPlaces) positive
      rw [← expansionOf_eq units] at least
      exact absurd bound (Nat.not_lt.2 (power.trans least))
    have dropped := le_shortestFrom units start
    dsimp only
    generalize shortestFrom rank (expansionOf rank) _ = found at dropped ⊢
    obtain ⟨zeros, split⟩ := exists_trailing_zeros (decimalDigits found.1)
    have lengths := congrArg List.length split
    unfold Decimal.ofMultiple
    dsimp only
    rw [List.length_append, List.length_replicate] at lengths
    omega

end Integer

/-- An integer below `2 ^ 53` keeps its digits in a script. -/
theorem keepsDigits_of_small
    {value : Int}
    (small : value.natAbs < 2 ^ 53) : KeepsDigits value := by
  obtain ⟨rank, units, rounds⟩ := ofInt_eq_finite small.le
  have placed := placed_shortest units
  have read := (readsBack_shortest rank).ofInt_eq ⟨placed, rfl⟩
  refine ⟨⟨rank, rounds, placed, ?_⟩, Nat.lt_trans small (by decide)⟩
  generalize digitsValue (shortest rank).digits * _ = other at read ⊢
  -- The integer of the digits rounds as the value does, and up to here none is rounded to another.
  have exact : other ≤ 2 ^ 53 := by
    by_contra large
    obtain ⟨top, topUnits⟩ := exists_magnitudeSteps_eq_units (Nat.le_refl (2 ^ 53))
    have reached : magnitudeSteps top ≤ (other : Int).natAbs * unitSteps / 1 := by
      rw [topUnits, Nat.div_one, Int.natAbs_natCast]
      exact Nat.mul_le_mul_right _ (Nat.not_le.1 large).le
    have above := magnitudeSteps_le_of_reached read reached
    rw [topUnits, units] at above
    exact absurd small (Nat.not_lt.2 (Nat.le_of_mul_le_mul_right above unitSteps_pos))
  obtain ⟨same, otherUnits, otherRounds⟩ := @ofInt_eq_finite other (by omega)
  rw [decide_eq_false (by omega)] at otherRounds
  cases read.symm.trans otherRounds
  rw [units, Int.natAbs_natCast] at otherUnits
  exact (Nat.eq_of_mul_eq_mul_right unitSteps_pos otherUnits).symm

end Binary64
end BroadcastGraphics
