import BroadcastGraphics.Proofs.ClockReading

/-!
# Whole times

A clock can be moved back as well as on, so its times have either sign.  Among the whole numbers of
milliseconds up to `2 ^ 53` times and sums of times are exact.  A sum beyond them is rounded, but it
stays beyond them; so a time that the clock has not reached is not reached by its rounding either,
as long as the clock reads less than `2 ^ 53`.  Wherever a clock stands, moving it on does not move
it back.
-/

namespace BroadcastGraphics
namespace Binary64

/-- A number stands for a whole number exactly if it counts that many units. -/
theorem whole?_eq_some_iff
    {number : Binary64}
    {value : Int} :
    number.whole? = some value ↔ number.steps? = some (value * unitSteps) := by
  have positive : (unitSteps : Int) ≠ 0 := by
    have := unitSteps_pos
    omega
  unfold whole?
  cases number.steps? with
  | none => exact ⟨fun whole => (nomatch whole), fun counted => (nomatch counted)⟩
  | some steps =>
    simp only [Option.some.injEq, Option.ite_none_right_eq_some, beq_iff_eq]
    constructor
    · rintro ⟨divisible, rfl⟩
      exact (Int.ediv_mul_cancel (Int.dvd_of_emod_eq_zero divisible)).symm
    · rintro rfl
      exact ⟨Int.mul_emod_left _ _, Int.mul_ediv_cancel _ positive⟩

theorem order?_of_steps?
    {number : Binary64}
    {steps : Int}
    (counted : number.steps? = some steps) :
    number.order? = some steps := by
  cases number with
  | finite negative rank => exact counted
  | infinite negative => cases counted
  | nan => cases counted

/-! ## Sums -/

/-- A whole number of units up to `2 ^ 53` is rounded to itself. -/
theorem steps?_ofSteps_units
    {value : Int}
    (small : value.natAbs ≤ 2 ^ 53) :
    (ofSteps (value * unitSteps < 0) (value * unitSteps).natAbs 1).steps? =
      some (value * unitSteps) := by
  obtain ⟨rank, magnitude⟩ := exists_magnitudeSteps_eq_units small
  have absolute : (value * unitSteps).natAbs = magnitudeSteps rank * 1 := by
    rw [magnitude, Int.natAbs_mul, Int.natAbs_natCast, Nat.mul_one]
  rw [absolute, ofSteps_magnitudeSteps _ rank (Nat.lt_succ_self 0)]
  simp only [steps?, Option.some.injEq, decide_eq_true_eq]
  rw [Nat.mul_one] at absolute
  split <;> omega

/-- A number that counts steps is a finite one. -/
theorem exists_finite_of_steps?
    {number : Binary64}
    {count : Int}
    (counted : number.steps? = some count) :
    ∃ negative rank, number = .finite negative rank := by
  cases number with
  | nan => cases counted
  | infinite negative => cases counted
  | finite negative rank => exact ⟨negative, rank, rfl⟩

/-- The sum of two finite numbers is the rounded sum of their steps. -/
theorem add_of_steps?
    {left right : Binary64}
    {leftSteps rightSteps : Int}
    (leftCounted : left.steps? = some leftSteps)
    (rightCounted : right.steps? = some rightSteps)
    (nonzero : leftSteps + rightSteps ≠ 0) :
    left.add right =
      ofSteps (leftSteps + rightSteps < 0) (leftSteps + rightSteps).natAbs 1 := by
  obtain ⟨leftSign, leftRank, rfl⟩ := exists_finite_of_steps? leftCounted
  obtain ⟨rightSign, rightRank, rfl⟩ := exists_finite_of_steps? rightCounted
  unfold add
  simp only [leftCounted, rightCounted, Option.getD_some]
  exact if_neg (by simpa using nonzero)

theorem steps?_add_of_cancel
    {left right : Binary64}
    {leftSteps rightSteps : Int}
    (leftCounted : left.steps? = some leftSteps)
    (rightCounted : right.steps? = some rightSteps)
    (nothing : leftSteps + rightSteps = 0) :
    (left.add right).steps? = some 0 := by
  obtain ⟨leftSign, leftRank, rfl⟩ := exists_finite_of_steps? leftCounted
  obtain ⟨rightSign, rightRank, rfl⟩ := exists_finite_of_steps? rightCounted
  unfold add
  simp only [leftCounted, rightCounted, Option.getD_some, nothing, beq_self_eq_true, if_true]
  simp [steps?]

/-- The sum of whole numbers is exact up to `2 ^ 53`. -/
theorem whole?_add
    {left right : Binary64}
    {value more : Int}
    (whole : left.whole? = some value)
    (others : right.whole? = some more)
    (small : (value + more).natAbs ≤ 2 ^ 53) :
    (left.add right).whole? = some (value + more) := by
  rw [whole?_eq_some_iff] at whole others ⊢
  have sum : value * (unitSteps : Int) + more * unitSteps = (value + more) * unitSteps :=
    (Int.add_mul _ _ _).symm
  by_cases nothing : value * (unitSteps : Int) + more * unitSteps = 0
  · rw [steps?_add_of_cancel whole others nothing, ← sum, nothing]
  · rw [add_of_steps? whole others nothing, sum, steps?_ofSteps_units small]

/-- The sum of whole numbers beyond `2 ^ 53` is rounded to a number beyond it. -/
theorem le_order?_add
    {left right : Binary64}
    {value more : Int}
    (whole : left.whole? = some value)
    (others : right.whole? = some more)
    (large : 2 ^ 53 ≤ value + more) :
    ∃ place, (left.add right).order? = some place ∧ 2 ^ 53 * (unitSteps : Int) ≤ place := by
  rw [whole?_eq_some_iff] at whole others
  have sum : value * (unitSteps : Int) + more * unitSteps = (value + more) * unitSteps :=
    (Int.add_mul _ _ _).symm
  have positive : (0 : Int) < unitSteps := by
    have := unitSteps_pos
    omega
  have reaches : 2 ^ 53 * (unitSteps : Int) ≤ (value + more) * unitSteps :=
    Int.mul_le_mul_of_nonneg_right large (Int.le_of_lt positive)
  have above : 0 < (value + more) * (unitSteps : Int) := Int.mul_pos (by omega) positive
  obtain ⟨rank, magnitude⟩ := exists_magnitudeSteps_eq_units (Nat.le_refl (2 ^ 53))
  have reached : magnitudeSteps rank ≤ ((value + more) * (unitSteps : Int)).natAbs := by
    rw [magnitude]
    zify
    rw [abs_of_pos above]
    exact reaches
  obtain ⟨reading, beyond⟩ := ofSteps_isReading reached
  rw [add_of_steps? whole others (by omega), sum, decide_eq_false (by omega)]
  refine ⟨_, reading.order?_eq, ?_⟩
  rw [magnitude] at beyond
  exact_mod_cast beyond

/-! ## Delays -/

/-- A magnitude from `2 ^ 53` times a power of two on is a multiple of that power. -/
theorem dvd_magnitudeSteps
    {rank unit exponent : Nat}
    (power : unit = 2 ^ exponent)
    (large : 2 ^ 53 * unit ≤ magnitudeSteps rank) :
    unit ∣ magnitudeSteps rank := by
  subst power
  have first : magnitudeSteps (exponent * 2 ^ 52 + 2 ^ 53) = 2 ^ 53 * 2 ^ exponent :=
    magnitudeSteps_scaled (Nat.le_refl _) (Or.inr (by decide))
  rw [← first, magnitudeSteps_strictMono.le_iff_le] at large
  obtain ⟨count, small, normal, scaled⟩ := exists_scaled rank
  have coarse : exponent ≤ rankScale rank := by omega
  rw [scaled, magnitudeSteps_scaled (Nat.le_of_lt small) normal]
  exact Nat.dvd_mul_left_of_dvd (Nat.pow_dvd_pow 2 coarse) count

/-- The number nearest to an integer has no fraction. -/
theorem exists_whole?_ofInt
    {value : Int}
    (inside : (ofInt value).isFinite = true) :
    ∃ whole, (ofInt value).whole? = some whole := by
  by_cases small : value.natAbs ≤ 2 ^ 53
  · obtain ⟨rank, magnitude, found⟩ := ofInt_eq_finite small
    refine ⟨value, whole?_eq_some_iff.mpr ?_⟩
    rw [found]
    simp only [steps?, Option.some.injEq, decide_eq_true_eq, magnitude]
    push_cast
    split
    · rename_i negative
      rw [abs_of_neg negative]
      ring
    · rename_i positive
      rw [abs_of_nonneg (Int.not_lt.mp positive)]
  · have counted := steps?_isSome (ofInt value)
    have floor := floorRank_le_roundedRank (value.natAbs * unitSteps) 1
    obtain ⟨rank, magnitude⟩ := exists_magnitudeSteps_eq_units (Nat.le_refl (2 ^ 53))
    have reached : magnitudeSteps rank ≤ value.natAbs * unitSteps := by
      rw [magnitude]
      exact Nat.mul_le_mul_right _ (Nat.le_of_lt (Nat.lt_of_not_le small))
    rw [Nat.div_one] at floor
    have above := Nat.le_trans ((magnitudeSteps_le_iff _ _).mp reached) floor
    unfold ofInt at inside ⊢
    rw [ofSteps_eq] at inside ⊢
    split at inside
    · rename_i rounded
      rw [dif_pos rounded]
      have large := magnitudeSteps_strictMono.monotone above
      rw [magnitude] at large
      obtain ⟨count, units⟩ : unitSteps ∣
          magnitudeSteps (roundedRank (value.natAbs * unitSteps) 1) :=
        dvd_magnitudeSteps unitSteps.eq_1 large
      refine ⟨if value < 0 then -(count : Int) else count, whole?_eq_some_iff.mpr ?_⟩
      simp only [steps?, units, decide_eq_true_eq, Option.some.injEq]
      push_cast
      split <;> ring
    · cases inside

theorem whole?_zero : zero.whole? = some 0 := by
  rw [whole?_eq_some_iff, Int.zero_mul]
  simp only [zero, steps?, magnitudeSteps_zero, Bool.false_eq_true, if_false, Int.natCast_zero]

/-- A delay as the clock measures it is a whole number that is not negative. -/
theorem exists_whole?_atLeastZero
    {value : Int}
    (inside : (ofInt value).isFinite = true) :
    ∃ count : Nat, (ofInt value).atLeastZero.whole? = some (count : Int) := by
  unfold atLeastZero
  split
  · exact ⟨0, whole?_zero⟩
  · rename_i early
    obtain ⟨whole, found⟩ := exists_whole?_ofInt inside
    have counted := whole?_eq_some_iff.mp found
    have onward : 0 ≤ whole := by
      by_contra negative
      refine early ((lt_iff_of_order? (order?_of_steps? counted)
        (order?_of_steps? (whole?_eq_some_iff.mp whole?_zero))).mpr ?_)
      rw [Int.zero_mul]
      have positive := unitSteps_pos
      exact Int.mul_neg_of_neg_of_pos (Int.not_le.mp negative) (by omega)
    exact ⟨whole.toNat, by rw [found, Int.toNat_of_nonneg onward]⟩

theorem nearest?_finite
    {value : Int}
    {delay : Binary64}
    (measured : nearest? value = some delay) :
    (ofInt value).isFinite = true := by
  unfold nearest? at measured
  simp only at measured
  split at measured
  · assumption
  · cases measured

theorem isFinite_of_whole?
    {number : Binary64}
    {value : Int}
    (whole : number.whole? = some value) :
    number.isFinite = true := by
  rw [← steps?_isSome, whole?_eq_some_iff.mp whole]
  rfl

theorem ofSteps_ne_nan
    (negative : Bool)
    (numerator denominator : Nat) :
    ofSteps negative numerator denominator ≠ nan := by
  rw [ofSteps_eq]
  split <;> exact fun failed => by cases failed

/-- Only a failed result plus a finite number fails. -/
theorem add_ne_nan
    {reading delay : Binary64}
    (working : reading ≠ nan)
    (measured : delay.isFinite = true) :
    reading.add delay ≠ nan := by
  cases delay with
  | nan => cases measured
  | infinite sign => cases measured
  | finite sign rank =>
    cases reading with
    | nan => exact absurd rfl working
    | infinite sign => exact fun failed => by cases failed
    | finite other place =>
      unfold add
      simp only
      split
      · exact fun failed => by cases failed
      · exact ofSteps_ne_nan _ _ _

/-! ## Times that stand for whole numbers -/

/-- The number is a time as a clock counts it: the time itself or, if that is `2 ^ 53` or more, some
time from there on. -/
def StandsFor (number : Binary64) (time : Int) : Prop :=
  number.whole? = some time ∨
    2 ^ 53 ≤ time ∧ ∃ place, number.order? = some place ∧ 2 ^ 53 * (unitSteps : Int) ≤ place

/-- A clock that reads less than `2 ^ 53` has reached a time exactly if it has reached what stands
for it. -/
theorem StandsFor.le_iff
    {due reading : Binary64}
    {time now : Int}
    (stands : due.StandsFor time)
    (whole : reading.whole? = some now)
    (small : now < 2 ^ 53) :
    due.le reading = true ↔ time ≤ now := by
  have positive : (0 : Int) < unitSteps := by
    have := unitSteps_pos
    omega
  have readingPlace := order?_of_steps? (whole?_eq_some_iff.mp whole)
  rcases stands with exact | ⟨large, place, found, beyond⟩
  · rw [le_iff_of_order? (order?_of_steps? (whole?_eq_some_iff.mp exact)) readingPlace]
    exact mul_le_mul_iff_left₀ positive
  · rw [le_iff_of_order? found readingPlace]
    have below := mul_lt_mul_of_pos_right small positive
    exact iff_of_false (by omega) (by omega)

/-- The sum of a reading and a delay stands for the sum of what they stand for. -/
theorem standsFor_add
    {reading delay : Binary64}
    {now : Int}
    {count : Nat}
    (whole : reading.whole? = some now)
    (counted : delay.whole? = some (count : Int))
    (notBefore : -2 ^ 53 ≤ now) :
    (reading.add delay).StandsFor (now + count) := by
  by_cases small : now + count ≤ 2 ^ 53
  · exact Or.inl (whole?_add whole counted (by omega))
  · exact Or.inr ⟨by omega, le_order?_add whole counted (by omega)⟩

/-! ## Clocks that are moved on -/

theorem le_trans
    {first second third : Binary64}
    (lower : first.le second = true)
    (upper : second.le third = true) : first.le third = true := by
  unfold le at *
  cases firstFound : first.order? with
  | none =>
    rw [firstFound] at lower
    cases lower
  | some firstPlace =>
    cases thirdFound : third.order? with
    | none =>
      rw [thirdFound] at upper
      cases found : second.order? <;> rw [found] at upper <;> cases upper
    | some thirdPlace =>
      cases secondFound : second.order? with
      | none =>
        rw [secondFound] at upper
        cases upper
      | some secondPlace =>
        rw [firstFound, secondFound] at lower
        rw [secondFound, thirdFound] at upper
        exact decide_eq_true (Int.le_trans (of_decide_eq_true lower) (of_decide_eq_true upper))

theorem le_refl {number : Binary64} (proper : number ≠ nan) : number.le number = true := by
  obtain ⟨place, found⟩ := exists_order?_eq proper
  exact (le_iff_of_order? found found).mpr (Int.le_refl place)

/-- Rounding does not pass a magnitude. -/
theorem roundedRank_le
    {rank steps : Nat}
    (below : steps ≤ magnitudeSteps rank) : roundedRank steps 1 ≤ rank := by
  have floor : floorRank steps ≤ rank := by
    refine magnitudeSteps_strictMono.le_iff_le.mp ?_
    exact Nat.le_trans (magnitudeSteps_floorRank_le steps) below
  rcases Nat.lt_or_eq_of_le floor with under | exact
  · have next : roundedRank steps 1 ≤ floorRank steps + 1 := by
      have upper := roundHalfEven_le steps (2 ^ stepsScale steps)
      unfold roundedRank floorRank
      rw [Nat.div_one, Nat.one_mul]
      omega
    omega
  · have whole : steps = magnitudeSteps rank * 1 := by
      have reached := (magnitudeSteps_le_iff rank steps).mpr (Nat.le_of_eq exact.symm)
      omega
    rw [whole, roundedRank_magnitudeSteps rank (Nat.lt_succ_self 0)]

theorem steps?_negative
    {rank : Nat}
    (inside : rank < finiteMagnitudes) :
    (finite true ⟨rank, inside⟩).steps? = some (-(magnitudeSteps rank : Int)) :=
  rfl

/-- A negative number is not rounded beyond a magnitude that it does not pass. -/
theorem ofSteps_negative
    {rank : Fin finiteMagnitudes}
    {steps : Nat}
    (below : steps ≤ magnitudeSteps rank) :
    ∃ place, (ofSteps true steps 1).order? = some place ∧ -(magnitudeSteps rank : Int) ≤ place := by
  have rounded := magnitudeSteps_strictMono.monotone (roundedRank_le below)
  have inside : roundedRank steps 1 < finiteMagnitudes :=
    Nat.lt_of_le_of_lt (roundedRank_le below) rank.isLt
  rw [ofSteps_eq, dif_pos inside]
  exact ⟨_, order?_of_steps? (steps?_negative inside), by omega⟩

theorem ofSteps_forward (steps : Nat) : (ofSteps false steps 1).IsReading := by
  have reached : magnitudeSteps (⟨0, finiteMagnitudes_pos⟩ : Fin finiteMagnitudes) ≤ steps := by
    rw [magnitudeSteps_zero]
    exact Nat.zero_le steps
  exact (ofSteps_isReading reached).1

/-- A clock that reads less than nothing is not moved back. -/
theorem le_add_of_negative
    (rank : Fin finiteMagnitudes)
    {span : Binary64}
    {steps : Nat}
    (counted : span.steps? = some (steps : Int)) :
    (finite true rank).le ((finite true rank).add span) = true := by
  have start : (finite true rank).steps? = some (-(magnitudeSteps rank : Int)) := rfl
  have below (fewer : Nat) := @ofSteps_negative rank fewer
  generalize magnitudeSteps rank = magnitude at start below
  by_cases nothing : -(magnitude : Int) + steps = 0
  · have cancelled := steps?_add_of_cancel start counted nothing
    rw [le_iff_of_order? (order?_of_steps? start) (order?_of_steps? cancelled)]
    omega
  · rw [add_of_steps? start counted nothing]
    by_cases back : -(magnitude : Int) + steps < 0
    · obtain ⟨place, found, notBefore⟩ := below (-(magnitude : Int) + steps).natAbs (by omega)
      rw [decide_eq_true back, le_iff_of_order? (order?_of_steps? start) found]
      exact notBefore
    · rw [decide_eq_false back,
        le_iff_of_order? (order?_of_steps? start) (ofSteps_forward _).order?_eq]
      omega

/-- Moving a clock on never moves it back, wherever it stands. -/
theorem le_add_of_isSpan
    {reading span : Binary64}
    (working : reading ≠ nan)
    (onward : span.IsSpan)
    (measured : span.isFinite = true) : reading.le (reading.add span) = true := by
  cases span with
  | nan => cases measured
  | infinite other => cases measured
  | finite other spanRank =>
    have counted : (finite other spanRank).steps? = some (magnitudeSteps spanRank : Int) := by
      cases other with
      | false => rfl
      | true => simp [steps?, onward.magnitudeSteps_eq_zero]
    cases reading with
    | nan => exact absurd rfl working
    | infinite sign => exact le_refl working
    | finite sign rank =>
      cases sign with
      | true => exact le_add_of_negative rank counted
      | false =>
        obtain ⟨later, notBefore⟩ := (isReading_finite rank).add onward
        exact ((isReading_finite rank).le_iff later).mpr notBefore

/-- A whole number up to `2 ^ 53` is measured exactly. -/
theorem whole?_ofInt
    {count : Nat}
    (small : count ≤ 2 ^ 53) : (ofInt count).whole? = some (count : Int) := by
  obtain ⟨rank, magnitude, found⟩ := ofInt_eq_finite (show (count : Int).natAbs ≤ 2 ^ 53 by omega)
  rw [whole?_eq_some_iff, found, decide_eq_false (by omega)]
  change some (magnitudeSteps rank : Int) = _
  rw [magnitude, Int.natAbs_natCast, Int.natCast_mul]

/-- The sum with a span is the rounded sum of steps, and nothing has no sign. -/
theorem add_ofInt_eq
    {reading : Binary64}
    {steps : Int}
    (counted : reading.steps? = some steps)
    {count : Nat}
    (small : count ≤ 2 ^ 53) :
    reading.add (ofInt count) =
      if steps + count * unitSteps = 0 then zero
      else ofSteps (steps + count * unitSteps < 0) (steps + count * unitSteps).natAbs 1 := by
  obtain ⟨rank, magnitude, found⟩ := ofInt_eq_finite (show (count : Int).natAbs ≤ 2 ^ 53 by omega)
  have measured := whole?_eq_some_iff.mp (whole?_ofInt small)
  split
  · rename_i nothing
    cases reading with
    | nan => cases counted
    | infinite sign => cases counted
    | finite sign place =>
      rw [found, decide_eq_false (by omega)] at measured ⊢
      unfold add
      simp only [counted, measured, Option.getD_some, nothing, beq_self_eq_true, if_true,
        Bool.and_false]
      rfl
  · rename_i something
    exact add_of_steps? counted measured something

/-- Among the whole numbers up to `2 ^ 53` a clock can be moved on in steps. -/
theorem add_ofInt_add_ofInt
    {reading : Binary64}
    {now : Int}
    (whole : reading.whole? = some now)
    {first second : Nat}
    (notBefore : -2 ^ 53 ≤ now)
    (small : now + first + second ≤ 2 ^ 53)
    (spans : first + second ≤ 2 ^ 53) :
    (reading.add (ofInt first)).add (ofInt second) = reading.add (ofInt (first + second : Nat)) := by
  have counted := whole?_eq_some_iff.mp whole
  have measured := whole?_ofInt (show first ≤ 2 ^ 53 by omega)
  have between := whole?_eq_some_iff.mp (whole?_add whole measured (by omega))
  rw [add_ofInt_eq counted spans, add_ofInt_eq between (by omega)]
  have same : (now + first) * (unitSteps : Int) + second * unitSteps =
      now * unitSteps + (first + second : Nat) * unitSteps := by
    push_cast
    ring
  rw [same]

end Binary64

/-! ## Spans of whole milliseconds -/

namespace Span

/-- An integer that a clock has a number for is measured by the number nearest to it. -/
theorem nearest?_of_ofInteger
    {value : Int}
    {measured : Binary64}
    (known : ofInteger value = .ok measured) :
    Binary64.nearest? value = some measured := by
  unfold ofInteger at known
  cases nearest : Binary64.nearest? value with
  | none =>
    rw [nearest] at known
    cases known
  | some reading =>
    rw [nearest] at known
    cases known
    rfl

theorem ne_nan_of_delay
    {value : Int}
    {delay : Binary64}
    (known : (integer value).delay = .ok delay) : delay ≠ .nan :=
  (Binary64.nearest?_eq_some (nearest?_of_ofInteger known)).2

/-- Whole milliseconds that are not negative are measured by a finite span. -/
theorem isSpan_of_measured
    {milliseconds : Nat}
    {measured : Binary64}
    (known : (integer milliseconds).measured = .ok measured) :
    measured.IsSpan ∧ measured.isFinite = true := by
  have nearest := nearest?_of_ofInteger known
  have finite := Binary64.nearest?_finite nearest
  obtain ⟨rfl, _⟩ := Binary64.nearest?_eq_some nearest
  exact ⟨Binary64.isSpan_ofInt (Int.natCast_nonneg milliseconds), finite⟩

/-- Whole milliseconds up to `2 ^ 53` are measured exactly. -/
theorem measured_integer
    {milliseconds : Nat}
    (small : milliseconds ≤ 2 ^ 53) :
    (integer milliseconds).measured = .ok (.ofInt milliseconds) := by
  have finite := Binary64.isFinite_of_whole? (Binary64.whole?_ofInt small)
  change ofInteger milliseconds = _
  unfold ofInteger Binary64.nearest?
  simp only [finite, if_true]
  rfl

end Span
end BroadcastGraphics
