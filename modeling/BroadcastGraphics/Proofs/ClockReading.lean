import BroadcastGraphics.Proofs.Rounding
import Mathlib.Tactic.Zify

/-!
# Readings of a clock

A clock that starts at zero and is never moved back reads a number that is neither negative nor a
failed result.  Such readings are totally ordered, two readings of one place are equal, and adding
a delay never gives an earlier one.  A delay is exact, and so is the sum, as long as whole numbers
up to `2 ^ 53` are concerned.  From `2 ^ 1024 - 2 ^ 970` on a delay is beyond all numbers.
-/

namespace BroadcastGraphics
namespace Binary64

/-- A number that a clock can read: it has no sign and is no failed result. -/
def IsReading : Binary64 -> Prop
  | finite negative _ => negative = false
  | infinite negative => negative = false
  | nan => False

instance (number : Binary64) : Decidable number.IsReading := by
  cases number <;> unfold IsReading <;> infer_instance

/-- The place of a reading in the order, as a number of steps. -/
def place : Binary64 -> Nat
  | finite _ rank => magnitudeSteps rank
  | infinite _ => beyondSteps
  | nan => 0

theorem IsReading.order?_eq
    {reading : Binary64}
    (forward : reading.IsReading) :
    reading.order? = some (reading.place : Int) := by
  cases reading with
  | finite negative rank =>
    have positive : negative = false := forward
    subst positive
    rfl
  | infinite negative =>
    have positive : negative = false := forward
    subst positive
    rfl
  | nan => exact forward.elim

theorem IsReading.ne_nan
    {reading : Binary64}
    (forward : reading.IsReading) :
    reading ≠ nan := by
  rintro rfl
  exact forward

/-- Readings of one place are equal. -/
theorem IsReading.eq_of_place_eq
    {first second : Binary64}
    (firstForward : first.IsReading)
    (secondForward : second.IsReading)
    (same : first.place = second.place) :
    first = second := by
  cases first with
  | nan => exact firstForward.elim
  | finite firstSign firstRank =>
    have : firstSign = false := firstForward
    subst this
    cases second with
    | nan => exact secondForward.elim
    | finite secondSign secondRank =>
      have : secondSign = false := secondForward
      subst this
      have ranks := magnitudeSteps_strictMono.injective same
      exact congrArg (finite false) (Fin.ext ranks)
    | infinite secondSign =>
      exact absurd same (Nat.ne_of_lt (magnitudeSteps_lt_beyondSteps firstRank))
  | infinite firstSign =>
    have : firstSign = false := firstForward
    subst this
    cases second with
    | nan => exact secondForward.elim
    | finite secondSign secondRank =>
      exact absurd same.symm (Nat.ne_of_lt (magnitudeSteps_lt_beyondSteps secondRank))
    | infinite secondSign =>
      have : secondSign = false := secondForward
      subst this
      rfl

theorem lt_iff_of_order?
    {first second : Binary64}
    {firstPlace secondPlace : Int}
    (firstFound : first.order? = some firstPlace)
    (secondFound : second.order? = some secondPlace) :
    first.lt second = true ↔ firstPlace < secondPlace := by
  unfold lt
  rw [firstFound, secondFound]
  exact decide_eq_true_iff

theorem le_iff_of_order?
    {first second : Binary64}
    {firstPlace secondPlace : Int}
    (firstFound : first.order? = some firstPlace)
    (secondFound : second.order? = some secondPlace) :
    first.le second = true ↔ firstPlace ≤ secondPlace := by
  unfold le
  rw [firstFound, secondFound]
  exact decide_eq_true_iff

/-- No number comes before a failed result. -/
theorem le_nan (number : Binary64) : number.le nan = false := by
  unfold le
  cases number.order? <;> rfl

theorem sameValue_iff_of_order?
    {first second : Binary64}
    {firstPlace secondPlace : Int}
    (firstFound : first.order? = some firstPlace)
    (secondFound : second.order? = some secondPlace) :
    first.sameValue second = true ↔ firstPlace = secondPlace := by
  unfold sameValue
  rw [firstFound, secondFound]
  exact beq_iff_eq

theorem IsReading.lt_iff
    {first second : Binary64}
    (firstForward : first.IsReading)
    (secondForward : second.IsReading) :
    first.lt second = true ↔ first.place < second.place :=
  (lt_iff_of_order? firstForward.order?_eq secondForward.order?_eq).trans Int.ofNat_lt

theorem IsReading.le_iff
    {first second : Binary64}
    (firstForward : first.IsReading)
    (secondForward : second.IsReading) :
    first.le second = true ↔ first.place ≤ second.place :=
  (le_iff_of_order? firstForward.order?_eq secondForward.order?_eq).trans Int.ofNat_le

/-- The later of two readings in order is the second. -/
theorem IsReading.max_eq_right
    {first second : Binary64}
    (firstForward : first.IsReading)
    (secondForward : second.IsReading)
    (orderly : first.place ≤ second.place) :
    first.max second = second := by
  unfold max
  by_cases earlier : first.lt second = true
  · rw [if_pos earlier]
  · rw [if_neg earlier]
    rw [firstForward.lt_iff secondForward] at earlier
    exact firstForward.eq_of_place_eq secondForward (by omega)

theorem isReading_finite
    (rank : Fin finiteMagnitudes) :
    (finite false rank).IsReading :=
  rfl

theorem isReading_zero : zero.IsReading :=
  rfl

/-! ## Delays -/

/-- A span by which a clock moves on: a number that is neither negative nor a failed result, though
it may be negative zero. -/
def IsSpan (span : Binary64) : Prop :=
  zero.le span = true

instance (span : Binary64) : Decidable span.IsSpan :=
  inferInstanceAs (Decidable (zero.le span = true))

/-- A span of the other sign is nothing. -/
theorem IsSpan.magnitudeSteps_eq_zero
    {rank : Fin finiteMagnitudes}
    (span : IsSpan (finite true rank)) :
    magnitudeSteps rank = 0 := by
  unfold IsSpan le at span
  simp only [order?, steps?, zero, magnitudeSteps_zero] at span
  simp only [Bool.false_eq_true, if_false, if_true, decide_eq_true_eq] at span
  omega

theorem not_isSpan_negative_infinite : ¬IsSpan (infinite true) := by
  have beyond : 0 < beyondSteps := Nat.two_pow_pos _
  unfold IsSpan le
  simp only [order?, steps?, zero, magnitudeSteps_zero, if_true, decide_eq_true_eq]
  omega

theorem isSpan_atLeastZero
    {number : Binary64}
    (proper : number ≠ nan) :
    number.atLeastZero.IsSpan := by
  unfold atLeastZero
  by_cases negative : number.lt zero = true
  · rw [if_pos negative]
    decide
  · rw [if_neg negative]
    obtain ⟨spot, found⟩ := exists_order?_eq proper
    unfold lt at negative
    unfold IsSpan le
    rw [found] at negative ⊢
    rw [isReading_zero.order?_eq] at negative ⊢
    simpa using negative

theorem IsReading.isSpan
    {reading : Binary64}
    (forward : reading.IsReading) :
    reading.IsSpan := by
  unfold IsSpan
  rw [isReading_zero.le_iff forward]
  exact Nat.zero_le _

/-- A whole number of steps that is not negative is rounded to a reading no earlier than the
magnitudes that it reaches. -/
theorem ofSteps_isReading
    {rank : Fin finiteMagnitudes}
    {steps : Nat}
    (reached : magnitudeSteps rank ≤ steps) :
    (ofSteps false steps 1).IsReading ∧ magnitudeSteps rank ≤ (ofSteps false steps 1).place := by
  rw [ofSteps_eq]
  split
  · refine ⟨rfl, magnitudeSteps_strictMono.monotone ?_⟩
    have floor := floorRank_le_roundedRank steps 1
    rw [Nat.div_one] at floor
    exact Nat.le_trans ((magnitudeSteps_le_iff _ _).mp reached) floor
  · exact ⟨rfl, Nat.le_of_lt (magnitudeSteps_lt_beyondSteps rank)⟩

/-- The sum of a reading and a span, as the number of steps that is rounded. -/
theorem add_finite_eq
    (rank : Fin finiteMagnitudes)
    {negative : Bool}
    {spanRank : Fin finiteMagnitudes}
    (span : IsSpan (finite negative spanRank)) :
    (finite false rank).add (finite negative spanRank) =
      ofSteps false (magnitudeSteps rank + magnitudeSteps spanRank) 1 := by
  have signed : (if negative = true then -(magnitudeSteps spanRank : Int)
      else magnitudeSteps spanRank) = magnitudeSteps spanRank := by
    cases negative with
    | false => rfl
    | true =>
      rw [span.magnitudeSteps_eq_zero]
      rfl
  unfold add
  simp only [steps?, Option.getD_some, signed, Bool.false_eq_true, if_false]
  rw [← Int.natCast_add, Int.natAbs_natCast]
  generalize magnitudeSteps rank + magnitudeSteps spanRank = sum
  by_cases nothing : sum = 0
  · have unmoved : finite false ⟨0, by decide⟩ = ofSteps false 0 1 := by decide
    subst nothing
    exact (if_pos rfl).trans unmoved
  · rw [if_neg (by simpa using nothing), decide_eq_false (by omega)]

/-- Moving a clock on gives a reading that is no earlier. -/
theorem IsReading.add
    {reading span : Binary64}
    (forward : reading.IsReading)
    (onward : span.IsSpan) :
    (reading.add span).IsReading ∧ reading.place ≤ (reading.add span).place := by
  cases reading with
  | nan => exact forward.elim
  | finite sign rank =>
    have : sign = false := forward
    subst this
    cases span with
    | nan => exact absurd onward (by decide)
    | finite negative spanRank =>
      rw [add_finite_eq rank onward]
      exact ofSteps_isReading (Nat.le_add_right _ _)
    | infinite negative =>
      cases negative with
      | true => exact absurd onward not_isSpan_negative_infinite
      | false => exact ⟨rfl, Nat.le_of_lt (magnitudeSteps_lt_beyondSteps rank)⟩
  | infinite sign =>
    have : sign = false := forward
    subst this
    cases span with
    | nan => exact absurd onward (by decide)
    | finite negative spanRank => exact ⟨rfl, Nat.le_refl _⟩
    | infinite negative =>
      cases negative with
      | true => exact absurd onward not_isSpan_negative_infinite
      | false => exact ⟨rfl, Nat.le_refl _⟩

/-! ## Whole numbers -/

theorem exists_magnitudeSteps_eq_units
    {count : Nat}
    (small : count ≤ 2 ^ 53) :
    ∃ rank : Fin finiteMagnitudes, magnitudeSteps rank = count * unitSteps :=
  exists_magnitudeSteps_eq small (by decide)

/-- A whole number up to `2 ^ 53` is represented exactly. -/
theorem ofInt_eq_finite
    {value : Int}
    (small : value.natAbs ≤ 2 ^ 53) :
    ∃ rank : Fin finiteMagnitudes, magnitudeSteps rank = value.natAbs * unitSteps ∧
      ofInt value = finite (value < 0) rank := by
  obtain ⟨rank, magnitude⟩ := exists_magnitudeSteps_eq_units small
  refine ⟨rank, magnitude, ?_⟩
  have exact := ofSteps_magnitudeSteps (value < 0) rank (Nat.lt_succ_self 0)
  rw [Nat.mul_one, magnitude] at exact
  exact exact

/-- An integer that is not negative gives a span. -/
theorem isSpan_ofInt
    {value : Int}
    (onward : 0 ≤ value) :
    (ofInt value).IsSpan := by
  unfold ofInt
  rw [decide_eq_false (by omega)]
  have reached : magnitudeSteps (⟨0, by decide⟩ : Fin finiteMagnitudes) ≤
      value.natAbs * unitSteps := Nat.zero_le _
  exact (ofSteps_isReading reached).1.isSpan

theorem unitSteps_pos : 0 < unitSteps :=
  Nat.two_pow_pos _

/-- A reading that stands for a whole number counts that many units. -/
theorem IsReading.whole?_eq_some_iff
    {reading : Binary64}
    (forward : reading.IsReading)
    {value : Int} :
    reading.whole? = some value ↔
      ∃ rank : Fin finiteMagnitudes, reading = finite false rank ∧
        (magnitudeSteps rank : Int) = value * unitSteps := by
  have positive : (unitSteps : Int) ≠ 0 := by
    have := unitSteps_pos
    omega
  cases reading with
  | nan => exact forward.elim
  | infinite sign =>
    constructor
    · intro whole
      cases whole
    · rintro ⟨rank, same, _⟩
      cases same
  | finite sign rank =>
    have : sign = false := forward
    subst this
    have found : (finite false rank).whole? =
        if ((magnitudeSteps rank : Int) % unitSteps == 0) = true then
          some ((magnitudeSteps rank : Int) / unitSteps) else none := rfl
    rw [found]
    constructor
    · intro whole
      split at whole
      · rename_i divisible
        injection whole with quotient
        refine ⟨rank, rfl, ?_⟩
        rw [← quotient, Int.ediv_mul_cancel]
        exact Int.dvd_of_emod_eq_zero (eq_of_beq divisible)
      · cases whole
    · rintro ⟨other, same, units⟩
      injection same with _ ranks
      subst ranks
      rw [units, Int.mul_emod_left, Int.mul_ediv_cancel _ positive]
      rfl

/-- The sum of whole numbers is exact up to `2 ^ 53`. -/
theorem IsReading.whole?_add_ofInt
    {reading : Binary64}
    (forward : reading.IsReading)
    {value delay : Int}
    (whole : reading.whole? = some value)
    (onward : 0 ≤ delay)
    (small : value + delay ≤ 2 ^ 53) :
    (reading.add (ofInt delay).atLeastZero).whole? = some (value + delay) := by
  obtain ⟨rank, rfl, units⟩ := forward.whole?_eq_some_iff.mp whole
  have notBefore : 0 ≤ value := by
    by_contra before
    have := unitSteps_pos
    have : value * unitSteps < 0 := Int.mul_neg_of_neg_of_pos (by omega) (by omega)
    omega
  obtain ⟨delayRank, delayUnits, found⟩ := ofInt_eq_finite (show delay.natAbs ≤ 2 ^ 53 by omega)
  have unsigned : decide (delay < 0) = false := decide_eq_false (by omega)
  have span := (isReading_finite delayRank).isSpan
  have kept : (finite false delayRank).atLeastZero = finite false delayRank := by
    unfold atLeastZero
    rw [if_neg]
    rw [(isReading_finite _).lt_iff isReading_zero]
    exact Nat.not_lt_zero _
  rw [found, unsigned, kept, add_finite_eq rank span]
  obtain ⟨sumRank, sumUnits⟩ := exists_magnitudeSteps_eq_units
    (show (value + delay).natAbs ≤ 2 ^ 53 by omega)
  have sum : magnitudeSteps rank + magnitudeSteps delayRank = magnitudeSteps sumRank * 1 := by
    rw [sumUnits, delayUnits]
    zify
    rw [units, abs_of_nonneg onward, abs_of_nonneg (by omega : 0 ≤ value + delay)]
    ring
  rw [sum, ofSteps_magnitudeSteps false sumRank (Nat.lt_succ_self 0)]
  refine (isReading_finite _).whole?_eq_some_iff.mpr ⟨sumRank, rfl, ?_⟩
  rw [sumUnits]
  push_cast
  rw [abs_of_nonneg (by omega : 0 ≤ value + delay)]

/-! ## Integers beyond all numbers -/

theorem isFinite_ofSteps
    (negative : Bool)
    (numerator denominator : Nat) :
    (ofSteps negative numerator denominator).isFinite =
      decide (roundedRank numerator denominator < finiteMagnitudes) := by
  rw [ofSteps_eq]
  split
  · rename_i inside
    exact (decide_eq_true inside).symm
  · rename_i outside
    exact (decide_eq_false outside).symm

theorem scaled_lt_iff
    (count : Nat)
    {exponent bound total : Nat}
    (sum : bound + (exponent + 1) = total) :
    2 * (count * 2 ^ exponent) + 2 ^ total < 2 ^ 54 * 2 ^ total ↔
      count + 2 ^ bound < 2 ^ (54 + bound) := by
  have positive := Nat.two_pow_pos (exponent + 1)
  have doubled : 2 * (count * 2 ^ exponent) = count * 2 ^ (exponent + 1) := by
    rw [Nat.pow_succ]
    ring
  have scaled : 2 ^ total = 2 ^ bound * 2 ^ (exponent + 1) := by
    rw [← sum, Nat.pow_add]
  rw [doubled, scaled, ← Nat.add_mul, ← Nat.mul_assoc, ← Nat.pow_add]
  exact Nat.mul_lt_mul_right positive

/-- An integer is beyond all numbers exactly from `2 ^ 1024 - 2 ^ 970` on, whatever its sign. -/
theorem nearest?_eq_none_iff
    (value : Int) :
    nearest? value = none ↔ 2 ^ 1024 ≤ value.natAbs + 2 ^ 970 := by
  have ranks : finiteMagnitudes = 2045 * 2 ^ 52 + 2 ^ 53 := by decide
  have finite_iff : (ofInt value).isFinite = true ↔ value.natAbs + 2 ^ 970 < 2 ^ (54 + 970) := by
    unfold ofInt
    rw [isFinite_ofSteps, decide_eq_true_iff, ranks, roundedRank_lt_iff]
    exact scaled_lt_iff value.natAbs rfl
  unfold nearest?
  simp only
  constructor
  · intro missing
    refine Nat.le_of_not_lt fun inside => ?_
    rw [if_pos (finite_iff.mpr inside)] at missing
    cases missing
  · intro beyond
    rw [if_neg]
    intro inside
    exact absurd (finite_iff.mp inside) (Nat.not_lt_of_le beyond)

/-- A duration that the clock can measure is measured by the number nearest to it. -/
theorem nearest?_eq_some
    {duration : Int}
    {delay : Binary64}
    (measured : nearest? duration = some delay) :
    delay = ofInt duration ∧ delay ≠ .nan := by
  unfold nearest? at measured
  simp only at measured
  split at measured
  · rename_i inside
    cases measured
    refine ⟨rfl, fun failed => ?_⟩
    rw [failed] at inside
    cases inside
  · cases measured

end Binary64
end BroadcastGraphics
