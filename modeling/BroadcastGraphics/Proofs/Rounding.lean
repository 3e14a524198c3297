import BroadcastGraphics.Timeline.Span
import Mathlib.Tactic.Linarith
import Mathlib.Tactic.Ring
import Mathlib.Order.Monotone.Basic

/-!
# Rounding and the order of magnitudes

The magnitudes grow strictly with their ranks, and a number of steps lies between two neighbours:
the magnitude of the rank below it and the next one.  From this come the two facts about rounding
that everything else rests on: a magnitude is rounded to itself, and a number of steps that reaches
a magnitude is rounded to no smaller one.
-/

namespace BroadcastGraphics

/-! ## Whole numbers nearest to fractions -/

theorem le_roundHalfEven
    (numerator denominator : Nat) :
    numerator / denominator ≤ roundHalfEven numerator denominator := by
  unfold roundHalfEven
  simp only
  split
  · exact Nat.le_refl _
  · split <;> omega

theorem roundHalfEven_le
    (numerator denominator : Nat) :
    roundHalfEven numerator denominator ≤ numerator / denominator + 1 := by
  unfold roundHalfEven
  simp only
  split
  · omega
  · split <;> omega

/-- A fraction that is whole is its own nearest whole number. -/
theorem roundHalfEven_of_mod_eq_zero
    {numerator denominator : Nat}
    (positive : 0 < denominator)
    (whole : numerator % denominator = 0) :
    roundHalfEven numerator denominator = numerator / denominator := by
  unfold roundHalfEven
  simp only [whole, Nat.mul_zero, if_pos positive]

/-- A fraction is rounded below an even number exactly if it lies below it by more than a half. -/
theorem roundHalfEven_lt_iff
    {numerator denominator bound : Nat}
    (positive : 0 < denominator)
    (even : bound % 2 = 0) :
    roundHalfEven numerator denominator < bound ↔
      2 * numerator + denominator < 2 * bound * denominator := by
  have split := Nat.div_add_mod numerator denominator
  have remainder := Nat.mod_lt numerator positive
  have bounds : ∀ quotient : Nat, quotient + 1 ≤ bound ->
      denominator * quotient + denominator ≤ bound * denominator := by
    intro quotient below
    have := Nat.mul_le_mul_right denominator below
    linarith
  have beyond : ∀ quotient : Nat, bound ≤ quotient ->
      bound * denominator ≤ denominator * quotient := by
    intro quotient above
    have := Nat.mul_le_mul_right denominator above
    linarith
  unfold roundHalfEven
  simp only
  generalize numerator / denominator = quotient at *
  generalize numerator % denominator = rest at *
  rcases Nat.lt_trichotomy (quotient + 1) bound with below | next | above
  · have := bounds (quotient + 1) (by omega)
    rw [Nat.mul_add, Nat.mul_one] at this
    have : 2 * bound * denominator = 2 * (bound * denominator) := by ring
    split_ifs <;> omega
  · subst next
    have : 2 * (quotient + 1) * denominator = 2 * (denominator * quotient) + 2 * denominator := by
      ring
    split_ifs <;> omega
  · have := beyond quotient (by omega)
    have : 2 * bound * denominator = 2 * (bound * denominator) := by ring
    split_ifs <;> omega

namespace Binary64

/-! ## Powers of two -/

/-- A power of two as a factor raises the binary logarithm by its exponent. -/
theorem log2_mul_two_pow
    {count : Nat}
    (nonzero : count ≠ 0)
    (exponent : Nat) :
    (count * 2 ^ exponent).log2 = count.log2 + exponent := by
  have positive := Nat.two_pow_pos exponent
  refine (Nat.log2_eq_iff (Nat.mul_ne_zero nonzero positive.ne')).mpr ⟨?_, ?_⟩
  · rw [Nat.pow_add]
    exact Nat.mul_le_mul_right _ (Nat.log2_self_le nonzero)
  · rw [Nat.add_right_comm, Nat.pow_add]
    exact Nat.mul_lt_mul_of_pos_right Nat.lt_log2_self positive

/-! ## Ranks and magnitudes -/

theorem magnitudeSteps_eq (rank : Nat) :
    magnitudeSteps rank =
      if rank < 2 ^ 52 then rank else (2 ^ 52 + rank % 2 ^ 52) * 2 ^ (rank / 2 ^ 52 - 1) :=
  rfl

/-- The magnitude of a rank that is given by a scale and a number of steps of that scale. -/
theorem magnitudeSteps_scaled
    {scale count : Nat}
    (small : count ≤ 2 ^ 53)
    (large : scale = 0 ∨ 2 ^ 52 ≤ count) :
    magnitudeSteps (scale * 2 ^ 52 + count) = count * 2 ^ scale := by
  rw [magnitudeSteps_eq]
  by_cases first : scale * 2 ^ 52 + count < 2 ^ 52
  · have unscaled : scale = 0 := by omega
    subst unscaled
    rw [if_pos first]
    omega
  · rw [if_neg first]
    by_cases top : count = 2 ^ 53
    · subst top
      have quotient : (scale * 2 ^ 52 + 2 ^ 53) / 2 ^ 52 - 1 = scale + 1 := by omega
      have remainder : (scale * 2 ^ 52 + 2 ^ 53) % 2 ^ 52 = 0 := by omega
      rw [quotient, remainder, Nat.pow_succ 2 scale]
      ring
    · have quotient : (scale * 2 ^ 52 + count) / 2 ^ 52 - 1 = scale := by omega
      have remainder : 2 ^ 52 + (scale * 2 ^ 52 + count) % 2 ^ 52 = count := by omega
      rw [quotient, remainder]

/-- The scale of a rank. -/
def rankScale (rank : Nat) : Nat :=
  rank / 2 ^ 52 - 1

theorem exists_scaled
    (rank : Nat) :
    ∃ count < 2 ^ 53, (rankScale rank = 0 ∨ 2 ^ 52 ≤ count) ∧
      rank = rankScale rank * 2 ^ 52 + count := by
  unfold rankScale
  refine ⟨rank - (rank / 2 ^ 52 - 1) * 2 ^ 52, ?_, ?_, ?_⟩ <;> omega

theorem magnitudeSteps_succ
    (rank : Nat) :
    magnitudeSteps (rank + 1) = magnitudeSteps rank + 2 ^ rankScale rank := by
  obtain ⟨count, small, large, scaled⟩ := exists_scaled rank
  generalize rankScale rank = scale at *
  subst scaled
  rw [Nat.add_assoc, magnitudeSteps_scaled (by omega) (by omega),
    magnitudeSteps_scaled (by omega) large]
  ring

/-- A higher rank has a larger magnitude. -/
theorem magnitudeSteps_strictMono : StrictMono magnitudeSteps := by
  refine strictMono_nat_of_lt_succ fun rank => ?_
  rw [magnitudeSteps_succ]
  exact Nat.lt_add_of_pos_right (Nat.two_pow_pos _)

@[simp] theorem magnitudeSteps_zero : magnitudeSteps 0 = 0 := by
  decide

/-- The first rank of a scale beyond the finest continues the magnitudes of the scale before. -/
theorem magnitudeSteps_top
    {scale exponent : Nat}
    (sum : exponent = 53 + scale) :
    magnitudeSteps (scale * 2 ^ 52 + 2 ^ 53) = 2 ^ exponent := by
  subst sum
  rw [magnitudeSteps_scaled (Nat.le_refl _) (Or.inr (by decide)), ← Nat.pow_add]

theorem magnitudeSteps_finiteMagnitudes : magnitudeSteps finiteMagnitudes = beyondSteps := by
  have ranks : finiteMagnitudes = 2045 * 2 ^ 52 + 2 ^ 53 := by decide
  rw [ranks]
  exact magnitudeSteps_top rfl

theorem magnitudeSteps_lt_beyondSteps
    (rank : Fin finiteMagnitudes) :
    magnitudeSteps rank < beyondSteps := by
  rw [← magnitudeSteps_finiteMagnitudes]
  exact magnitudeSteps_strictMono rank.isLt

/-! ## The rank below a number of steps -/

/-- The scale on which a number of steps is rounded. -/
def stepsScale (steps : Nat) : Nat :=
  Nat.log2 steps - 52

/-- The rank of the largest magnitude that a number of steps reaches. -/
def floorRank (steps : Nat) : Nat :=
  stepsScale steps * 2 ^ 52 + steps / 2 ^ stepsScale steps

/-- On its own scale a number of steps counts at most `2 ^ 53`, and at least `2 ^ 52` unless the
scale is the finest. -/
theorem div_stepsScale_bounds
    (steps : Nat) :
    steps / 2 ^ stepsScale steps < 2 ^ 53 ∧
      (stepsScale steps = 0 ∨ 2 ^ 52 ≤ steps / 2 ^ stepsScale steps) := by
  have upper : steps < 2 ^ (steps.log2 + 1) := Nat.lt_log2_self
  unfold stepsScale
  constructor
  · refine Nat.div_lt_of_lt_mul (Nat.lt_of_lt_of_le upper ?_)
    rw [← Nat.pow_add]
    exact Nat.pow_le_pow_right (by omega) (by omega)
  · by_cases fine : steps.log2 - 52 = 0
    · exact Or.inl fine
    · right
      have nonzero : steps ≠ 0 := by
        rintro rfl
        simp at fine
      rw [Nat.le_div_iff_mul_le (Nat.two_pow_pos _), ← Nat.pow_add,
        show 52 + (steps.log2 - 52) = steps.log2 by omega]
      exact Nat.log2_self_le nonzero

theorem magnitudeSteps_floorRank
    (steps : Nat) :
    magnitudeSteps (floorRank steps) = steps / 2 ^ stepsScale steps * 2 ^ stepsScale steps := by
  obtain ⟨small, large⟩ := div_stepsScale_bounds steps
  exact magnitudeSteps_scaled (Nat.le_of_lt small) large

theorem magnitudeSteps_floorRank_le
    (steps : Nat) :
    magnitudeSteps (floorRank steps) ≤ steps := by
  rw [magnitudeSteps_floorRank]
  exact Nat.div_mul_le_self _ _

theorem lt_magnitudeSteps_floorRank_succ
    (steps : Nat) :
    steps < magnitudeSteps (floorRank steps + 1) := by
  obtain ⟨small, large⟩ := div_stepsScale_bounds steps
  unfold floorRank
  rw [Nat.add_assoc, magnitudeSteps_scaled (by omega) (by omega), Nat.add_one_mul]
  have := Nat.lt_div_mul_add (a := steps) (Nat.two_pow_pos (stepsScale steps))
  exact this

/-- A number of steps reaches the magnitudes up to that of its rank. -/
theorem magnitudeSteps_le_iff
    (rank steps : Nat) :
    magnitudeSteps rank ≤ steps ↔ rank ≤ floorRank steps := by
  constructor
  · intro reached
    by_contra above
    have next := magnitudeSteps_strictMono.monotone (Nat.succ_le_of_lt (Nat.lt_of_not_le above))
    exact absurd (Nat.le_trans next reached)
      (Nat.not_le_of_lt (lt_magnitudeSteps_floorRank_succ steps))
  · intro below
    exact Nat.le_trans (magnitudeSteps_strictMono.monotone below)
      (magnitudeSteps_floorRank_le steps)

@[simp] theorem floorRank_magnitudeSteps
    (rank : Nat) :
    floorRank (magnitudeSteps rank) = rank := by
  refine Nat.le_antisymm ?_ ((magnitudeSteps_le_iff _ _).mp (Nat.le_refl _))
  exact magnitudeSteps_strictMono.le_iff_le.mp (magnitudeSteps_floorRank_le _)

/-- A magnitude is a whole number of steps of its scale. -/
theorem magnitudeSteps_mod_stepsScale
    (rank : Nat) :
    magnitudeSteps rank % 2 ^ stepsScale (magnitudeSteps rank) = 0 := by
  have whole := magnitudeSteps_floorRank (magnitudeSteps rank)
  rw [floorRank_magnitudeSteps] at whole
  exact Nat.mod_eq_zero_of_dvd ⟨_, whole.trans (Nat.mul_comm _ _)⟩

/-- What is whole on its scale is a magnitude. -/
theorem magnitudeSteps_floorRank_of_dvd
    {steps : Nat}
    (whole : 2 ^ stepsScale steps ∣ steps) :
    magnitudeSteps (floorRank steps) = steps := by
  rw [magnitudeSteps_floorRank]
  exact Nat.div_mul_cancel whole

/-! ## Rounding -/

/-- The rank to which a fraction of steps is rounded; beyond the finite ones it overflows. -/
def roundedRank (numerator denominator : Nat) : Nat :=
  stepsScale (numerator / denominator) * 2 ^ 52 +
    roundHalfEven numerator (denominator * 2 ^ stepsScale (numerator / denominator))

theorem ofSteps_eq
    (negative : Bool)
    (numerator denominator : Nat) :
    ofSteps negative numerator denominator =
      if inside : roundedRank numerator denominator < finiteMagnitudes then
        finite negative ⟨roundedRank numerator denominator, inside⟩
      else infinite negative :=
  rfl

theorem floorRank_le_roundedRank
    (numerator denominator : Nat) :
    floorRank (numerator / denominator) ≤ roundedRank numerator denominator := by
  unfold floorRank roundedRank
  rw [Nat.div_div_eq_div_mul]
  exact Nat.add_le_add_left (le_roundHalfEven _ _) _

/-- A magnitude given as a fraction of steps is rounded to itself. -/
theorem roundedRank_magnitudeSteps
    (rank : Nat)
    {factor : Nat}
    (positive : 0 < factor) :
    roundedRank (magnitudeSteps rank * factor) factor = rank := by
  have floor := floorRank_magnitudeSteps rank
  unfold floorRank at floor
  unfold roundedRank
  rw [Nat.mul_div_cancel _ positive, roundHalfEven_of_mod_eq_zero]
  · rw [← Nat.div_div_eq_div_mul, Nat.mul_div_cancel _ positive]
    exact floor
  · exact Nat.mul_pos positive (Nat.two_pow_pos _)
  · rw [Nat.mul_comm, Nat.mul_mod_mul_left, magnitudeSteps_mod_stepsScale, Nat.mul_zero]

theorem ofSteps_magnitudeSteps
    (negative : Bool)
    (rank : Fin finiteMagnitudes)
    {factor : Nat}
    (positive : 0 < factor) :
    ofSteps negative (magnitudeSteps rank * factor) factor = finite negative rank := by
  rw [ofSteps_eq]
  have rounded := roundedRank_magnitudeSteps rank positive
  have inside : roundedRank (magnitudeSteps rank * factor) factor < finiteMagnitudes := by
    rw [rounded]
    exact rank.isLt
  rw [dif_pos inside]
  exact congrArg (finite negative) (Fin.ext rounded)

/-- A whole number up to `2 ^ 53`, scaled by a power of two, is a magnitude. -/
theorem exists_magnitudeSteps_eq
    {count exponent : Nat}
    (small : count ≤ 2 ^ 53)
    (inside : 53 + exponent < 2098) :
    ∃ rank : Fin finiteMagnitudes, magnitudeSteps rank = count * 2 ^ exponent := by
  have whole : 2 ^ stepsScale (count * 2 ^ exponent) ∣ count * 2 ^ exponent := by
    by_cases none : count = 0
    · subst none
      simp
    unfold stepsScale
    rw [log2_mul_two_pow none]
    by_cases top : count = 2 ^ 53
    · subst top
      rw [Nat.log2_two_pow, ← Nat.pow_add]
      exact Nat.pow_dvd_pow 2 (by omega)
    · have bits : count.log2 < 53 := (Nat.log2_lt none).mpr (by omega)
      exact Nat.dvd_mul_left_of_dvd (Nat.pow_dvd_pow 2 (by omega)) count
  have magnitude := magnitudeSteps_floorRank_of_dvd whole
  have below : count * 2 ^ exponent < magnitudeSteps finiteMagnitudes := by
    rw [magnitudeSteps_finiteMagnitudes]
    unfold beyondSteps
    refine Nat.lt_of_le_of_lt (Nat.mul_le_mul_right _ small) ?_
    rw [← Nat.pow_add]
    exact Nat.pow_lt_pow_right (Nat.lt_succ_self 1) inside
  have rankInside : floorRank (count * 2 ^ exponent) < finiteMagnitudes :=
    magnitudeSteps_strictMono.lt_iff_lt.mp (magnitude.trans_lt below)
  exact ⟨⟨_, rankInside⟩, magnitude⟩

/-- Rounding stays within the ranks up to a scale exactly for the steps that lie below the next
magnitude by more than half a step of that scale. -/
theorem roundedRank_lt_iff
    (steps scale : Nat) :
    roundedRank steps 1 < scale * 2 ^ 52 + 2 ^ 53 ↔
      2 * steps + 2 ^ scale < 2 ^ 54 * 2 ^ scale := by
  obtain ⟨small, large⟩ := div_stepsScale_bounds steps
  have rounded : roundedRank steps 1 =
      stepsScale steps * 2 ^ 52 + roundHalfEven steps (2 ^ stepsScale steps) := by
    unfold roundedRank
    rw [Nat.div_one, Nat.one_mul]
  rw [rounded]
  have positive := Nat.two_pow_pos (stepsScale steps)
  rcases Nat.lt_trichotomy (stepsScale steps) scale with finer | same | coarser
  · have upper := roundHalfEven_le steps (2 ^ stepsScale steps)
    have bound : steps < 2 ^ 53 * 2 ^ stepsScale steps :=
      (Nat.div_lt_iff_lt_mul positive).mp small
    have scales : 2 * 2 ^ stepsScale steps ≤ 2 ^ scale := by
      rw [← Nat.pow_succ']
      exact Nat.pow_le_pow_right (Nat.succ_pos 1) finer
    constructor <;> intro _ <;> omega
  · rw [← same, Nat.add_lt_add_iff_left, roundHalfEven_lt_iff positive (by decide)]
    constructor <;> intro _ <;> omega
  · have lower := le_roundHalfEven steps (2 ^ stepsScale steps)
    have counted : 2 ^ 52 ≤ steps / 2 ^ stepsScale steps := large.resolve_left (by omega)
    have bound := (Nat.le_div_iff_mul_le positive).mp counted
    have scales : 2 * 2 ^ scale ≤ 2 ^ stepsScale steps := by
      rw [← Nat.pow_succ']
      exact Nat.pow_le_pow_right (Nat.succ_pos 1) coarser
    constructor <;> intro _ <;> omega

end Binary64
end BroadcastGraphics
