/-!
# Double-precision numbers

A finite double-precision number is its sign together with the rank of its magnitude among the
finite magnitudes, zero having rank zero.  Every finite magnitude is a whole number of steps of
`2 ^ (-1074)`, so sums, comparisons and roundings are carried out on integers.  The only rounding
is `ofSteps`, which takes a fraction of steps to the nearest magnitude, ties to the even one.
-/

namespace BroadcastGraphics

/-- The number of finite magnitudes. -/
abbrev finiteMagnitudes : Nat := 2047 * Nat.pow 2 52

theorem finiteMagnitudes_pos : 0 < finiteMagnitudes := by
  decide

/-- A double-precision number; all results that are not numbers are one value. -/
inductive Binary64 where
  | finite (negative : Bool) (rank : Fin finiteMagnitudes)
  | infinite (negative : Bool)
  | nan
  deriving DecidableEq, Repr

/-- The whole number nearest to a fraction, a half going to the even neighbour. -/
def roundHalfEven (numerator denominator : Nat) : Nat :=
  let quotient := numerator / denominator
  let twice := 2 * (numerator % denominator)
  if twice < denominator then quotient
  else if denominator < twice then quotient + 1
  else quotient + quotient % 2

namespace Binary64

/-- The number of steps in the unit. -/
def unitSteps : Nat := Nat.pow 2 1074

/-- The magnitude of a given rank, in steps. -/
def magnitudeSteps (rank : Nat) : Nat :=
  if rank < Nat.pow 2 52 then rank
  else (Nat.pow 2 52 + rank % Nat.pow 2 52) * Nat.pow 2 (rank / Nat.pow 2 52 - 1)

/-- The signed value of a finite number, in steps. -/
def steps? : Binary64 -> Option Int
  | finite negative rank =>
      some (if negative then -(magnitudeSteps rank : Int) else magnitudeSteps rank)
  | infinite _ => none
  | nan => none

/-- The number nearest to a fraction of steps with the given sign. -/
def ofSteps (negative : Bool) (numerator denominator : Nat) : Binary64 :=
  let scale := Nat.log2 (numerator / denominator) - 52
  let rank := scale * Nat.pow 2 52 + roundHalfEven numerator (denominator * Nat.pow 2 scale)
  if inside : rank < finiteMagnitudes then finite negative ⟨rank, inside⟩
  else infinite negative

/-- The number nearest to an integer. -/
def ofInt (value : Int) : Binary64 :=
  ofSteps (value < 0) (value.natAbs * unitSteps) 1

/-- Positive zero. -/
def zero : Binary64 := finite false ⟨0, finiteMagnitudes_pos⟩

instance : Inhabited Binary64 := ⟨zero⟩

/-- The number is neither infinite nor a failed result. -/
def isFinite : Binary64 -> Bool
  | finite _ _ => true
  | _ => false

/-- The integer that a finite number without fraction stands for. -/
def whole? (number : Binary64) : Option Int :=
  match number.steps? with
  | some steps => if steps % unitSteps == 0 then some (steps / unitSteps) else none
  | none => none

/-- A number of steps beyond every finite magnitude. -/
def beyondSteps : Nat := Nat.pow 2 2098

/-- A place in the order of numbers, infinities at the ends; a failed result has none. -/
def order? : Binary64 -> Option Int
  | infinite negative => some (if negative then -(beyondSteps : Int) else beyondSteps)
  | nan => none
  | number => number.steps?

/-- Strict order; a failed result is not below anything. -/
def lt (left right : Binary64) : Bool :=
  match left.order?, right.order? with
  | some leftPlace, some rightPlace => leftPlace < rightPlace
  | _, _ => false

/-- Order; a failed result is not related to anything. -/
def le (left right : Binary64) : Bool :=
  match left.order?, right.order? with
  | some leftPlace, some rightPlace => leftPlace ≤ rightPlace
  | _, _ => false

/-- Equality of values: the two zeros are equal and a failed result equals nothing. -/
def sameValue (left right : Binary64) : Bool :=
  match left.order?, right.order? with
  | some leftPlace, some rightPlace => leftPlace == rightPlace
  | _, _ => false

/-- Equality of value with an integer. -/
def equalsInt (number : Binary64) (value : Int) : Bool :=
  number.steps? == some (value * unitSteps)

/-- The rounded sum of two numbers. -/
def add : Binary64 -> Binary64 -> Binary64
  | nan, _ => nan
  | _, nan => nan
  | infinite left, infinite right => if left == right then infinite left else nan
  | infinite left, _ => infinite left
  | _, infinite right => infinite right
  | finite leftSign leftRank, finite rightSign rightRank =>
      let sum := ((finite leftSign leftRank).steps?.getD 0) +
        ((finite rightSign rightRank).steps?.getD 0)
      if sum == 0 then finite (leftSign && rightSign) ⟨0, finiteMagnitudes_pos⟩
      else ofSteps (sum < 0) sum.natAbs 1

/-- The number with the other sign. -/
def negated : Binary64 -> Binary64
  | finite negative rank => finite (!negative) rank
  | infinite negative => infinite (!negative)
  | nan => nan

/-- The rounded product of a number with a whole number of times. -/
def times (number : Binary64) (count : Nat) : Binary64 :=
  match number with
  | finite negative rank => ofSteps negative (magnitudeSteps rank * count) 1
  | infinite negative => if count == 0 then nan else infinite negative
  | nan => nan

/-- A negative number is replaced by zero. -/
def atLeastZero (number : Binary64) : Binary64 :=
  if number.lt zero then zero else number

/-- The larger of two numbers, the first when neither is below the other. -/
def max (left right : Binary64) : Binary64 :=
  if left.lt right then right else left

/-- Only finite numbers have a value in steps. -/
@[simp] theorem steps?_isSome (number : Binary64) : number.steps?.isSome = number.isFinite := by
  cases number <;> rfl

/-- Every number that is not a failed result has a place in the order. -/
theorem exists_order?_eq {number : Binary64} (proper : number ≠ nan) :
    ∃ place, number.order? = some place := by
  cases number with
  | finite negative rank => exact ⟨_, rfl⟩
  | infinite negative => exact ⟨_, rfl⟩
  | nan => exact absurd rfl proper

/-- Every number that is not a failed result equals itself. -/
theorem sameValue_self {number : Binary64} (proper : number ≠ nan) :
    number.sameValue number = true := by
  obtain ⟨place, found⟩ := exists_order?_eq proper
  unfold sameValue
  rw [found]
  exact beq_self_eq_true place

end Binary64
end BroadcastGraphics
