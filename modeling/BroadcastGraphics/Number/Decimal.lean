import BroadcastGraphics.Number.Binary64

/-!
# Decimal notation of numbers

Reading a decimal takes it to the nearest double-precision number.  Writing chooses the fewest
significant digits that read back as the same number: every finite number has an exact decimal
expansion, and the search goes through the roundings of that expansion to one digit, two digits
and so on; the expansion itself reads back, so the search always succeeds.
-/

namespace BroadcastGraphics

/-- The decimal digits of a natural number, zero having one digit. -/
def decimalDigits (value : Nat) : List Char :=
  Nat.toDigits 10 value

/-- The decimal text of an integer. -/
def integerText (value : Int) : String :=
  if value < 0 then String.ofList ('-' :: decimalDigits value.natAbs)
  else String.ofList (decimalDigits value.natAbs)

/-- The number that a run of decimal digits stands for. -/
def digitsValue (digits : List Char) : Nat :=
  digits.foldl (fun value digit => 10 * value + (digit.toNat - '0'.toNat)) 0

namespace Binary64

/-- The number nearest to `digits * 10 ^ exponent`.  Values beyond every magnitude and below every
step are decided by their size alone, so no large power is formed for them. -/
def ofDecimal (negative : Bool) (digits : Nat) (exponent : Int) : Binary64 :=
  if digits == 0 then finite negative ⟨0, finiteMagnitudes_pos⟩
  else
    let size := exponent + (decimalDigits digits).length
    if 310 < size then infinite negative
    else if size < -330 then finite negative ⟨0, finiteMagnitudes_pos⟩
    else if 0 ≤ exponent then
      ofSteps negative (digits * Nat.pow 10 exponent.toNat * unitSteps) 1
    else ofSteps negative (digits * unitSteps) (Nat.pow 10 exponent.natAbs)

/-- A magnitude written as `0.d₁d₂…` times a power of ten. -/
structure Decimal where
  digits : List Char
  point : Int
  deriving Repr

/-- The decimal place of the finest step. -/
def finestPlaces : Nat := 1074

/-- What a number of steps is multiplied by to become a whole number of the finest decimal place. -/
@[irreducible] def expansionUnit : Nat := Nat.pow 5 finestPlaces

/-- The multiple of `10 ^ dropped` next to an expansion that reads back as the magnitude of a
rank; of two such neighbours the nearer one, the even one when both are equally near. -/
def neighbourReadingBack? (rank expansion dropped : Nat) : Option Nat :=
  let grid := Nat.pow 10 dropped
  let lower := expansion / grid
  let readsBack := fun multiple : Nat =>
    match ofSteps false (multiple * grid) expansionUnit with
    | finite _ found => found.val == rank
    | _ => false
  let lowerFirst := 2 * (expansion % grid) < grid ||
    (2 * (expansion % grid) == grid && lower % 2 == 0)
  let candidates := if lowerFirst then [lower, lower + 1] else [lower + 1, lower]
  candidates.find? readsBack

/-- Search the roundings of an expansion from the coarsest to the exact one. -/
def shortestFrom (rank expansion : Nat) : Nat -> Nat × Nat
  | 0 => (expansion, 0)
  | dropped + 1 =>
      match neighbourReadingBack? rank expansion (dropped + 1) with
      | some multiple => (multiple, dropped + 1)
      | none => shortestFrom rank expansion dropped

/-- A multiple of `10 ^ dropped` finest places, without the zeros at its end. -/
def Decimal.ofMultiple (multiple dropped : Nat) : Decimal :=
  let digits := decimalDigits multiple
  ⟨(digits.reverse.dropWhile (· == '0')).reverse, (digits.length + dropped : Int) - finestPlaces⟩

/-- A magnitude as a whole number of finest places. -/
def expansionOf (rank : Nat) : Nat :=
  magnitudeSteps rank * expansionUnit

/-- The fewest digits that read back as the magnitude of a rank. -/
def shortest (rank : Nat) : Decimal :=
  if rank == 0 then ⟨['0'], 1⟩
  else
    let expansion := expansionOf rank
    let found := shortestFrom rank expansion ((decimalDigits expansion).length - 1)
    Decimal.ofMultiple found.1 found.2

/-- The magnitude of a rank with at most a number of significant digits, a half going up. -/
def rounded (count rank : Nat) : Decimal :=
  if rank == 0 then ⟨['0'], 1⟩
  else
    let expansion := expansionOf rank
    let dropped := (decimalDigits expansion).length - count
    let grid := Nat.pow 10 dropped
    Decimal.ofMultiple ((expansion + grid / 2) / grid) dropped

/-- The words that stand for the values without digits. -/
structure SpecialNames where
  notANumber : String
  infinity : String

/-- How digits are written: up to which exponent positional notation goes, and whether a single
digit before an exponent has a fractional part. -/
structure DigitForm where
  positionalBelow : Int
  alwaysFraction : Bool

/-- The notation of values in texts. -/
def DigitForm.plain : DigitForm := ⟨16, false⟩

/-- Digits with a point: positional notation from `10 ^ (-4)` up to a limit, always with a
fractional part, and scientific notation with an exponent of at least two digits elsewhere. -/
def Decimal.text (form : DigitForm) (decimal : Decimal) : List Char :=
  let exponent := decimal.point - 1
  if -4 ≤ exponent && exponent < form.positionalBelow then
    if decimal.point ≤ 0 then
      '0' :: '.' :: List.replicate decimal.point.natAbs '0' ++ decimal.digits
    else
      let places := decimal.point.toNat
      let whole := decimal.digits.take places
      let fraction := decimal.digits.drop places
      whole ++ List.replicate (places - whole.length) '0' ++ '.' ::
        (if fraction.isEmpty then ['0'] else fraction)
  else
    let mantissa := match decimal.digits with
      | first :: second :: rest => first :: '.' :: second :: rest
      | digits => if form.alwaysFraction then digits ++ ['.', '0'] else digits
    let exponentDigits := decimalDigits exponent.natAbs
    mantissa ++ 'e' :: (if exponent < 0 then '-' else '+') ::
      List.replicate (2 - exponentDigits.length) '0' ++ exponentDigits

/-- The text of a number, with the given names for the values without digits. -/
def text (names : SpecialNames) : Binary64 -> String
  | finite negative rank =>
      let digits := (shortest rank).text .plain
      String.ofList (if negative then '-' :: digits else digits)
  | infinite negative => if negative then "-" ++ names.infinity else names.infinity
  | nan => names.notANumber

end Binary64
end BroadcastGraphics
