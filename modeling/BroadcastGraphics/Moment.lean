import BroadcastGraphics.Number.Decimal

/-!
# Moments

A moment is a number of microseconds since the beginning of the year 1, in universal time.  Its text
has the year, the month, the day and the time of day, with a fraction unless the second is whole, and
the offset of universal time.
-/

namespace BroadcastGraphics

/-- Microseconds since the beginning of the year 1. -/
abbrev Moment := Nat

namespace Moment

/-- A date of the calendar. -/
structure Date where
  year : Nat
  month : Nat
  day : Nat
  deriving DecidableEq, Repr

/-- The microseconds of a second. -/
def second : Nat := 1000000

/-- The seconds of a day. -/
def daySeconds : Nat := 86400

/-- The days from the first of March of the year 0 to the beginning of the year 1. -/
def dayOffset : Nat := 306

/-- The date that lies a number of days after the beginning of the year 1.  Years are counted
from March, so that the leap day comes last. -/
def dateOf (days : Nat) : Date :=
  let day := days + dayOffset
  let era := day / 146097
  let dayOfEra := day % 146097
  let yearOfEra := (dayOfEra - dayOfEra / 1460 + dayOfEra / 36524 - dayOfEra / 146096) / 365
  let dayOfYear := dayOfEra - (365 * yearOfEra + yearOfEra / 4 - yearOfEra / 100)
  let part := (5 * dayOfYear + 2) / 153
  let month := if part < 10 then part + 3 else part - 9
  let year := yearOfEra + era * 400 + (if month ≤ 2 then 1 else 0)
  ⟨year, month, dayOfYear - (153 * part + 2) / 5 + 1⟩

/-- A number with zeros in front up to a width. -/
def padded (width value : Nat) : List Char :=
  let digits := decimalDigits value
  List.replicate (width - digits.length) '0' ++ digits

/-- The text of a fraction of a second. -/
def fractionText (fraction : Nat) : List Char :=
  if fraction = 0 then [] else '.' :: padded 6 fraction

/-- The text of a second of a day. -/
def timeText (time : Nat) : List Char :=
  padded 2 (time / 3600) ++ ':' :: padded 2 (time / 60 % 60) ++ ':' :: padded 2 (time % 60)

/-- The text of a date. -/
def dateText (date : Date) : List Char :=
  padded 4 date.year ++ '-' :: padded 2 date.month ++ '-' :: padded 2 date.day

/-- The text of a moment. -/
def text (moment : Moment) : String :=
  let seconds := moment / second
  String.ofList (dateText (dateOf (seconds / daySeconds)) ++
    'T' :: timeText (seconds % daySeconds) ++ fractionText (moment % second)) ++ "+00:00"

/-- The beginning of the year 2026. -/
def beginning : Moment := 739616 * daySeconds * second

example : text beginning = "2026-01-01T00:00:00+00:00" := by decide +kernel
example : text (beginning + 500) = "2026-01-01T00:00:00.000500+00:00" := by decide +kernel
example : dateOf 739674 = ⟨2026, 2, 28⟩ ∧ dateOf 739675 = ⟨2026, 3, 1⟩ := by decide
example : dateOf 740405 = ⟨2028, 2, 29⟩ ∧ dateOf 739981 = ⟨2027, 1, 1⟩ := by decide

end Moment
end BroadcastGraphics
