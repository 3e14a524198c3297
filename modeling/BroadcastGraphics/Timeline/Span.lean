import BroadcastGraphics.Fault

/-!
# Spans of time

A span is given as a number or as an integer of any size.  A clock counts in double-precision
numbers, so an integer beyond all of them is no span that a clock can measure, and neither is a
value of another kind.
-/

namespace BroadcastGraphics

/-- The number nearest to an integer, if the integer is not beyond all numbers. -/
def Binary64.nearest? (value : Int) : Option Binary64 :=
  let nearest := Binary64.ofInt value
  if nearest.isFinite then some nearest else none

/-- A span of time in milliseconds, or what was given in place of one. -/
inductive Span where
  | number (value : Binary64)
  | integer (value : Int)
  | unknown
  deriving DecidableEq, Repr

namespace Span

/-- The span that a value gives. -/
def ofJson : Json -> Span
  | .float value => number value
  | .int value => integer value
  | .bool value => integer (if value then 1 else 0)
  | _ => unknown

/-- The number nearest to an integer, on a clock that has one. -/
def ofInteger (value : Int) : Except Fault Binary64 :=
  (Binary64.nearest? value).elim (.error .outOfRange) .ok

/-- The span as a clock measures it. -/
def measured : Span -> Except Fault Binary64
  | number value => .ok value
  | integer value => ofInteger value
  | unknown => .error .wrongShape

/-- The span as a delay: a negative one counts as none. -/
def delay : Span -> Except Fault Binary64
  | number value => .ok value.atLeastZero
  | integer value => ofInteger (max value 0)
  | unknown => .error .wrongShape

end Span
end BroadcastGraphics
