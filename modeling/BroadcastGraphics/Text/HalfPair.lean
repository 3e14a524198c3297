/-!
# Halves of pairs

Escapes name characters by units of sixteen bits, and a character beyond the first sixteen bits
takes a pair of units.  A unit that is half of no pair names no character.  A text keeps it as a
private character, one for each such unit, from which the escape can be written again; a text that
holds one cannot be written in UTF-8.
-/

namespace BroadcastGraphics
namespace Text
namespace HalfPair

/-- What is added to a unit to make its private character. -/
def offset : Nat := 0x100000

/-- The character that stands for a unit: its own, or the private one of a half. -/
def ofUnit (unit : Nat) : Char :=
  if 0xd800 ≤ unit && unit < 0xe000 then Char.ofNat (offset + unit) else Char.ofNat unit

/-- The unit that a private character stands for. -/
def unit? (character : Char) : Option Nat :=
  if offset + 0xd800 ≤ character.toNat && character.toNat < offset + 0xe000 then
    some (character.toNat - offset)
  else none

/-- A character stands for the half of a pair. -/
def isHalf (character : Char) : Bool :=
  (unit? character).isSome

/-- A run of halves in a text: the place of its first one, the unit there, and its length. -/
structure Run where
  start : Nat
  unit : Nat
  length : Nat
  deriving DecidableEq, Repr

/-- A run in a text that stands after some more characters. -/
def Run.after (distance : Nat) (run : Run) : Run :=
  { run with start := run.start + distance }

/-- The first run of halves in a text. -/
def firstRun? (text : List Char) : Option Run :=
  let halves := text.dropWhile fun character => !isHalf character
  (halves.head?.bind unit?).map fun unit =>
    ⟨text.length - halves.length, unit, (halves.takeWhile isHalf).length⟩

/-- A character stands for a half that is itself written as one byte, where names are bytes. -/
def isByte (character : Char) : Bool :=
  (unit? character).any fun unit => 0xdc80 ≤ unit && unit < 0xdd00

/-- The first run of halves that cannot be written where names are bytes: it begins with a half that
is no byte. -/
def firstRunBeyondBytes? (text : List Char) : Option Run :=
  let rest := text.dropWhile fun character => !isHalf character || isByte character
  (firstRun? rest).map (Run.after (text.length - rest.length))

/-- The message that a text with a run of halves cannot be written in UTF-8. -/
def Run.message (run : Run) : String :=
  let place := fun (position : Nat) => String.ofList (Nat.toDigits 10 position)
  "'utf-8' codec can't encode " ++
    (if run.length == 1 then
      "character '\\u" ++ String.ofList (Nat.toDigits 16 run.unit) ++ "' in position " ++
        place run.start
    else "characters in position " ++ place run.start ++ "-" ++
      place (run.start + run.length - 1)) ++
    ": surrogates not allowed"

end HalfPair
end Text
end BroadcastGraphics
