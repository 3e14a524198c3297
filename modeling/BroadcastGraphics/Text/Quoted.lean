import BroadcastGraphics.Text.HalfPair
import BroadcastGraphics.Text.Printable

/-!
# Quoted texts in messages

A text is shown in a message between single quotes, or between double quotes when it holds single
quotes only.  The quote in use and the backslash are written after a backslash, line ends and tabs
by their letters, and every other unprintable character by its code point.
-/

namespace BroadcastGraphics
namespace Text

/-- A number in hexadecimal digits, padded with zeros to a width. -/
def hexPadded (width value : Nat) : List Char :=
  let digits := Nat.toDigits 16 value
  List.replicate (width - digits.length) '0' ++ digits

/-- The escape of an unprintable character: two, four or eight hexadecimal digits, the unit for the
half of a pair. -/
def codePointEscape (character : Char) : List Char :=
  let point := (HalfPair.unit? character).getD character.toNat
  if point < 0x100 then '\x5c' :: 'x' :: hexPadded 2 point
  else if point < 0x10000 then '\x5c' :: 'u' :: hexPadded 4 point
  else '\x5c' :: 'U' :: hexPadded 8 point

/-- One character of a quoted text. -/
def quotedCharacter (quote character : Char) : List Char :=
  if character == quote || character == '\x5c' then ['\x5c', character]
  else if character == '\n' then ['\x5c', 'n']
  else if character == '\r' then ['\x5c', 'r']
  else if character == '\t' then ['\x5c', 't']
  else if isPrintable character then [character]
  else codePointEscape character

/-- The quote that encloses a text. -/
def enclosingQuote (text : List Char) : Char :=
  if text.contains '\x27' && !text.contains '\x22' then '\x22' else '\x27'

/-- The quoted form of a text. -/
def quoted (text : List Char) : List Char :=
  let quote := enclosingQuote text
  quote :: text.flatMap (quotedCharacter quote) ++ [quote]

end Text
end BroadcastGraphics
