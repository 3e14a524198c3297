import BroadcastGraphics.Json.Basic
import BroadcastGraphics.Number.Decimal
import BroadcastGraphics.Text.HalfPair

/-!
# Reading JSON text

The reader accepts the JSON grammar and the words for the values without digits.  A number is an
integer of any size unless it has a fraction or an exponent; of two members of one name the later
value stays, at the place of the earlier.  A malformed text is refused at an offset, and the readers
below report it as the characters that remained there.  Limits on the digits of an integer and on
the nesting of lists and objects keep a text from costing more than it is worth.

An escape may name a unit that is half of no pair.  Such a unit has no character, and the text holds
the private character that stands for it (`Text.HalfPair`).
-/

namespace BroadcastGraphics
namespace Json

/-- Why a text is refused. -/
inductive Unreadable where
  | malformed (offset : Nat)
  | longInteger (digits : Nat)
  | tooDeep
  deriving DecidableEq, Repr

namespace Reader

/-- The most digits of an integer and the deepest nesting of lists and objects that are read. -/
structure Limits where
  digits : Nat
  depth : Nat
  deriving DecidableEq, Repr

/-- The limits for texts that come from outside. -/
def Limits.standard : Limits := ⟨4300, 985⟩

/-- Why reading stopped: a mistake, with the characters that remained at it, or a limit. -/
inductive Stop where
  | mistake (remaining : List Char)
  | longInteger (digits : Nat)
  | tooDeep
  deriving DecidableEq, Repr

/-- The blanks that may stand between the parts of a text. -/
def isGap (character : Char) : Bool :=
  character == ' ' || character == '\t' || character == '\n' || character == '\r'

/-- Pass over blanks. -/
def skipGap (input : List Char) : List Char :=
  input.dropWhile isGap

/-- An ASCII digit. -/
def isDigit (character : Char) : Bool :=
  '0' ≤ character && character ≤ '9'

/-- The value of a hexadecimal digit. -/
def hexValue? (character : Char) : Option Nat :=
  if '0' ≤ character && character ≤ '9' then some (character.toNat - '0'.toNat)
  else if 'a' ≤ character && character ≤ 'f' then some (character.toNat - 'a'.toNat + 10)
  else if 'A' ≤ character && character ≤ 'F' then some (character.toNat - 'A'.toNat + 10)
  else none

/-- Four hexadecimal digits that are not the end of the text. -/
def unit? : List Char -> Option (Nat × List Char)
  | first :: second :: third :: fourth :: next :: rest => do
      let first <- hexValue? first
      let second <- hexValue? second
      let third <- hexValue? third
      let fourth <- hexValue? fourth
      some (((first * 16 + second) * 16 + third) * 16 + fourth, next :: rest)
  | _ => none

/-- The character of a one-letter escape. -/
def letterEscape? (character : Char) : Option Char :=
  if character == '\x22' || character == '\x5c' || character == '/' then some character
  else if character == 'b' then some '\x08'
  else if character == 'f' then some '\x0c'
  else if character == 'n' then some '\n'
  else if character == 'r' then some '\r'
  else if character == 't' then some '\t'
  else none

/-- The character of an escaped unit, taking a second unit when the first opens a pair. -/
def unitCharacter (unit : Nat) (rest : List Char) : Except Stop (Char × List Char) :=
  if 0xd800 ≤ unit && unit < 0xdc00 then
    match rest with
    | '\x5c' :: 'u' :: more =>
        if more.length < 5 then .ok (Text.HalfPair.ofUnit unit, rest)
        else match unit? more with
          | some (low, after) =>
              if 0xdc00 ≤ low && low < 0xe000 then
                .ok (Char.ofNat (0x10000 + (unit - 0xd800) * 0x400 + (low - 0xdc00)), after)
              else .ok (Text.HalfPair.ofUnit unit, rest)
          | none => .error (.mistake ('u' :: more))
    | _ => .ok (Text.HalfPair.ofUnit unit, rest)
  else .ok (Text.HalfPair.ofUnit unit, rest)

/-- The characters of a string after its opening quote.  `start` is the text from that quote on:
the place of the mistake if the string has no end. -/
def readString (start : List Char) :
    Nat -> List Char -> Except Stop (List Char × List Char)
  | 0, _ => .error (.mistake start)
  | _ + 1, [] => .error (.mistake start)
  | fuel + 1, character :: rest =>
      if character == '\x22' then .ok ([], rest)
      else if character == '\x5c' then
        match rest with
        | [] => .error (.mistake start)
        | 'u' :: digits =>
            match unit? digits with
            | none => .error (.mistake rest)
            | some (unit, more) => do
                let (decoded, after) <- unitCharacter unit more
                let (text, remaining) <- readString start fuel after
                .ok (decoded :: text, remaining)
        | letter :: more =>
            match letterEscape? letter with
            | none => .error (.mistake (character :: rest))
            | some decoded => do
                let (text, remaining) <- readString start fuel more
                .ok (decoded :: text, remaining)
      else if character.toNat < 0x20 then .error (.mistake (character :: rest))
      else do
        let (text, remaining) <- readString start fuel rest
        .ok (character :: text, remaining)

/-- The digits of a whole part: a zero alone or a run that starts with another digit. -/
def wholeDigits? (input : List Char) : Option (List Char × List Char) :=
  match input with
  | '0' :: rest => some (['0'], rest)
  | character :: _ =>
      if isDigit character then some (input.takeWhile isDigit, input.dropWhile isDigit) else none
  | [] => none

/-- The digits of a fraction, if a point and a digit follow. -/
def fractionDigits (input : List Char) : List Char × List Char :=
  match input with
  | '.' :: rest =>
      if (rest.takeWhile isDigit).isEmpty then ([], input)
      else (rest.takeWhile isDigit, rest.dropWhile isDigit)
  | _ => ([], input)

/-- The exponent, if its letter and a digit follow. -/
def exponent? (input : List Char) : Option (Int × List Char) :=
  match input with
  | letter :: rest =>
      if letter == 'e' || letter == 'E' then
        let (negative, digits) := match rest with
          | '-' :: more => (true, more)
          | '+' :: more => (false, more)
          | _ => (false, rest)
        if (digits.takeWhile isDigit).isEmpty then none
        else
          let size : Int := digitsValue (digits.takeWhile isDigit)
          some (if negative then -size else size, digits.dropWhile isDigit)
      else none
  | [] => none

/-- The number with a sign and a whole part: an integer unless a fraction or an exponent follows. -/
def numberFrom (negative : Bool) (whole afterWhole : List Char) : Json × List Char :=
  let (fraction, afterFraction) := fractionDigits afterWhole
  let float := fun (exponent : Int) =>
    Json.float (Binary64.ofDecimal negative (digitsValue (whole ++ fraction))
      (exponent - fraction.length))
  match exponent? afterFraction with
  | some (exponent, rest) => (float exponent, rest)
  | none =>
      if fraction.isEmpty then
        let value : Int := digitsValue whole
        (.int (if negative then -value else value), afterWhole)
      else (float 0, afterFraction)

/-- Whether there is a minus in front, and what follows it. -/
def splitSign : List Char -> Bool × List Char
  | '-' :: rest => (true, rest)
  | input => (false, input)

/-- A number at the start of the input. -/
def number? (input : List Char) : Option (Json × List Char) :=
  let (negative, unsigned) := splitSign input
  (wholeDigits? unsigned).map fun (whole, afterWhole) => numberFrom negative whole afterWhole

/-- The rest of an input that starts with a word. -/
def afterWord? (word input : List Char) : Option (List Char) :=
  if word.isPrefixOf input then some (input.drop word.length) else none

/-- A value that is a word. -/
def word? (input : List Char) : Option (Json × List Char) :=
  let words : List (String × Json) := [("null", .null), ("true", .bool true),
    ("false", .bool false), ("NaN", .float .nan), ("Infinity", .float (.infinite false)),
    ("-Infinity", .float (.infinite true))]
  words.findSome? fun (word, value) =>
    (afterWord? word.toList input).map fun rest => (value, rest)

/-- A scalar other than a string. -/
def scalar? (input : List Char) : Option (Json × List Char) :=
  match word? input with
  | some found => some found
  | none => number? input

/-- The number of digits of an integer at the start of the input. -/
def integerDigits : List Char -> Nat
  | '-' :: rest => (rest.takeWhile isDigit).length
  | input => (input.takeWhile isDigit).length

/-- A scalar other than a string, with no more digits than an integer may have. -/
def readScalar (limits : Limits) (input : List Char) : Except Stop (Json × List Char) :=
  match scalar? input with
  | some (.int value, rest) =>
      if limits.digits < integerDigits input then .error (.longInteger (integerDigits input))
      else .ok (.int value, rest)
  | some found => .ok found
  | none => .error (.mistake input)

mutual

/-- One value at the start of the input; `room` is how many more levels of lists and objects may be
opened. -/
def readValue (limits : Limits) : Nat -> Nat -> List Char -> Except Stop (Json × List Char)
  | 0, _, input => .error (.mistake input)
  | fuel + 1, room, input =>
      match input with
      | '\x22' :: rest => do
          let (characters, remaining) <- readString input (rest.length + 1) rest
          .ok (.str (String.ofList characters), remaining)
      | '[' :: rest =>
          match room, skipGap rest with
          | 0, _ => .error .tooDeep
          | _ + 1, ']' :: remaining => .ok (.arr [], remaining)
          | room + 1, first => do
              let (items, remaining) <- readItems limits fuel room first
              .ok (.arr items, remaining)
      | '\x7b' :: rest =>
          match room, skipGap rest with
          | 0, _ => .error .tooDeep
          | _ + 1, '\x7d' :: remaining => .ok (.obj [], remaining)
          | room + 1, first => do
              let (members, remaining) <- readMembers limits fuel room [] first
              .ok (.obj members, remaining)
      | _ => readScalar limits input

/-- The items of a list up to its closing bracket. -/
def readItems (limits : Limits) : Nat -> Nat -> List Char -> Except Stop (List Json × List Char)
  | 0, _, input => .error (.mistake input)
  | fuel + 1, room, input => do
      let (item, remaining) <- readValue limits fuel room input
      match skipGap remaining with
      | ']' :: after => .ok ([item], after)
      | ',' :: after => do
          let (items, rest) <- readItems limits fuel room (skipGap after)
          .ok (item :: items, rest)
      | remaining => .error (.mistake remaining)

/-- The members of an object up to its closing brace, written over the members read before. -/
def readMembers (limits : Limits) :
    Nat -> Nat -> Table Json -> List Char -> Except Stop (Table Json × List Char)
  | 0, _, _, input => .error (.mistake input)
  | fuel + 1, room, before, input =>
      match input with
      | '\x22' :: rest => do
          let (name, afterName) <- readString input (rest.length + 1) rest
          match skipGap afterName with
          | ':' :: afterColon => do
              let (value, remaining) <- readValue limits fuel room (skipGap afterColon)
              let members := Table.put before (String.ofList name) value
              match skipGap remaining with
              | '\x7d' :: after => .ok (members, after)
              | ',' :: after => readMembers limits fuel room members (skipGap after)
              | remaining => .error (.mistake remaining)
          | remaining => .error (.mistake remaining)
      | remaining => .error (.mistake remaining)

end

/-- A whole text: one value between blanks. -/
def readText (limits : Limits) (input : List Char) : Except Stop Json := do
  let (value, remaining) <- readValue limits (2 * input.length + 2) limits.depth (skipGap input)
  match skipGap remaining with
  | [] => .ok value
  | remaining => .error (.mistake remaining)

end Reader

/-- The value of a JSON text within limits, or why the text is refused. -/
def parseWithin (limits : Reader.Limits) (text : String) : Except Unreadable Json :=
  let input := text.toList
  if input.head? == some '\ufeff' then .error (.malformed 0)
  else match Reader.readText limits input with
    | .ok value => .ok value
    | .error (.mistake remaining) => .error (.malformed (input.length - remaining.length))
    | .error (.longInteger digits) => .error (.longInteger digits)
    | .error .tooDeep => .error .tooDeep

/-- The value of a JSON text, or why the text is refused. -/
def parse (text : String) : Except Unreadable Json :=
  parseWithin .standard text

end Json
end BroadcastGraphics
