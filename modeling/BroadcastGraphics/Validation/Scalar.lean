import BroadcastGraphics.Json.Basic
import BroadcastGraphics.Number.Decimal
import BroadcastGraphics.Text.Blank
import BroadcastGraphics.Validation.Checked

/-!
# Checks of scalars

Incoming scalars are read leniently: numbers and truth values may come as texts, a number without
fraction counts as an integer, and a truth value counts as a number.  Texts are never made from
other kinds of values.  A text is passed on as it is, but nothing is read from one that holds halves
of pairs.
-/

namespace BroadcastGraphics
namespace Check

/-- Any value. -/
def anything (value : Json) : Checked Json :=
  .accepted value

/-- A text. -/
def text : Json -> Checked String
  | .str value => .accepted value
  | _ => .refuse .notText

/-- Read something from a text without halves of pairs. -/
def reading {α : Type} (read : String -> Checked α) (text : String) : Checked α :=
  if text.toList.any Text.HalfPair.isHalf then .refuse .brokenText else read text

/-- A text with at least one character. -/
def filledText (value : Json) : Checked String :=
  (text value).andThen (reading fun text =>
    if text.isEmpty then .refuse .emptyText else .accepted text)

/-- The option that a name stands for. -/
def optionOf {α : Type} (options : Table α) (name : String) : Checked α :=
  match Table.get? options name with
  | some option => .accepted option
  | none => .refuse (.notChoice (Table.names options))

/-- The name of one of several options. -/
def choice {α : Type} (options : Table α) : Json -> Checked α
  | .str name => reading (optionOf options) name
  | _ => .refuse (.notChoice (Table.names options))

/-- Nothing, or a value that passes a check. -/
def optional {α : Type} (check : Json -> Checked α) : Json -> Checked (Option α)
  | .null => .accepted none
  | value => some <$> check value

/-- A list of values that pass a check. -/
def list {α : Type} (check : Json -> Checked α) : Json -> Checked (List α)
  | .arr items => Checked.items check 0 items
  | _ => .refuse .notList

/-- A mapping from names to values that pass a check. -/
def mapping {α : Type} (check : Json -> Checked α) : Json -> Checked (Table α)
  | .obj members => Checked.entries check members
  | _ => .refuse .notMapping

/-- An ASCII digit. -/
def isDigit (character : Char) : Bool :=
  '0' ≤ character && character ≤ '9'

/-- Two underscores stand next to each other. -/
def hasDoubleUnderscore : List Char -> Bool
  | '_' :: '_' :: _ => true
  | _ :: rest => hasDoubleUnderscore rest
  | [] => false

/-- The text without its underscores, provided that each of them stands between two characters
other than underscores and there is one. -/
def withoutUnderscores? (text : List Char) : Option (List Char) :=
  if text.head? == some '_' || text.getLast? == some '_' || !text.contains '_' ||
      hasDoubleUnderscore text then none
  else some (text.filter (· != '_'))

/-- An integer in plain notation: a sign only if negative, and no leading zeros. -/
def plainInteger? (text : List Char) : Option Int :=
  let (negative, digits) := match text with
    | '-' :: rest => (true, rest)
    | _ => (false, text)
  let wellFormed := !digits.isEmpty && digits.all isDigit &&
    (digits.length == 1 || digits.head? != some '0')
  if wellFormed then
    let size : Int := digitsValue digits
    some (if negative then -size else size)
  else none

/-- The most characters, with the sign, of an integer in plain notation. -/
def longestInteger : Nat := 4300

/-- A text that starts with an integer in plain notation of more characters than are read.  What
follows the digits does not matter. -/
def isOversized (text : List Char) : Bool :=
  let (sign, unsigned) := match text with
    | '-' :: rest => (1, rest)
    | _ => (0, text)
  unsigned.head? != some '0' && longestInteger < sign + (unsigned.takeWhile isDigit).length

/-- What remains after leading zeros, given the character before: the last zero stays before a
point and at the end.  A minus after the zeros counts as the start of the number. -/
def afterZeros? (last : Char) : List Char -> Option (List Char)
  | [] => some [last]
  | character :: rest =>
      if character == '0' || character == '_' then afterZeros? character rest
      else if isDigit character || character == '-' then some (character :: rest)
      else if character == '.' then some (last :: character :: rest)
      else none

/-- A number text without its leading zeros; the text has to start with a digit or a minus. -/
def withoutLeadingZeros? : List Char -> Option (List Char)
  | '0' :: rest => afterZeros? '0' rest
  | '-' :: rest => some ('-' :: rest)
  | character :: rest => if isDigit character then some (character :: rest) else none
  | [] => none

/-- A number text without a point that only zeros follow, at least one of them. -/
def withoutZeroFraction (text : List Char) : List Char :=
  let fraction := (text.dropWhile (· != '.')).drop 1
  if !fraction.isEmpty && fraction.all (· == '0') then text.takeWhile (· != '.') else text

/-- A number text without sign in the looser notation brought into plain notation: without leading
zeros, a fraction of zeros or underscores between digits. -/
def plainSize? (text : List Char) : Option (List Char) :=
  (withoutLeadingZeros? text).map fun stripped =>
    let whole := withoutZeroFraction stripped
    (withoutUnderscores? whole).getD whole

/-- A text in the looser notation for integers brought into plain notation; a plus sign is left
out and no other sign may follow it. -/
def plainNotation? : List Char -> Option (List Char)
  | '-' :: rest => (plainSize? rest).map ('-' :: ·)
  | '+' :: '-' :: _ => none
  | '+' :: rest => plainSize? rest
  | text => plainSize? text

/-- The integer that a text in plain notation stands for, if it is not too long. -/
def integerOfPlain (text : List Char) : Checked Int :=
  if isOversized text then .refuse .oversizedInteger
  else match plainInteger? text with
    | some value => .accepted value
    | none => .refuse .unreadableInteger

/-- The integer that a text stands for. -/
def integerOfText (text : String) : Checked Int :=
  let trimmed := Text.trimBy Text.isWhiteSpace text.toList
  if isOversized trimmed then .refuse .oversizedInteger
  else match plainInteger? trimmed with
    | some value => .accepted value
    | none =>
        match plainNotation? trimmed with
        | some plain => integerOfPlain plain
        | none => .refuse .unreadableInteger

/-- An integer read from a number with a point lies strictly within this distance from zero. -/
def floatIntegerBound : Int := 0x8000000000000000

/-- An integer. -/
def integer : Json -> Checked Int
  | .int value => .accepted value
  | .bool value => .accepted (if value then 1 else 0)
  | .float value =>
      if !value.isFinite then .refuse .notFinite
      else match value.whole? with
        | some whole =>
            if -floatIntegerBound < whole && whole < floatIntegerBound then .accepted whole
            else .refuse .oversizedInteger
        | none => .refuse .fractional
  | .str text => reading integerOfText text
  | _ => .refuse .notInteger

/-- An integer above zero. -/
def positiveInteger (value : Json) : Checked Int :=
  (integer value).andThen fun number =>
    if 0 < number then .accepted number else .refuse .notPositive

/-- The exponent that ends a number text, zero if there is none. -/
def exponent? : List Char -> Option Int
  | [] => some 0
  | letter :: rest =>
      let (negative, digits) := match rest with
        | '-' :: more => (true, more)
        | '+' :: more => (false, more)
        | _ => (false, rest)
      if (letter == 'e' || letter == 'E') && !digits.isEmpty && digits.all isDigit then
        let size : Int := digitsValue digits
        some (if negative then -size else size)
      else none

/-- A number in decimal notation without sign: digits with at most one point before, between or
after them, and perhaps an exponent. -/
def unsignedNumber? (negative : Bool) (text : List Char) : Option Binary64 :=
  let whole := text.takeWhile isDigit
  let afterWhole := text.dropWhile isDigit
  let (fraction, rest) := match afterWhole with
    | '.' :: more => (more.takeWhile isDigit, more.dropWhile isDigit)
    | _ => ([], afterWhole)
  if whole.isEmpty && fraction.isEmpty then none
  else (exponent? rest).map fun exponent =>
    Binary64.ofDecimal negative (digitsValue (whole ++ fraction)) (exponent - fraction.length)

/-- A small ASCII letter in place of a capital one. -/
def smallLetter (character : Char) : Char :=
  if 'A' ≤ character && character ≤ 'Z' then Char.ofNat (character.toNat + 32) else character

/-- The number that a text without blanks around it stands for. -/
def numberOfTrimmed? (text : List Char) : Option Binary64 :=
  let (negative, unsigned) := match text with
    | '-' :: rest => (true, rest)
    | '+' :: rest => (false, rest)
    | _ => (false, text)
  let word := String.ofList (unsigned.map smallLetter)
  if word == "inf" || word == "infinity" then some (.infinite negative)
  else if word == "nan" then some .nan
  else unsignedNumber? negative unsigned

/-- The number that a text stands for; blanks around it and underscores inside it do not go
together. -/
def numberOfText? (text : String) : Option Binary64 :=
  match numberOfTrimmed? (Text.trimBy Text.isWhiteSpace text.toList) with
  | some number => some number
  | none => (withoutUnderscores? text.toList).bind numberOfTrimmed?

/-- The number that a text has to stand for. -/
def numberOfText (text : String) : Checked Binary64 :=
  match numberOfText? text with
  | some value => .accepted value
  | none => .refuse .unreadableNumber

/-- A number. -/
def number : Json -> Checked Binary64
  | .float value => .accepted value
  | .bool value => .accepted (Binary64.ofInt (if value then 1 else 0))
  | .int value =>
      let nearest := Binary64.ofInt value
      if nearest.isFinite then .accepted nearest else .refuse .notNumber
  | .str text => reading numberOfText text
  | _ => .refuse .notNumber

/-- A finite number. -/
def finiteNumber (value : Json) : Checked Binary64 :=
  (number value).andThen fun number =>
    if number.isFinite then .accepted number else .refuse .notFinite

/-- The words for truth values. -/
def truthWords : Table Bool :=
  [("0", false), ("off", false), ("f", false), ("false", false), ("n", false), ("no", false),
    ("1", true), ("on", true), ("t", true), ("true", true), ("y", true), ("yes", true)]

/-- The truth value of an integer: zero or one; integers of more than 64 bits are no attempt at
one. -/
def truthOfInteger (value : Int) : Checked Bool :=
  if value == 0 then .accepted false
  else if value == 1 then .accepted true
  else if -floatIntegerBound ≤ value && value < floatIntegerBound then .refuse .unclearTruth
  else .refuse .notTruth

/-- The truth value that a text has to stand for; capital letters count as small ones. -/
def truthOfText (text : String) : Checked Bool :=
  match Table.get? truthWords (String.ofList (text.toList.map smallLetter)) with
  | some value => .accepted value
  | none => .refuse .unclearTruth

/-- A truth value. -/
def truth : Json -> Checked Bool
  | .bool value => .accepted value
  | .int value => truthOfInteger value
  | .float value =>
      match value.whole? with
      | none => .refuse .notTruth
      | some whole =>
          if -floatIntegerBound < whole then truthOfInteger whole else .refuse .notTruth
  | .str text => reading truthOfText text
  | _ => .refuse .notTruth

end Check
end BroadcastGraphics
