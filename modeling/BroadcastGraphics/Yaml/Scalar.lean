import BroadcastGraphics.Fault
import BroadcastGraphics.Text.Search
import BroadcastGraphics.Validation.Scalar
import BroadcastGraphics.Yaml.DateTime

/-!
# Plain scalars

What a scalar without quotes and without a tag stands for is seen from its text: nothing, a truth
value, a number, a date, a sign of its own, or the text itself.  Integers can be written in several
bases, and numbers in parts of sixty; a number without a point is never a fraction.
-/

namespace BroadcastGraphics
namespace Yaml

/-- What the text of a scalar looks like. -/
inductive ScalarKind where
  | empty
  | truth
  | integer
  | fraction
  | moment
  | merge
  | standard
  | text
  deriving DecidableEq, Repr

/-- The words that stand for nothing. -/
def emptyWords : List String :=
  ["", "~", "null", "Null", "NULL"]

/-- The words that stand for truth values. -/
def truthWords : Table Bool :=
  [("yes", true), ("Yes", true), ("YES", true), ("no", false), ("No", false), ("NO", false),
    ("true", true), ("True", true), ("TRUE", true), ("false", false), ("False", false),
    ("FALSE", false), ("on", true), ("On", true), ("ON", true), ("off", false), ("Off", false),
    ("OFF", false)]

/-- The words that stand for the infinite number. -/
def infiniteWords : List String := [".inf", ".Inf", ".INF"]

/-- The words that stand for no number. -/
def nanWords : List String := [".nan", ".NaN", ".NAN"]

/-- A character that groups digits. -/
def isGrouping (character : Char) : Bool :=
  character == '_'

/-- The digits of a number without those that group them. -/
def withoutGrouping (digits : List Char) : List Char :=
  digits.filter fun digit => !isGrouping digit

/-- A digit of a base or a character that groups digits. -/
def isGroupedDigit (base : Nat) (character : Char) : Bool :=
  isGrouping character || (Json.Reader.hexValue? character).any (· < base)

/-- The sign of a number and the rest of it. -/
def splitSign : List Char -> Bool × List Char
  | '-' :: rest => (true, rest)
  | '+' :: rest => (false, rest)
  | text => (false, text)

/-- One or two digits below sixty. -/
def isSixtieth (digits : List Char) : Bool :=
  !digits.isEmpty && digits.length ≤ 2 && digits.all Json.Reader.isDigit && digitsValue digits < 60

/-- Parts of sixty after a first part. -/
def areSixtieths (parts : List (List Char)) : Bool :=
  !parts.isEmpty && parts.all isSixtieth

/-- An integer without sign. -/
def isMagnitude : List Char -> Bool
  | [] => false
  | ['0'] => true
  | '0' :: 'b' :: digits => !digits.isEmpty && digits.all (isGroupedDigit 2)
  | '0' :: 'x' :: digits => !digits.isEmpty && digits.all (isGroupedDigit 16)
  | '0' :: digits => digits.all (isGroupedDigit 8)
  | first :: rest =>
      Json.Reader.isDigit first && match Text.splitAt ':' (first :: rest) with
        | [whole] => whole.all (isGroupedDigit 10)
        | whole :: parts => whole.all (isGroupedDigit 10) && areSixtieths parts
        | [] => false

/-- The exponent of a fraction, which has its sign. -/
def isSignedExponent : List Char -> Bool
  | [] => true
  | letter :: sign :: digits =>
      (letter == 'e' || letter == 'E') && (sign == '-' || sign == '+') && !digits.isEmpty &&
        digits.all Json.Reader.isDigit
  | _ => false

/-- Digits that start with one that groups nothing. -/
def startsWithDigit (text : List Char) : Bool :=
  text.head?.any Json.Reader.isDigit

/-- A fraction in parts of sixty: the last part has a point. -/
def isSixtiethFraction (unsigned : List Char) : Bool :=
  let (digits, places) := (unsigned.takeWhile (· != '.'), unsigned.dropWhile (· != '.'))
  match Text.splitAt ':' digits, places with
  | whole :: parts, '.' :: places =>
      startsWithDigit whole && whole.all (isGroupedDigit 10) && areSixtieths parts &&
        places.all (isGroupedDigit 10)
  | _, _ => false

/-- A fraction: digits with a point, and perhaps an exponent.  A sign needs a digit before the
point. -/
def isFraction (signed : Bool) (unsigned : List Char) : Bool :=
  let whole := unsigned.takeWhile (isGroupedDigit 10)
  match unsigned.dropWhile (isGroupedDigit 10) with
  | '.' :: rest =>
      let leads := if whole.isEmpty then !signed && startsWithDigit rest else startsWithDigit whole
      leads && isSignedExponent (rest.dropWhile (isGroupedDigit 10))
  | _ => isSixtiethFraction unsigned

/-- What the text of a plain scalar looks like. -/
def ScalarKind.of (word : String) : ScalarKind :=
  let text := word.toList
  let (_, unsigned) := splitSign text
  let signed := unsigned.length != text.length
  if word ∈ emptyWords then .empty
  else if Table.has truthWords word then .truth
  else if String.ofList unsigned ∈ infiniteWords || word ∈ nanWords || isFraction signed unsigned
    then .fraction
  else if isMagnitude unsigned then .integer
  else if (DateTime.ofText? 2 text).isSome then .moment
  else if word == "<<" then .merge
  else if word == "=" then .standard
  else .text

/-- The most digits that a decimal integer may have. -/
def mostDigits : Nat := 4300

/-- The value of digits in a base. -/
def digitsIn (base : Nat) (digits : List Char) : Except Fault Nat :=
  let value? := digits.foldlM (fun value digit =>
    match Json.Reader.hexValue? digit with
    | some next => if next < base then some (base * value + next) else none
    | none => none) 0
  match value? with
  | some value =>
      if digits.isEmpty then .error (.misuse (.notNumeral base ""))
      else if base == 10 && mostDigits < digits.length then
        .error (.misuse (.longInteger digits.length))
      else .ok value
  | none => .error (.misuse (.notNumeral base (String.ofList digits)))

/-- The integer without sign that a text stands for, which is not empty. -/
def magnitude : List Char -> Except Fault Nat
  | [] => .error .noSuchPlace
  | ['0'] => .ok 0
  | '0' :: 'b' :: digits => digitsIn 2 digits
  | '0' :: 'x' :: digits => digitsIn 16 digits
  | '0' :: digits => digitsIn 8 ('0' :: digits)
  | digits => do
      let parts <- (Text.splitAt ':' digits).mapM (digitsIn 10)
      .ok (parts.foldl (fun value part => 60 * value + part) 0)

/-- The integer that a text stands for. -/
def integerOf (word : String) : Except Fault Int := do
  let (negative, unsigned) := splitSign (withoutGrouping word.toList)
  let size <- magnitude unsigned
  .ok (if negative then -(size : Int) else size)

/-- The number of a decimal text. -/
def decimalOf (text : List Char) : Except Fault Binary64 :=
  match Check.unsignedNumber? false text with
  | some number => .ok number
  | none => .error (.misuse (.notDecimal (String.ofList text)))

/-- The sum of parts of sixty, the last part coming first, when each counts a number of times. -/
def sixtiethsSum (sum : Binary64) (times : Nat) : List Binary64 -> Binary64
  | [] => sum
  | part :: rest => sixtiethsSum (sum.add (part.times times)) (60 * times) rest

/-- The number that a text stands for, which is not empty. -/
def fractionOf (word : String) : Except Fault Binary64 := do
  let digits := withoutGrouping word.toList
  let (negative, unsigned) := splitSign digits
  if digits.isEmpty then .error .noSuchPlace
  else if String.ofList unsigned ∈ infiniteWords then .ok (.infinite negative)
  else if String.ofList unsigned ∈ nanWords then .ok .nan
  else
    let parts <- (Text.splitAt ':' unsigned).mapM decimalOf
    let size := match parts with
      | [number] => number
      | parts => sixtiethsSum .zero 1 parts.reverse
    .ok (if negative then size.negated else size)

/-- The date and time that a text stands for. -/
def momentOf (word : String) : Except Fault Json :=
  match DateTime.ofText? 1 word.toList with
  | none => .error .noMembers
  | some moment =>
      match moment.problem? with
      | some problem => .error (.misuse (.offCalendar problem))
      | none => .ok moment.toJson

end Yaml
end BroadcastGraphics
