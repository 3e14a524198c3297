import BroadcastGraphics.Placeholder

/-!
# Content in a playing component

A playing component fills its placeholders itself: what stands for a name is the text that a script in
a browser makes of the value.  The component looks the name up in an object, and every object has some
functions besides its members.
-/

namespace BroadcastGraphics

namespace Binary64

/-- Digits in front of an exponent, with a point behind the first of several. -/
def pointedDigits : List Char -> List Char
  | first :: second :: rest => first :: '.' :: second :: rest
  | digits => digits

/-- Digits with a point as scripts write them: positional notation from `10 ^ (-6)` up to `10 ^ 21`,
with a fractional part only where there is one, and scientific notation elsewhere. -/
def Decimal.scriptText (decimal : Decimal) : List Char :=
  let count := decimal.digits.length
  if count ≤ decimal.point ∧ decimal.point ≤ 21 then
    decimal.digits ++ List.replicate (decimal.point.toNat - count) '0'
  else if 0 < decimal.point ∧ decimal.point ≤ 21 then
    decimal.digits.take decimal.point.toNat ++ '.' :: decimal.digits.drop decimal.point.toNat
  else if -6 < decimal.point ∧ decimal.point ≤ 0 then
    '0' :: '.' :: List.replicate decimal.point.natAbs '0' ++ decimal.digits
  else
    let exponent := decimal.point - 1
    pointedDigits decimal.digits ++ 'e' :: (if exponent < 0 then '-' else '+') ::
      decimalDigits exponent.natAbs

/-- The text of a number in a script; a zero has no sign. -/
def scriptText : Binary64 -> List Char
  | finite negative rank =>
      let digits := (shortest rank).scriptText
      if negative && rank.val != 0 then '-' :: digits else digits
  | infinite negative => if negative then "-Infinity".toList else "Infinity".toList
  | nan => "NaN".toList

end Binary64

namespace Json

/-- The text of an object in a script. -/
def objectText : List Char :=
  "[object Object]".toList

mutual

/-- The text that a script makes of a value.  A script knows one kind of numbers only.  Of an object
with a member that hides the function `toString` it can not make a text. -/
def scriptText? : Json -> Option (List Char)
  | null => some "null".toList
  | bool value => some (if value then "true" else "false").toList
  | int value => some (Binary64.ofInt value).scriptText
  | float value => some value.scriptText
  | str value => some value.toList
  | arr items => scriptItems? items
  | obj members => if Table.has members "toString" then none else some objectText

/-- Items separated by commas; nothing stands for an item that is nothing. -/
def scriptItems? : List Json -> Option (List Char)
  | [] => some []
  | item :: rest => do
      let first <- (if item.isNull then some [] else scriptText? item)
      let others <- scriptItems? rest
      some (first ++ if rest.isEmpty then [] else ',' :: others)

end

end Json

/-- An engine that runs scripts.  Which text it has for its own functions is left to it, but the first
word is not. -/
structure ScriptEngine where
  functionText : String -> List Char
  startsWithFunction : ∀ name, "function".toList <+: functionText name

namespace ScriptEngine

/-- The functions that every object has in a script. -/
def inheritedFunctions : List String := [
  "constructor", "hasOwnProperty", "isPrototypeOf", "propertyIsEnumerable", "toLocaleString",
  "toString", "valueOf", "__defineGetter__", "__defineSetter__", "__lookupGetter__",
  "__lookupSetter__"]

/-- Under this name every object has the object that its functions come from. -/
def prototypeName : String :=
  "__proto__"

/-- The text of what an object without a member of some name has under that name. -/
def inheritedText? (engine : ScriptEngine) (name : String) : Option (List Char) :=
  if name ∈ inheritedFunctions then some (engine.functionText name)
  else if name = prototypeName then some Json.objectText
  else none

end ScriptEngine

namespace Placeholder

/-- The text a piece becomes in a playing component, if a text can be made of its value. -/
def Piece.played? (engine : ScriptEngine) (data : Table Json) : Piece -> Option (List Char)
  | .plain character => some [character]
  | .token name =>
      match Table.get? data (String.ofList name) with
      | none =>
          some ((engine.inheritedText? (String.ofList name)).getD (Piece.token name).source)
      | some .null => some (Piece.token name).source
      | some value => value.scriptText?

/-- Content as a playing component fills it, if a text can be made of every value. -/
def play? (engine : ScriptEngine) (content : Option String) (data : Table Json) : Option String :=
  match content with
  | none => some ""
  | some content => do
      let texts <- (pieces content).mapM (Piece.played? engine data)
      some (String.ofList texts.flatten)

end Placeholder
end BroadcastGraphics
