import BroadcastGraphics.Json.Basic
import BroadcastGraphics.Number.Decimal
import BroadcastGraphics.Text.Quoted

/-!
# Values shown in texts

Messages, style values and live text show JSON values in words.  A text stands for itself at the
top and is quoted inside a list or an object.  Live text differs from the other uses in two points:
truth values are written in lower case and a number without fraction is written as an integer.
-/

namespace BroadcastGraphics
namespace Json

/-- The names under which messages show the values without digits. -/
def displayNames : Binary64.SpecialNames := ⟨"nan", "inf"⟩

/-- The words for truth values in messages. -/
def truthWord (value : Bool) : String :=
  if value then "True" else "False"

mutual

/-- A value as it is shown inside another value, with texts quoted. -/
def displayInner : Json -> List Char
  | null => "None".toList
  | bool value => (truthWord value).toList
  | int value => (integerText value).toList
  | float value => (value.text displayNames).toList
  | str value => Text.quoted value.toList
  | arr items => '[' :: displayItems items ++ [']']
  | obj members => '\x7b' :: displayMembers members ++ ['\x7d']

/-- Items separated by commas. -/
def displayItems : List Json -> List Char
  | [] => []
  | item :: rest =>
      displayInner item ++ (match rest with
        | [] => []
        | _ :: _ => ',' :: ' ' :: displayItems rest)

/-- Members separated by commas, each name quoted. -/
def displayMembers : List (String × Json) -> List Char
  | [] => []
  | (name, value) :: rest =>
      Text.quoted name.toList ++ ':' :: ' ' :: displayInner value ++ (match rest with
        | [] => []
        | _ :: _ => ',' :: ' ' :: displayMembers rest)

end

/-- A value as a message quotes it. -/
def quotedDisplay (value : Json) : String :=
  String.ofList (displayInner value)

/-- A value as a text: a text stands for itself. -/
def display : Json -> String
  | str value => value
  | value => quotedDisplay value

/-- A value as live text. -/
def liveText : Json -> String
  | bool value => if value then "true" else "false"
  | float value =>
      match value.whole? with
      | some whole => integerText whole
      | none => value.text displayNames
  | value => display value

end Json
end BroadcastGraphics
