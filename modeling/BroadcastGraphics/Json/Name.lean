import BroadcastGraphics.Json.Display
import BroadcastGraphics.Json.Printer
import BroadcastGraphics.Json.Reader

/-!
# Names that are no texts

Settings and lists of pairs can name a member by any scalar.  A scalar other than a text is kept as
a mark followed by its JSON text, and no text that is looked up equals such a name.  Two scalars of
equal value are one name, in the spelling that came first.
-/

namespace BroadcastGraphics
namespace Json
namespace Name

/-- The mark before the name of a member that is named by a scalar other than a text. -/
def mark : Char := Char.ofNat 0x10fffe

/-- The name of a member that a scalar names. -/
def ofScalar : Json -> String
  | str text => text
  | scalar => String.ofList (mark :: (scalar.text .oneLine).toList)

/-- A name is a text. -/
def isText (name : String) : Bool :=
  name.toList.head? != some mark

/-- The scalar that names a member. -/
def toJson (name : String) : Json :=
  match name.toList with
  | character :: rest =>
      if character == mark then
        ((parse (String.ofList rest)).toOption.filter isScalar).getD (str name)
      else str name
  | [] => str name

/-- A name as it is shown. -/
def shown (name : String) : String :=
  (toJson name).display

/-- A name as a step to a member: a truth value counts as a number there. -/
def stepText (name : String) : String :=
  match toJson name with
  | bool value => if value then "1" else "0"
  | value => value.display

/-- Write a member under a scalar, in place of one whose name has the same value. -/
def put (members : Table Json) (scalar value : Json) : Table Json :=
  match scalar with
  | str name => Table.put members name value
  | scalar =>
      match members.find? fun member => sameScalar (toJson member.1) scalar with
      | some (name, _) => Table.put members name value
      | none => Table.put members (ofScalar scalar) value

/-- A name is an integer with more digits than can be read or shown. -/
def isLongInteger (name : String) : Bool :=
  match name.toList with
  | character :: rest =>
      character == mark && match parse (String.ofList rest) with
        | .error (.longInteger _) => true
        | _ => false
  | [] => false

end Name

mutual

/-- Some integer inside the value, perhaps as a name, has more digits than can be shown. -/
def hasLongInteger : Json -> Bool
  | int value => Reader.Limits.standard.digits < (decimalDigits value.natAbs).length
  | arr items => hasLongItem items
  | obj members => hasLongMember members
  | _ => false

/-- Some item holds an integer with more digits than can be shown. -/
def hasLongItem : List Json -> Bool
  | [] => false
  | item :: rest => hasLongInteger item || hasLongItem rest

/-- Some member is named by such an integer or holds one. -/
def hasLongMember : List (String × Json) -> Bool
  | [] => false
  | (name, value) :: rest => Name.isLongInteger name || hasLongInteger value || hasLongMember rest

end

end Json
end BroadcastGraphics
