import BroadcastGraphics.Identifier
import BroadcastGraphics.Json.Display
import BroadcastGraphics.Validation.Record

/-!
# Elements

An element is a text, an image, a rectangle or a circle at a place on the canvas.  Its geometry is
in pixels, and its style gives CSS properties under their camel-case names.
-/

namespace BroadcastGraphics

/-- What an element shows. -/
inductive ElementKind where
  | text
  | image
  | rect
  | circle
  deriving DecidableEq, Repr

namespace ElementKind

/-- The kinds under their names. -/
def options : Table ElementKind :=
  [("text", text), ("image", image), ("rect", rect), ("circle", circle)]

/-- The name of a kind. -/
def name : ElementKind -> String
  | text => "text"
  | image => "image"
  | rect => "rect"
  | circle => "circle"

@[simp] theorem get?_options_name (kind : ElementKind) :
    Table.get? options kind.name = some kind := by
  cases kind <;> rfl

end ElementKind

/-- A visual element. -/
structure Element where
  id : String
  kind : ElementKind
  x : Binary64 := Binary64.zero
  y : Binary64 := Binary64.zero
  width : Binary64 := Binary64.ofInt 100
  height : Binary64 := Binary64.ofInt 100
  content : Option String := none
  style : Table String := []
  deriving DecidableEq

/-- A number written as an integer if it has no fraction. -/
def Binary64.plainJson (number : Binary64) : Json :=
  match number.whole? with
  | some whole => .int whole
  | none => .float number

namespace Element

/-- The name of the record in faults. -/
def recordName : String := "Element"

/-- An element id. -/
def checkId (value : Json) : Checked String :=
  (Check.filledText value).andThen fun id =>
    if Identifier.isElementId id then .accepted id else .refuse (.refused .elementId)

/-- A style: every value is taken as a text, and properties without a value are left out. -/
def checkStyle : Json -> Checked (Table String)
  | .null => .accepted []
  | .obj members => .accepted (Table.mapEntries Json.display (Json.presentMembers members))
  | _ => .refuse (.refused .styleShape)

/-- Read an element from members; further members are passed over. -/
def ofMembers (members : Table Json) : Checked Element :=
  Element.mk
    <$> (Field.plain "id").required checkId members
    <*> (Field.plain "type").required (Check.choice ElementKind.options) members
    <*> (Field.plain "x").withDefault Binary64.zero Check.finiteNumber members
    <*> (Field.plain "y").withDefault Binary64.zero Check.finiteNumber members
    <*> (Field.plain "width").withDefault (Binary64.ofInt 100) Check.finiteNumber members
    <*> (Field.plain "height").withDefault (Binary64.ofInt 100) Check.finiteNumber members
    <*> (Field.plain "content").withDefault none (Check.optional Check.text) members
    <*> (Field.plain "style").withDefault [] checkStyle members

/-- Read an element from a value. -/
def check : Json -> Checked Element :=
  Check.record recordName ofMembers

/-- The style as a value. -/
def styleJson (element : Element) : Json :=
  .obj (Table.mapEntries Json.str element.style)

/-- All members, absent content written as nothing. -/
def members (element : Element) : Table Json :=
  [("id", .str element.id), ("type", .str element.kind.name), ("x", element.x.plainJson),
    ("y", element.y.plainJson), ("width", element.width.plainJson),
    ("height", element.height.plainJson), ("content", Json.ofText? element.content),
    ("style", element.styleJson)]

/-- The element as a value, without absent content. -/
def toJson (element : Element) : Json :=
  .obj (Json.presentMembers element.members)

/-- Equality by value: the two zeros are equal and the order of style properties does not matter. -/
def sameValue (left right : Element) : Bool :=
  Json.sameValue (.obj left.members) (.obj right.members)

end Element
end BroadcastGraphics
