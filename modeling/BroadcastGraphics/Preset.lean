import BroadcastGraphics.Element
import BroadcastGraphics.Fault
import BroadcastGraphics.Manifest

/-!
# Presets

A preset is the starting point of a new template: its data, its elements and its actions.  New
elements of each kind have starting values of their own.
-/

namespace BroadcastGraphics

/-- The starting points of new templates. -/
inductive PresetKind where
  | lowerThird
  | title
  | bug
  | custom
  deriving DecidableEq, Repr

namespace PresetKind

/-- The presets under their names. -/
def options : Table PresetKind :=
  [("lowerThird", lowerThird), ("title", title), ("bug", bug), ("custom", custom)]

/-- The name of a preset. -/
def name : PresetKind -> String
  | lowerThird => "lowerThird"
  | title => "title"
  | bug => "bug"
  | custom => "custom"

/-- The preset that a value asks for: a name, the lower third also with its words joined by a
hyphen or an underscore.  Any other scalar asks for the custom preset. -/
def ofJson : Json -> Except Fault PresetKind
  | .str "lower-third" => .ok lowerThird
  | .str "lower_third" => .ok lowerThird
  | .str text => .ok ((Table.get? options text).getD custom)
  | .arr _ => .error .wrongShape
  | .obj _ => .error .wrongShape
  | _ => .ok custom

end PresetKind

/-- The starting values of a template. -/
structure Preset where
  properties : Table SchemaProperty
  elements : List Element
  actions : List CustomAction

namespace Preset

/-- The two actions that every preset has. -/
def slideActions (subject : String) : List CustomAction :=
  [⟨"slideIn", "Slide In", "Animate the " ++ subject ++ " sliding in", []⟩,
    ⟨"slideOut", "Slide Out", "Animate the " ++ subject ++ " sliding out", []⟩]

/-- An element at a place given in whole pixels. -/
def placed (id : String) (kind : ElementKind) (x y width height : Int) (content : Option String)
    (style : Table String) : Element :=
  ⟨id, kind, Binary64.ofInt x, Binary64.ofInt y, Binary64.ofInt width, Binary64.ofInt height,
    content, style⟩

/-- The style properties that all texts start with. -/
def textStyle : Table String :=
  [("fontFamily", "Arial, sans-serif"), ("color", "#ffffff")]

/-- A text property with a title and a default. -/
def textProperty (title default : String) : SchemaProperty :=
  ⟨"string", title, .str default, []⟩

/-- The background of a lower third. -/
def lowerThirdBackground : Element :=
  placed "background" .rect 50 450 400 80 none
    [("backgroundColor", "rgba(0, 120, 204, 0.9)"), ("borderRadius", "4px")]

/-- A name and a title at the lower edge. -/
def lowerThird : Preset where
  properties := [("name", textProperty "Name" "John Doe"),
    ("title", textProperty "Title" "Reporter")]
  elements := [lowerThirdBackground,
    placed "name" .text 70 460 360 30 (some "\x7b\x7bname\x7d\x7d")
      (("fontSize", "24px") :: textStyle ++ [("fontWeight", "bold"), ("textAlign", "left")]),
    placed "title" .text 70 490 360 25 (some "\x7b\x7btitle\x7d\x7d")
      (("fontSize", "16px") :: textStyle ++ [("textAlign", "left")])]
  actions := slideActions "lower third"

/-- A title and a subtitle. -/
def title : Preset where
  properties := [("title", textProperty "Title Text" "Breaking News"),
    ("subtitle", textProperty "Subtitle" "")]
  elements := [
    placed "background" .rect 100 200 600 120 none
      [("backgroundColor", "rgba(220, 20, 20, 0.9)"), ("borderRadius", "8px")],
    placed "title" .text 120 220 560 50 (some "\x7b\x7btitle\x7d\x7d")
      (("fontSize", "36px") :: textStyle ++ [("fontWeight", "bold"), ("textAlign", "center")]),
    placed "subtitle" .text 120 270 560 30 (some "\x7b\x7bsubtitle\x7d\x7d")
      (("fontSize", "18px") :: textStyle ++ [("textAlign", "center")])]
  actions := slideActions "title"

/-- A logo in a corner. -/
def bug : Preset where
  properties := [("logo", textProperty "Logo URL" "")]
  elements := [
    placed "background" .circle 50 50 80 80 none
      [("backgroundColor", "rgba(0, 0, 0, 0.8)"), ("border", "2px solid #ffffff")],
    placed "logo" .image 60 60 60 60 (some "\x7b\x7blogo\x7d\x7d") [("objectFit", "contain")]]
  actions := slideActions "bug"

/-- A single text. -/
def custom : Preset where
  properties := [("text", textProperty "Text" "Custom Text")]
  elements := [
    placed "text" .text 100 100 200 50 (some "\x7b\x7btext\x7d\x7d")
      (("fontSize", "20px") :: textStyle ++ [("textAlign", "left")])]
  actions := slideActions "graphic"

/-- The starting values of a preset. -/
def ofKind : PresetKind -> Preset
  | .lowerThird => lowerThird
  | .title => title
  | .bug => bug
  | .custom => custom

end Preset

namespace ElementKind

/-- The kind that a value names. -/
def ofJson (value : Json) : Except Fault ElementKind :=
  match value.str?.bind (Table.get? options) with
  | some kind => .ok kind
  | none => .error (.misuse (.unknownOption value .elementKind))

/-- The content and the style of a new element. -/
def startingContent : ElementKind -> String × Table String
  | text => ("New Text", ("fontSize", "20px") :: Preset.textStyle ++
      [("textAlign", "left"), ("backgroundColor", "transparent")])
  | image => ("https://via.placeholder.com/100x100", [("objectFit", "contain")])
  | rect => ("", [("backgroundColor", "#007acc"), ("borderRadius", "0px"), ("border", "none")])
  | circle => ("", [("backgroundColor", "#007acc"), ("border", "none")])

/-- The members of a new element, its id excluded. -/
def startingMembers (kind : ElementKind) : Table Json :=
  let (content, style) := kind.startingContent
  let (width, height) : Int × Int := if kind = text then (200, 50) else (100, 100)
  [("type", .str kind.name), ("x", .int 100), ("y", .int 100), ("width", .int width),
    ("height", .int height), ("content", .str content),
    ("style", .obj (Table.mapEntries Json.str style))]

end ElementKind
end BroadcastGraphics
