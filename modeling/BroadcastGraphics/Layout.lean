import BroadcastGraphics.FreshName
import BroadcastGraphics.Preset
import BroadcastGraphics.Text.Case
import BroadcastGraphics.Text.Search

/-!
# Layouts made from a schema

A manifest without elements gets a layout of its own: one text element for every text property,
stacked from the top, and a rectangle behind them.  Element ids are made from the names of the
properties and kept distinct by numbers.
-/

namespace BroadcastGraphics
namespace Layout

/-- A name with underscores for the characters that element ids do not have, and one in front
unless it starts with a letter or an underscore. -/
def idBase (name : String) : String :=
  let characters := name.toList.map fun character =>
    if Identifier.isElementIdCharacter character then character else '_'
  match characters with
  | first :: _ =>
      if Identifier.isLetter first || first == '_' then String.ofList characters
      else String.ofList ('_' :: characters)
  | [] => "_"

/-- The base with a number. -/
def numbered (base : String) (number : Nat) : String :=
  base ++ "_" ++ String.ofList (decimalDigits number)

/-- The id for a property when some ids are taken. -/
def idFor (name : String) (taken : List String) : String :=
  let base := idBase name
  if base ∈ taken then numbered base (FreshName.firstFree taken (numbered base) 2) else base

/-- The text shows a placeholder for a property. -/
def placeholder (name : String) : String :=
  "\x7b\x7b" ++ name ++ "\x7d\x7d"

/-- The style of the text for a property: titles are larger, names and titles are bold. -/
def textStyle (name : String) : Table String :=
  let lowered := Text.lower name.toList
  let isTitle := Text.occursIn "title".toList lowered
  let isName := Text.occursIn "name".toList lowered
  ("fontSize", if isTitle then "24px" else "20px") :: Preset.textStyle ++
    [("fontWeight", if isName || isTitle then "bold" else "normal")]

/-- The vertical place of the row with a given index. -/
def rowTop (index : Nat) : Int :=
  100 + 60 * index

/-- The text elements for the properties from a given row on; every property takes a row, but only
text properties get an element. -/
def textElements (taken : List String) (index : Nat) : Table SchemaProperty -> List Element
  | [] => []
  | (name, property) :: rest =>
      if property.kind == "string" then
        let id := idFor name taken
        Preset.placed id .text 100 (rowTop index) 300 50 (some (placeholder name))
          (textStyle name) ::
          textElements (taken ++ [id]) (index + 1) rest
      else textElements taken (index + 1) rest

/-- The rows of the text properties. -/
def textRows (index : Nat) : Table SchemaProperty -> List Nat
  | [] => []
  | (_, property) :: rest =>
      if property.kind == "string" then index :: textRows (index + 1) rest
      else textRows (index + 1) rest

/-- The rectangle behind the rows from a first to a last one. -/
def background (taken : List String) (first last : Nat) : Element :=
  let id := if "background" ∈ taken then idFor "background_rect" taken else "background"
  let top := rowTop first - 10
  let bottom := rowTop last + 70
  Preset.placed id .rect 80 top 370 (bottom - top) none
    [("backgroundColor", "rgba(0, 120, 204, 0.9)"), ("borderRadius", "4px"), ("zIndex", "-1")]

/-- The name of a template reads like that of a lower third. -/
def namesLowerThird (name : String) : Bool :=
  let lowered := Text.lower name.toList
  Text.occursIn "lower".toList lowered || Text.occursIn "third".toList lowered

/-- The layout for a schema.  Without properties there is none, apart from the background for a
template whose name reads like that of a lower third. -/
def ofSchema (properties : Table SchemaProperty) (name : String) : List Element :=
  if properties.isEmpty then
    if namesLowerThird name then [Preset.lowerThirdBackground] else []
  else
    let texts := textElements [] 0 properties
    match textRows 0 properties with
    | [] => texts
    | first :: rest =>
        background (texts.map Element.id) first ((first :: rest).getLast (by simp)) :: texts

end Layout
end BroadcastGraphics
