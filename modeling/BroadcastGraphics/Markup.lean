import BroadcastGraphics.Canvas
import BroadcastGraphics.Placeholder
import BroadcastGraphics.Style

/-!
# Markup of a preview

The preview of a graphic is written in parts: fixed parts are written as they are, shown parts are
escaped, so that no content and no live data can become markup.
-/

namespace BroadcastGraphics
namespace Markup

/-- A part of markup. -/
inductive Part where
  | fixed (text : String)
  | shown (text : String)
  deriving DecidableEq, Repr

/-- The entity for a character that has a meaning in markup. -/
def escapeCharacter (character : Char) : List Char :=
  if character == '&' then "&amp;".toList
  else if character == '<' then "&lt;".toList
  else if character == '>' then "&gt;".toList
  else if character == '\x27' then "&#39;".toList
  else if character == '\x22' then "&#34;".toList
  else [character]

/-- The characters of a part. -/
def Part.characters : Part -> List Char
  | fixed text => text.toList
  | shown text => text.toList.flatMap escapeCharacter

/-- The markup that some parts make up. -/
def written (parts : List Part) : String :=
  String.ofList (parts.flatMap Part.characters)

/-- A length in pixels. -/
def pixels (number : Binary64) : String :=
  (Json.float number).liveText ++ "px"

/-- The place of an element. -/
def geometry (element : Element) : String :=
  "left: " ++ pixels element.x ++ "; top: " ++ pixels element.y ++ "; width: " ++
    pixels element.width ++ "; height: " ++ pixels element.height ++ ";"

/-- The line of an element. -/
def elementParts (data : Table Json) (element : Element) : List Part :=
  let content := Placeholder.fill element.content data
  match element.kind with
  | .text =>
      [.fixed "<div class=\"element element-", .shown element.id, .fixed "\" style=\"",
        .shown (geometry element), .fixed "\">", .shown content, .fixed "</div>\n"]
  | .image =>
      [.fixed "<img class=\"element element-", .shown element.id, .fixed "\" src=\"",
        .shown content, .fixed "\" style=\"", .shown (geometry element), .fixed "\" />\n"]
  | .rect =>
      [.fixed "<div class=\"element element-", .shown element.id, .fixed "\" style=\"",
        .shown (geometry element), .fixed "\"></div>\n"]
  | .circle =>
      [.fixed "<div class=\"element element-", .shown element.id, .fixed "\" style=\"",
        .shown (geometry element), .fixed " border-radius: 50%;\"></div>\n"]

/-- The style block and the head of the container. -/
def headParts (elements : List Element) (transform transition : String) : List Part :=
  [.fixed "<style>\n:host \x7b display: block; position: relative; width: ",
    .shown Canvas.width, .fixed "px; height: ", .shown Canvas.height,
    .fixed "px; font-family: ", .shown Canvas.fontFamily,
    .fixed "; overflow: hidden; \x7d\n.container \x7b position: absolute; inset: 0; \x7d\n",
    .fixed ".element \x7b position: absolute; \x7d\n", .fixed (Style.rules elements),
    .fixed "\n</style>\n<div class=\"container\" style=\"transform: ", .shown transform,
    .fixed "; transition: ", .shown transition, .fixed ";\">\n"]

/-- All parts of the preview of some elements filled with data. -/
def previewParts (elements : List Element) (data : Table Json) (transform transition : String) :
    List Part :=
  headParts elements transform transition ++ elements.flatMap (elementParts data) ++
    [.fixed "</div>"]

/-- The preview of some elements filled with data. -/
def preview (elements : List Element) (data : Table Json) (transform transition : String) :
    String :=
  written (previewParts elements data transform transition)

end Markup
end BroadcastGraphics
