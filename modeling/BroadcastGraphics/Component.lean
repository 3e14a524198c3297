import BroadcastGraphics.Animation
import BroadcastGraphics.Canvas
import BroadcastGraphics.ComponentScript
import BroadcastGraphics.Json.Printer
import BroadcastGraphics.Manifest
import BroadcastGraphics.Style

/-!
# Component source

A template becomes a self-registering component: its elements, settings and style rules are written
as literals in front of a fixed script.  The source depends on nothing but the template, so equal
templates have equal components.
-/

namespace BroadcastGraphics

/-- The values that component source is made from, written as literals where they stand in it. -/
structure Component where
  className : String
  tag : String
  elements : String
  animation : String
  styles : String
  deriving DecidableEq, Repr

namespace Component

/-- The values for a template; without settings the standard ones are used. -/
def of (manifest : Manifest) (elements : List Element) (settings : Option AnimationSettings) :
    Component where
  className := Naming.componentClassName manifest.id
  tag := Naming.tagName manifest.id
  elements := (Json.arr (elements.map Element.toJson)).literal (some 4)
  animation := (settings.getD .standard).toJson.literal (some 4)
  styles := Style.rules elements

/-- The tag as a literal. -/
def tagLiteral (component : Component) : String :=
  (Json.str component.tag).literal none

/-- The style rules as a literal. -/
def stylesLiteral (component : Component) : String :=
  (Json.str component.styles).literal none

/-- The lines before the class body. -/
def opening (component : Component) : String :=
  "// " ++ component.tag ++
    ": generated OGraf graphic component. Edits are overwritten on regeneration.\n\n" ++
    "const ELEMENTS = " ++ component.elements ++ ";\n\n" ++
    "const ANIMATION_SETTINGS = " ++ component.animation ++ ";\n\n" ++
    "const ELEMENT_STYLES = " ++ component.stylesLiteral ++ ";\n\n" ++
    "const CANVAS = \x7b width: " ++ Canvas.width ++ ", height: " ++ Canvas.height ++
    ", fontFamily: " ++ (Json.str Canvas.fontFamily).literal none ++ " \x7d;\n\n" ++
    "class " ++ component.className ++ " extends HTMLElement \x7b\n\n"

/-- The lines after the fixed script. -/
def closing (component : Component) : String :=
  "\n\nif (!customElements.get(" ++ component.tagLiteral ++ ")) \x7b\n" ++
    "    customElements.define(" ++ component.tagLiteral ++ ", " ++ component.className ++ ");\n" ++
    "\x7d\n\n" ++
    "export default " ++ component.className ++ ";\n"

/-- The component source. -/
def text (component : Component) : String :=
  component.opening ++ ComponentScript.text ++ component.closing

/-- The component source of a template. -/
def source (manifest : Manifest) (elements : List Element) (settings : Option AnimationSettings) :
    String :=
  (of manifest elements settings).text

end Component
end BroadcastGraphics
