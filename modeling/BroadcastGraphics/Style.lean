import BroadcastGraphics.Element
import BroadcastGraphics.Naming

/-!
# Style rules

Every element has one CSS rule, whose selector is made from its id.
-/

namespace BroadcastGraphics
namespace Style

/-- The declaration of a style property. -/
def declaration (property : String × String) : String :=
  Naming.kebabCase property.1 ++ ": " ++ property.2 ++ ";"

/-- The declarations of a style. -/
def declarations (style : Table String) : String :=
  String.intercalate " " (style.map declaration)

/-- The rule of an element. -/
def rule (element : Element) : String :=
  let inner := declarations element.style
  if inner.isEmpty then ".element-" ++ element.id ++ " \x7b \x7d"
  else ".element-" ++ element.id ++ " \x7b " ++ inner ++ " \x7d"

/-- The rules of some elements, one on each line. -/
def rules (elements : List Element) : String :=
  String.intercalate "\n" (elements.map rule)

end Style
end BroadcastGraphics
