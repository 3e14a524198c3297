import BroadcastGraphics.Text.Case
import BroadcastGraphics.Text.Digit

/-!
# Names derived from identifiers

A style property gives its CSS name, and a template id gives the tag and the class of the
component generated for it.
-/

namespace BroadcastGraphics
namespace Naming

/-- A letter or digit after which a capital starts a new word. -/
def endsWord (character : Char) : Bool :=
  ('a' ≤ character && character ≤ 'z') || Text.isAsciiDigit character

/-- Put a hyphen before every ASCII capital that follows a small ASCII letter or a digit. -/
def hyphenate (afterWord : Bool) : List Char -> List Char
  | [] => []
  | character :: rest =>
      let tail := character :: hyphenate (endsWord character) rest
      if afterWord && 'A' ≤ character && character ≤ 'Z' then '-' :: tail else tail

/-- The CSS name of a style property: words joined by hyphens, all in lower case. -/
def kebabCase (name : String) : String :=
  String.ofList (Text.lower (hyphenate false name.toList))

/-- A separator of the words of an id. -/
def isSeparator (character : Char) : Bool :=
  character == '-' || character == '_'

/-- Capitalise the words of an id and drop the separators. -/
def capitalizeWords (startsWord : Bool) : List Char -> List Char
  | [] => []
  | character :: rest =>
      if isSeparator character then capitalizeWords true rest
      else (if startsWord then Text.upper character else [character]) ++ capitalizeWords false rest

/-- The words of an id, capitalised and joined. -/
def pascalCase (id : String) : String :=
  String.ofList (capitalizeWords true id.toList)

/-- The class name of the component of a template: an underscore keeps it from starting with a
digit. -/
def componentClassName (id : String) : String :=
  let name := pascalCase id ++ "Graphic"
  match name.toList.head? with
  | some first => if Text.isDigit first then "_" ++ name else name
  | none => name

/-- The tag of the component of a template. -/
def tagName (id : String) : String :=
  id ++ "-graphic"

/-- A tag that browsers accept: a small ASCII letter, then small letters, digits, hyphens and
underscores with at least one hyphen. -/
def IsCustomElementName (tag : String) : Prop :=
  (∃ first rest, tag.toList = first :: rest ∧ 'a' ≤ first ∧ first ≤ 'z' ∧
    ∀ character ∈ rest, endsWord character = true ∨ isSeparator character = true) ∧
  '-' ∈ tag.toList

/-- An ASCII letter, an underscore or a dollar sign. -/
def startsIdentifier (character : Char) : Bool :=
  ('a' ≤ character && character ≤ 'z') || ('A' ≤ character && character ≤ 'Z') ||
    character == '_' || character == '$'

/-- An identifier of component source. -/
def IsIdentifier (name : String) : Prop :=
  ∃ first rest, name.toList = first :: rest ∧ startsIdentifier first = true ∧
    ∀ character ∈ rest, startsIdentifier character = true ∨ Text.isAsciiDigit character = true

end Naming
end BroadcastGraphics
