import BroadcastGraphics.Text.Digit

/-!
# Identifiers and version numbers

Template ids, element ids and version numbers are recognised by their characters.  Each of them
may be followed by one line break at the end of the text.
-/

namespace BroadcastGraphics
namespace Identifier

/-- The text without one line break at its end. -/
def withoutFinalBreak (text : List Char) : List Char :=
  if text.getLast? == some '\n' then text.dropLast else text

/-- A small ASCII letter. -/
def isSmallLetter (character : Char) : Bool :=
  'a' ≤ character && character ≤ 'z'

/-- An ASCII letter. -/
def isLetter (character : Char) : Bool :=
  isSmallLetter character || ('A' ≤ character && character ≤ 'Z')

/-- The characters of template ids. -/
def isSlugCharacter (character : Char) : Bool :=
  isSmallLetter character || Text.isAsciiDigit character || character == '-' || character == '_'

/-- A template id: small letters, digits, hyphens and underscores, at least one. -/
def isSlug (text : String) : Bool :=
  let characters := withoutFinalBreak text.toList
  !characters.isEmpty && characters.all isSlugCharacter

/-- The characters of element ids. -/
def isElementIdCharacter (character : Char) : Bool :=
  isLetter character || Text.isAsciiDigit character || character == '-' || character == '_'

/-- An element id: a letter or an underscore, then letters, digits, hyphens and underscores. -/
def isElementId (text : String) : Bool :=
  match withoutFinalBreak text.toList with
  | first :: rest => (isLetter first || first == '_') && rest.all isElementIdCharacter
  | [] => false

/-- The rest of a text after a run of decimal digits, which must not be empty. -/
def afterDigits? (text : List Char) : Option (List Char) :=
  match text with
  | first :: _ =>
      if Text.isDecimalDigit first then some (text.dropWhile Text.isDecimalDigit) else none
  | [] => none

/-- The rest of a text after a point. -/
def afterPoint? : List Char -> Option (List Char)
  | '.' :: rest => some rest
  | _ => none

/-- The characters of the suffix of a version number. -/
def isSuffixCharacter (character : Char) : Bool :=
  isLetter character || Text.isAsciiDigit character || character == '.' || character == '-' ||
    character == '+'

/-- A semantic version number: three numbers and perhaps a suffix. -/
def isVersion (text : String) : Bool :=
  let rest := do
    let rest <- afterDigits? (withoutFinalBreak text.toList)
    let rest <- afterDigits? (<- afterPoint? rest)
    afterDigits? (<- afterPoint? rest)
  match rest with
  | none => false
  | some [] => true
  | some (first :: suffix) => (first == '-' || first == '+') && suffix.all isSuffixCharacter

end Identifier
end BroadcastGraphics
