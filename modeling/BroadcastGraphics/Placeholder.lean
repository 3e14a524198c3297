import BroadcastGraphics.Json.Display
import BroadcastGraphics.Text.Digit

/-!
# Placeholders in content

Content may hold placeholders: a name of ASCII letters, digits and underscores between two pairs of
braces.  Content is cut into pieces, each a placeholder or a single other character, from left to
right and without overlap; filling replaces each placeholder on its own and never looks at the
text it has put in.
-/

namespace BroadcastGraphics
namespace Placeholder

/-- A piece of content. -/
inductive Piece where
  | plain (character : Char)
  | token (name : List Char)
  deriving DecidableEq, Repr

/-- The characters a piece was cut from. -/
def Piece.source : Piece -> List Char
  | .plain character => [character]
  | .token name => ['\x7b', '\x7b'] ++ name ++ ['\x7d', '\x7d']

/-- The name of the placeholder at the start of the input, if one is there. -/
def tokenAt? : List Char -> Option (List Char)
  | '\x7b' :: '\x7b' :: rest =>
      let name := rest.takeWhile Text.isAsciiWord
      match name, rest.dropWhile Text.isAsciiWord with
      | _ :: _, '\x7d' :: '\x7d' :: _ => some name
      | _, _ => none
  | _ => none

/-- Cut the input into pieces, after passing over a number of characters that belong to the
placeholder found before. -/
def cut : Nat -> List Char -> List Piece
  | _, [] => []
  | passed + 1, _ :: rest => cut passed rest
  | 0, character :: rest =>
      match tokenAt? (character :: rest) with
      | some name => .token name :: cut (name.length + 3) rest
      | none => .plain character :: cut 0 rest

/-- The pieces of a content. -/
def pieces (content : String) : List Piece :=
  cut 0 content.toList

/-- The text a piece becomes: a placeholder without a value stays as it is. -/
def Piece.filled (data : Table Json) : Piece -> List Char
  | .plain character => [character]
  | .token name =>
      match Table.get? data (String.ofList name) with
      | none => (Piece.token name).source
      | some .null => (Piece.token name).source
      | some value => value.liveText.toList

/-- Content with its placeholders filled from the data; absent content is empty. -/
def fill (content : Option String) (data : Table Json) : String :=
  match content with
  | none => ""
  | some content => String.ofList ((pieces content).flatMap (Piece.filled data))

/-- The name of a placeholder piece. -/
def Piece.name? : Piece -> Option String
  | .plain _ => none
  | .token name => some (String.ofList name)

/-- Append the names that are not there yet, in order. -/
def appendNew (found : List String) : List String -> List String
  | [] => found
  | name :: rest => appendNew (if name ∈ found then found else found ++ [name]) rest

/-- The names of the placeholders of a content in order of first appearance. -/
def names (content : Option String) : List String :=
  match content with
  | none => []
  | some content => appendNew [] ((pieces content).filterMap Piece.name?)

/-- Content with its placeholders filled from a value, if there is nothing to fill or the value has
members. -/
def fillFrom? (content : Option String) (data : Json) : Option String :=
  match data with
  | .obj members => some (fill content members)
  | _ => if (names content).isEmpty then some (fill content []) else none

end Placeholder
end BroadcastGraphics
