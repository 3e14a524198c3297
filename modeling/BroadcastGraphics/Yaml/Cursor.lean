import BroadcastGraphics.Fault
import BroadcastGraphics.Text.Encoding

/-!
# Places in a settings text

A settings text is read from left to right.  A place in it knows its line and its column, since the
nesting of settings is that of their columns.  Four characters end a line.
-/

namespace BroadcastGraphics
namespace Yaml

/-- The fault of a text that cannot be cut into tokens. -/
def badToken : Fault := .unreadableSettings .token

/-- The characters that end a line. -/
def lineEnds : List Char := ['\n', '\x85', '\u2028', '\u2029']

/-- A character ends a line. -/
def isLineEnd (character : Char) : Bool :=
  lineEnds.contains character

/-- A character separates words inside of a line. -/
def isBlank (character : Char) : Bool :=
  character == ' ' || character == '\t'

/-- A text is empty or starts with a character that no word goes on with. -/
def startsApart : List Char -> Bool
  | [] => true
  | character :: _ => isBlank character || isLineEnd character

/-- A text is empty or starts with a space or the end of a line. -/
def startsAfterTag : List Char -> Bool
  | [] => true
  | character :: _ => character == ' ' || isLineEnd character

/-- A text starts with a mark of three characters that stands apart. -/
def startsWithMark (mark : String) (text : List Char) : Bool :=
  mark.toList.isPrefixOf text && startsApart (text.drop 3)

/-- The mark before a document. -/
def documentMark : String := "---"

/-- The mark after a document. -/
def endMark : String := "..."

/-- A text starts with a mark that no scalar goes on over. -/
def startsWithSeparator (text : List Char) : Bool :=
  startsWithMark documentMark text || startsWithMark endMark text

/-- A place in a text: the number of characters before it, its line, its column, and the text from
there on. -/
structure Cursor where
  index : Nat := 0
  line : Nat := 0
  column : Nat := 0
  rest : List Char
  deriving DecidableEq, Repr

namespace Cursor

/-- The place after a character. -/
def next (cursor : Cursor) : Cursor :=
  match cursor.rest with
  | [] => cursor
  | character :: rest =>
      if isLineEnd character then ⟨cursor.index + 1, cursor.line + 1, 0, rest⟩
      else if character == Text.byteOrderMark then
        ⟨cursor.index + 1, cursor.line, cursor.column, rest⟩
      else ⟨cursor.index + 1, cursor.line, cursor.column + 1, rest⟩

/-- The place after a number of characters. -/
def skip : Nat -> Cursor -> Cursor
  | 0, cursor => cursor
  | count + 1, cursor => skip count cursor.next

/-- The characters from a place on that pass a test, and the place after them. -/
def span (test : Char -> Bool) (cursor : Cursor) : List Char × Cursor :=
  let passed := cursor.rest.takeWhile test
  (passed, cursor.skip passed.length)

/-- The place after the characters that pass a test. -/
def after (test : Char -> Bool) (cursor : Cursor) : Cursor :=
  (cursor.span test).2

/-- The place after the spaces here. -/
def afterSpaces (cursor : Cursor) : Cursor :=
  cursor.after (· == ' ')

/-- The place after a comment, if one is here. -/
def afterComment (cursor : Cursor) : Cursor :=
  match cursor.rest with
  | '#' :: _ => cursor.after fun character => !isLineEnd character
  | _ => cursor

/-- What the end of a line stands for, if one is here, and the place after it. -/
def lineBreak? (cursor : Cursor) : Option (Char × Cursor) :=
  match cursor.rest with
  | [] => none
  | character :: _ =>
      if isLineEnd character then
        some (if character == '\x85' then '\n' else character, cursor.next)
      else none

/-- The place after the rest of a line that holds nothing but a comment. -/
def afterIgnoredLine (cursor : Cursor) : Except Fault Cursor :=
  let place := cursor.afterSpaces.afterComment
  match place.lineBreak? with
  | some (_, next) => .ok next
  | none => if place.rest.isEmpty then .ok place else .error badToken

/-- The first place of a token, passing over spaces, comments and ends of lines, and whether a line
ended on the way. -/
def token (cursor : Cursor) : Cursor × Bool :=
  passOver (cursor.rest.length + 1) cursor false
where
  /-- Pass over lines without tokens. -/
  passOver : Nat -> Cursor -> Bool -> Cursor × Bool
    | 0, cursor, ended => (cursor, ended)
    | fuel + 1, cursor, ended =>
        let place := cursor.afterSpaces.afterComment
        match place.lineBreak? with
        | some (_, next) => passOver fuel next true
        | none => (place, ended)

/-- The ends of lines from the beginning of a line on, with characters passed over before each, and
the place after them; no ends of lines if a separator of documents comes. -/
def breaks (isPassed : Char -> Bool) (cursor : Cursor) : Option (List Char) × Cursor :=
  collect (cursor.rest.length + 1) cursor
where
  /-- Collect ends of lines. -/
  collect : Nat -> Cursor -> Option (List Char) × Cursor
    | 0, cursor => (some [], cursor)
    | fuel + 1, cursor =>
        if startsWithSeparator cursor.rest then (none, cursor)
        else
          let place := cursor.after isPassed
          match place.lineBreak? with
          | some (character, next) =>
              let (more, last) := collect fuel next
              (more.map (character :: ·), last)
          | none => (some [], place)

end Cursor

/-- What a line end inside of a scalar and those that follow it stand for: one is a space, and of
several the first is dropped. -/
def folded (first : Char) (more : List Char) : List Char :=
  if first != '\n' then first :: more else if more.isEmpty then [' '] else more

end Yaml
end BroadcastGraphics
