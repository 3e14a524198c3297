import BroadcastGraphics.Yaml.Cursor

/-!
# The texts of scalars

A scalar is written plainly, in quotes, or as a block of indented lines.  Lines of plain and quoted
scalars are joined by spaces; the lines of a block stay apart or are folded in the same way.
-/

namespace BroadcastGraphics
namespace Yaml

/-- The characters that end a plain scalar inside of brackets. -/
def flowMarks : List Char := [',', '?', '[', ']', '\x7b', '\x7d']

/-- The characters before which a colon ends a plain scalar inside of brackets. -/
def flowMarksAfterColon : List Char := [',', '[', ']', '\x7b', '\x7d']

/-- A plain scalar cannot go on here. -/
def endsPlain (inFlow : Bool) : List Char -> Bool
  | [] => true
  | ':' :: rest =>
      startsApart rest ||
        (inFlow && (rest.head?.map fun next => flowMarksAfterColon.contains next).getD false)
  | character :: rest => startsApart (character :: rest) || (inFlow && flowMarks.contains character)

/-- The characters with which a plain scalar cannot start. -/
def indicators : List Char :=
  ['-', '?', ':', ',', '[', ']', '\x7b', '\x7d', '#', '&', '*', '!', '|', '>', '\x27', '\x22', '%',
    '@', '\x60']

/-- A plain scalar can start here. -/
def startsPlain (inFlow : Bool) : List Char -> Bool
  | [] => false
  | character :: rest =>
      !startsApart (character :: rest) && (!indicators.contains character ||
        (!startsApart rest && (character == '-' ||
          (!inFlow && (character == '?' || character == ':')))))

/-- The word of a plain scalar at the start of a text. -/
def plainWord (inFlow : Bool) : List Char -> List Char
  | [] => []
  | character :: rest =>
      if endsPlain inFlow (character :: rest) then []
      else character :: plainWord inFlow rest

/-- What stands between the words of a plain scalar: its characters, the place after it, and whether
a line ended in it. -/
def plainGap (cursor : Cursor) : List Char × Cursor × Bool :=
  let (spaces, place) := cursor.span (· == ' ')
  match place.lineBreak? with
  | none => (spaces, place, false)
  | some (first, next) =>
      let (more, last) := next.breaks (· == ' ')
      ((more.map (folded first)).getD [], last, true)

/-- A text that was read, the place after it, and whether the last thing read was a line end. -/
structure ScalarRead where
  text : List Char
  place : Cursor
  endedLine : Bool := false

/-- A plain scalar whose later lines start at least at a column. -/
def plainScalar (inFlow : Bool) (least : Int) (cursor : Cursor) : ScalarRead :=
  words (cursor.rest.length + 1) [] ⟨[], cursor, false⟩
where
  /-- Read words after a gap and what was read before it. -/
  words : Nat -> List Char -> ScalarRead -> ScalarRead
    | 0, _, before => before
    | fuel + 1, gap, before =>
        let cursor := before.place
        let word := if cursor.rest.head? == some '#' then [] else plainWord inFlow cursor.rest
        if word.isEmpty then before
        else
          let text := before.text ++ gap ++ word
          let (gap, place, ended) := plainGap (cursor.skip word.length)
          let read : ScalarRead := ⟨text, place, ended⟩
          if gap.isEmpty || (!inFlow && (place.column : Int) < least) then read
          else words fuel gap read

/-- The characters of escapes of one letter. -/
def letterEscapes : List (Char × Nat) :=
  [('0', 0x00), ('a', 0x07), ('b', 0x08), ('t', 0x09), ('\t', 0x09), ('n', 0x0a), ('v', 0x0b),
    ('f', 0x0c), ('r', 0x0d), ('e', 0x1b), (' ', 0x20), ('\x22', 0x22), ('\x5c', 0x5c),
    ('/', 0x2f), ('N', 0x85), ('_', 0xa0), ('L', 0x2028), ('P', 0x2029)]

/-- The number of digits of escapes by number. -/
def escapeWidth? (letter : Char) : Option Nat :=
  if letter == 'x' then some 2 else if letter == 'u' then some 4
  else if letter == 'U' then some 8 else none

/-- The character of a number in an escape. -/
def numberedCharacter (code : Nat) : Except Fault Char :=
  if code < 0x110000 then .ok (Text.HalfPair.ofUnit code) else .error (.misuse .notCharacter)

/-- What an escape stands for, from after its backslash on, and the place after it.  The escape of a
line end stands for the line ends after it. -/
def escaped (cursor : Cursor) : Except Fault (List Char × Cursor) :=
  match cursor.rest with
  | [] => .error badToken
  | letter :: rest =>
      match letterEscapes.lookup letter, escapeWidth? letter, cursor.lineBreak? with
      | some code, _, _ => .ok ([Char.ofNat code], cursor.next)
      | none, some width, _ =>
          let digits := rest.take width
          match digits.foldlM (fun value digit =>
              (Json.Reader.hexValue? digit).map fun next => 16 * value + next) 0 with
          | some code =>
              if digits.length == width then
                (numberedCharacter code).map fun character =>
                  ([character], cursor.skip (width + 1))
              else .error badToken
          | none => .error badToken
      | none, none, some (_, next) =>
          match next.breaks isBlank with
          | (some more, last) => .ok (more, last)
          | (none, _) => .error badToken
      | none, none, none => .error badToken

/-- Blanks inside of a quoted scalar and the line ends after them. -/
def quotedGap (cursor : Cursor) : Except Fault (List Char × Cursor) :=
  let (blanks, place) := cursor.span isBlank
  match place.lineBreak? with
  | none => if place.rest.isEmpty then .error badToken else .ok (blanks, place)
  | some (first, next) =>
      match next.breaks isBlank with
      | (some more, last) => .ok (folded first more, last)
      | (none, _) => .error badToken

/-- A quoted scalar, from after its opening quote on, and the place after it. -/
def quotedScalar (quote : Char) (cursor : Cursor) : Except Fault (List Char × Cursor) :=
  characters (cursor.rest.length + 1) cursor
where
  /-- Read up to the closing quote. -/
  characters : Nat -> Cursor -> Except Fault (List Char × Cursor)
    | 0, _ => .error badToken
    | fuel + 1, cursor =>
        match cursor.rest with
        | [] => .error badToken
        | character :: rest => do
            if character == quote && !(quote == '\x27' && rest.head? == some quote) then
              return ([], cursor.next)
            let (text, place) <-
              if character == quote then pure ([quote], cursor.skip 2)
              else if character == '\x5c' && quote == '\x22' then escaped cursor.next
              else if startsApart cursor.rest then quotedGap cursor
              else pure ([character], cursor.next)
            let (more, last) <- characters fuel place
            return (text ++ more, last)

/-- What becomes of the line ends after a block of lines: the first is kept, all are kept, or none
is. -/
inductive Chomping where
  | clip
  | keep
  | strip
  deriving DecidableEq, Repr

/-- The chomping that a character asks for. -/
def Chomping.ofCharacter? : Char -> Option Chomping
  | '+' => some keep
  | '-' => some strip
  | _ => none

/-- The chomping at a place, if one is there, and the place after it. -/
def chompingAt (cursor : Cursor) : Option Chomping × Cursor :=
  match cursor.rest.head?.bind Chomping.ofCharacter? with
  | some chomping => (some chomping, cursor.next)
  | none => (none, cursor)

/-- The indentation at a place, if one is there, and the place after it. -/
def indentationAt (cursor : Cursor) : Except Fault (Option Nat × Cursor) :=
  match cursor.rest with
  | digit :: _ =>
      if digit == '0' then .error badToken
      else if Json.Reader.isDigit digit then .ok (some (digitsValue [digit]), cursor.next)
      else .ok (none, cursor)
  | [] => .ok (none, cursor)

/-- The chomping and the indentation of a block, in any order, and the place after their line. -/
def blockHeader (cursor : Cursor) : Except Fault (Chomping × Option Nat × Cursor) := do
  let (first, place) := chompingAt cursor
  let (indentation, place) <- indentationAt place
  let (second, place) := match first with
    | some _ => (none, place)
    | none => if indentation.isSome then chompingAt place else (none, place)
  if !startsAfterTag place.rest then .error badToken
  .ok ((first.or second).getD .clip, indentation, <- place.afterIgnoredLine)

/-- The place after the spaces that belong to an indentation. -/
def afterIndentation : Nat -> Cursor -> Cursor
  | 0, cursor => cursor
  | left + 1, cursor =>
      match cursor.rest with
      | ' ' :: _ => afterIndentation left cursor.next
      | _ => cursor

/-- The line ends before a line of a block with an indentation, and the place after them. -/
def blockBreaks (indentation : Nat) (cursor : Cursor) : List Char × Cursor :=
  collect (cursor.rest.length + 1) cursor
where
  /-- Collect line ends. -/
  collect : Nat -> Cursor -> List Char × Cursor
    | 0, cursor => ([], cursor)
    | fuel + 1, cursor =>
        let place := afterIndentation (indentation - cursor.column) cursor
        match place.lineBreak? with
        | some (character, next) =>
            let (more, last) := collect fuel next
            (character :: more, last)
        | none => ([], place)

/-- The line ends before the first line of a block, the largest column on the way, and the place
after them. -/
def leadingBreaks (cursor : Cursor) : List Char × Nat × Cursor :=
  collect (cursor.rest.length + 1) cursor 0
where
  /-- Collect line ends. -/
  collect : Nat -> Cursor -> Nat -> List Char × Nat × Cursor
    | 0, cursor, largest => ([], largest, cursor)
    | fuel + 1, cursor, largest =>
        let place := cursor.afterSpaces
        let largest := max largest (if place.index == cursor.index then 0 else place.column)
        match place.lineBreak? with
        | some (character, next) =>
            let (more, largest, last) := collect fuel next largest
            (character :: more, largest, last)
        | none => ([], largest, place)

/-- The lines of a block with an indentation after some line ends: their text, the last line end,
the line ends after it, and the place after them. -/
def blockLines (isFolded : Bool) (indentation : Nat) :
    Nat -> List Char -> Cursor -> List Char × List Char × List Char × Cursor
  | 0, before, cursor => ([], [], before, cursor)
  | fuel + 1, before, cursor =>
      if cursor.column != indentation || cursor.rest.isEmpty then ([], [], before, cursor)
      else
        let (line, place) := cursor.span fun character => !isLineEnd character
        let (lineBreak, next) := match place.lineBreak? with
          | some (character, next) => ([character], next)
          | none => ([], place)
        let (more, start) := blockBreaks indentation next
        if start.column != indentation || start.rest.isEmpty then
          (before ++ line, lineBreak, more, start)
        else
          let joins := isFolded && lineBreak == ['\n'] && !(line.head?.any isBlank) &&
            !(start.rest.head?.any isBlank)
          let joint := if !joins then lineBreak else if more.isEmpty then [' '] else []
          let (text, lineBreak, after, last) := blockLines isFolded indentation fuel more start
          (before ++ line ++ joint ++ text, lineBreak, after, last)

/-- A block of lines, from after its indicator on, inside of something with an indentation, and the
place after it. -/
def blockScalar (isFolded : Bool) (outer : Int) (cursor : Cursor) :
    Except Fault (List Char × Cursor) := do
  let (chomping, given, place) <- blockHeader cursor
  let least := max 1 (outer + 1).toNat
  let (before, indentation, start) := match given with
    | some width =>
        let indentation := least + width - 1
        let (before, start) := blockBreaks indentation place
        (before, indentation, start)
    | none =>
        let (before, largest, start) := leadingBreaks place
        (before, max least largest, start)
  let (text, lineBreak, after, last) :=
    blockLines isFolded indentation (place.rest.length + 1) before start
  let ending := match chomping with
    | .strip => []
    | .clip => lineBreak
    | .keep => lineBreak ++ after
  .ok (text ++ ending, last)

end Yaml
end BroadcastGraphics
