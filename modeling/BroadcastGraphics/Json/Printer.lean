import BroadcastGraphics.Json.Basic
import BroadcastGraphics.Number.Decimal
import BroadcastGraphics.Text.HalfPair
import BroadcastGraphics.Text.Quoted

/-!
# Writing JSON text

A layout says whether characters outside ASCII are escaped and whether the text is broken into
indented lines.  Members are written in their own order; the values without digits are written as
the words that the reader of this library accepts back.
-/

namespace BroadcastGraphics
namespace Json

/-- How a JSON text is laid out. -/
structure Layout where
  asciiOnly : Bool
  indent : Option Nat
  deriving DecidableEq, Repr

/-- One line, characters outside ASCII written as themselves. -/
def Layout.oneLine : Layout := ⟨false, none⟩

/-- The names of the values without digits in JSON text. -/
def jsonNames : Binary64.SpecialNames := ⟨"NaN", "Infinity"⟩

/-- The escape of a code unit of sixteen bits. -/
def unitEscape (unit : Nat) : List Char :=
  '\x5c' :: 'u' :: Text.hexPadded 4 unit

/-- The escape of a character, as two units beyond the first sixteen bits.  The character that
stands for the half of a pair is written as that half. -/
def characterEscape (character : Char) : List Char :=
  let point := character.toNat
  match Text.HalfPair.unit? character with
  | some unit => unitEscape unit
  | none =>
      if point < 0x10000 then unitEscape point
      else
        let offset := point - 0x10000
        unitEscape (0xd800 + offset / 0x400) ++ unitEscape (0xdc00 + offset % 0x400)

/-- One character of a string literal. -/
def stringCharacter (asciiOnly : Bool) (character : Char) : List Char :=
  if character == '\x22' || character == '\x5c' then ['\x5c', character]
  else if character == '\n' then ['\x5c', 'n']
  else if character == '\r' then ['\x5c', 'r']
  else if character == '\t' then ['\x5c', 't']
  else if character == '\x08' then ['\x5c', 'b']
  else if character == '\x0c' then ['\x5c', 'f']
  else if character.toNat < 0x20 then unitEscape character.toNat
  else if asciiOnly && 0x7f ≤ character.toNat then characterEscape character
  else [character]

/-- A string literal. -/
def stringLiteral (asciiOnly : Bool) (text : String) : List Char :=
  '\x22' :: text.toList.flatMap (stringCharacter asciiOnly) ++ ['\x22']

/-- The break before a line at a level of nesting; nothing when the text is one line. -/
def Layout.lineBreak (layout : Layout) (level : Nat) : List Char :=
  match layout.indent with
  | none => []
  | some width => '\n' :: List.replicate (width * level) ' '

/-- What stands between two entries at a level of nesting. -/
def Layout.separator (layout : Layout) (level : Nat) : List Char :=
  match layout.indent with
  | none => [',', ' ']
  | some _ => ',' :: layout.lineBreak level

mutual

/-- The characters of a value at a level of nesting. -/
def render (layout : Layout) (level : Nat) : Json -> List Char
  | null => "null".toList
  | bool value => (if value then "true" else "false").toList
  | int value => (integerText value).toList
  | float value => (value.text jsonNames).toList
  | str value => stringLiteral layout.asciiOnly value
  | arr [] => ['[', ']']
  | arr (item :: rest) =>
      '[' :: layout.lineBreak (level + 1) ++ renderItems layout (level + 1) (item :: rest) ++
        layout.lineBreak level ++ [']']
  | obj [] => ['\x7b', '\x7d']
  | obj (member :: rest) =>
      '\x7b' :: layout.lineBreak (level + 1) ++ renderMembers layout (level + 1) (member :: rest) ++
        layout.lineBreak level ++ ['\x7d']

/-- Items with their separators. -/
def renderItems (layout : Layout) (level : Nat) : List Json -> List Char
  | [] => []
  | item :: rest =>
      render layout level item ++ (match rest with
        | [] => []
        | _ :: _ => layout.separator level ++ renderItems layout level rest)

/-- Members with their separators. -/
def renderMembers (layout : Layout) (level : Nat) : List (String × Json) -> List Char
  | [] => []
  | (name, value) :: rest =>
      stringLiteral layout.asciiOnly name ++ ':' :: ' ' :: render layout level value ++
        (match rest with
          | [] => []
          | _ :: _ => layout.separator level ++ renderMembers layout level rest)

end

mutual

/-- The first run of halves of pairs in a value that is written piece by piece with an indent.  The
place of the run counts from the beginning of its piece: a string literal, with the break and the
bracket or comma before it if it is an item of a list. -/
def halvesInPiece? (width level : Nat) : Json -> Option Text.HalfPair.Run
  | str value => Text.HalfPair.firstRun? (stringLiteral false value)
  | arr items => halvesInItems? width (level + 1) items
  | obj members => halvesInMembers? width (level + 1) members
  | _ => none

/-- The first run of halves in an item. -/
def halvesInItems? (width level : Nat) : List Json -> Option Text.HalfPair.Run
  | [] => none
  | item :: rest =>
      let found := halvesInPiece? width level item
      let placed := match item with
        | str _ => found.map (Text.HalfPair.Run.after (width * level + 2))
        | _ => found
      placed.or (halvesInItems? width level rest)

/-- The first run of halves in a name or a value of a member. -/
def halvesInMembers? (width level : Nat) : List (String × Json) -> Option Text.HalfPair.Run
  | [] => none
  | (name, value) :: rest =>
      (Text.HalfPair.firstRun? (stringLiteral false name)).or
        ((halvesInPiece? width level value).or (halvesInMembers? width level rest))

end

/-- The text of a value in a layout. -/
def text (layout : Layout) (value : Json) : String :=
  String.ofList (render layout 0 value)

/-- The text in which exchange documents are written: members in order, characters as themselves,
an indent of two unless another layout is asked for. -/
def documentText (value : Json) (indent : Option Nat) : String :=
  text ⟨false, indent⟩ value

/-- The text of a value as a literal of component source: ASCII only, so that no character of it
can end a line or a string of the source. -/
def literal (value : Json) (indent : Option Nat) : String :=
  text ⟨true, indent⟩ value

end Json
end BroadcastGraphics
