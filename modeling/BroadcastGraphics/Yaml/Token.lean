import BroadcastGraphics.Yaml.ScalarText

/-!
# Tokens of settings

A settings text is cut into tokens.  Nesting by columns becomes tokens of its own: a block starts
where a column is larger than that of the block around it, and ends where a smaller one comes.  That
a token is the name of a member is known only when the colon after it is found, so its place is
remembered as long as a name can still end there: on one line and within 1024 characters.
-/

namespace BroadcastGraphics
namespace Yaml

/-- A token of settings; a text that cannot be cut any further ends with the fault. -/
inductive Token where
  | version (major : Nat)
  | tagHandle (handle expansion : String)
  | otherDirective
  | documentStart
  | documentEnd
  | blockSequence
  | blockMapping
  | blockEnd
  | flowSequence
  | flowSequenceEnd
  | flowMapping
  | flowMappingEnd
  | blockEntry
  | flowEntry
  | key
  | value
  | reference (name : String)
  | anchor (name : String)
  | tag (handle : Option String) (suffix : String)
  | scalar (text : String) (isPlain : Bool)
  | streamEnd
  | broken (fault : Fault)
  deriving DecidableEq

/-- A place at which the name of a member may have started: the brackets around it, the number of
the token there, and whether a name has to start there. -/
structure Candidate where
  level : Nat
  number : Nat
  place : Cursor
  isRequired : Bool

/-- The longest name, in characters. -/
def longestName : Nat := 1024

/-- What is known between two tokens.  The tokens read last come first, and so do the innermost
columns. -/
structure Lexer where
  place : Cursor
  level : Nat := 0
  column : Int := -1
  outer : List Int := []
  allowsName : Bool := true
  candidates : List Candidate := []
  tokens : List Token := []

namespace Lexer

/-- Some tokens more. -/
def push (token : Token) (lexer : Lexer) : Lexer :=
  { lexer with tokens := token :: lexer.tokens }

/-- Some tokens in front of the one with a number. -/
def insertAt (number : Nat) (inserted : List Token) (lexer : Lexer) : Lexer :=
  let later := lexer.tokens.length - number
  { lexer with
    tokens := lexer.tokens.take later ++ inserted.reverse ++ lexer.tokens.drop later }

/-- The lexer at another place. -/
def movedTo (place : Cursor) (lexer : Lexer) : Lexer :=
  { lexer with place := place }

/-- The lexer after some characters. -/
def skip (count : Nat) (lexer : Lexer) : Lexer :=
  lexer.movedTo (lexer.place.skip count)

/-- Names of members can or cannot start next. -/
def allowing (allowsName : Bool) (lexer : Lexer) : Lexer :=
  { lexer with allowsName := allowsName }

/-- The candidate inside of the present brackets. -/
def candidate? (lexer : Lexer) : Option Candidate :=
  lexer.candidates.find? fun candidate => candidate.level == lexer.level

/-- The number of tokens that no later character can add anything in front of. -/
def settled (lexer : Lexer) : Nat :=
  lexer.candidates.foldl (fun least candidate => min least candidate.number) lexer.tokens.length

/-- A name cannot end at the present place if it started at the candidate. -/
def isStale (lexer : Lexer) (candidate : Candidate) : Bool :=
  candidate.place.line != lexer.place.line ||
    longestName < lexer.place.index - candidate.place.index

/-- Forget the candidates at which no name can have started. -/
def withoutStale (lexer : Lexer) : Except Fault Lexer :=
  if lexer.candidates.any fun candidate => lexer.isStale candidate && candidate.isRequired then
    .error badToken
  else .ok { lexer with
    candidates := lexer.candidates.filter fun candidate => !lexer.isStale candidate }

/-- Forget the candidate inside of the present brackets. -/
def withoutCandidate (lexer : Lexer) : Except Fault Lexer :=
  match lexer.candidate? with
  | some candidate =>
      if candidate.isRequired then .error badToken
      else .ok { lexer with
        candidates := lexer.candidates.filter fun other => other.level != lexer.level }
  | none => .ok lexer

/-- Remember that the name of a member may start here. -/
def withCandidate (lexer : Lexer) : Except Fault Lexer :=
  if lexer.allowsName then do
    let isRequired := lexer.level == 0 && lexer.column == lexer.place.column
    let lexer <- lexer.withoutCandidate
    .ok { lexer with
      candidates := ⟨lexer.level, lexer.tokens.length, lexer.place, isRequired⟩ ::
        lexer.candidates }
  else .ok lexer

/-- The ends of the blocks that lie to the right of a column. -/
def closing (column : Int) (inner : Int) : List Int -> List Token × Int × List Int
  | [] => ([], inner, [])
  | outer :: rest =>
      if column < inner then
        let (ends, last, left) := closing column outer rest
        (.blockEnd :: ends, last, left)
      else ([], inner, outer :: rest)

/-- End the blocks that lie to the right of a column. -/
def unwound (column : Int) (lexer : Lexer) : Lexer :=
  if lexer.level != 0 then lexer
  else
    let (ends, inner, outer) := closing column lexer.column lexer.outer
    { lexer with tokens := ends ++ lexer.tokens, column := inner, outer := outer }

/-- Start a block at a column if it lies to the right of the present one; the token of the start
comes before the one with a number. -/
def opening (start : Token) (column number : Nat) (lexer : Lexer) : Lexer :=
  if lexer.column < column then
    { lexer.insertAt number [start] with
      column := column, outer := lexer.column :: lexer.outer }
  else lexer

/-- A sign of one character that ends the name before it. -/
def sign (token : Token) (lexer : Lexer) : Except Fault Lexer := do
  .ok ((<- lexer.withoutCandidate).skip 1 |>.push token)

/-- A mark between documents. -/
def documentSign (token : Token) (lexer : Lexer) : Except Fault Lexer := do
  let lexer <- (lexer.unwound (-1)).withoutCandidate
  .ok ((lexer.allowing false).skip 3 |>.push token)

/-- The end of the text. -/
def finish (lexer : Lexer) : Except Fault Lexer := do
  .ok ((<- (lexer.unwound (-1)).withoutCandidate).push .streamEnd)

/-- An opening bracket. -/
def openBracket (token : Token) (lexer : Lexer) : Except Fault Lexer := do
  let lexer <- lexer.withCandidate
  .ok ({ lexer with level := lexer.level + 1, allowsName := true }.skip 1 |>.push token)

/-- A closing bracket. -/
def closeBracket (token : Token) (lexer : Lexer) : Except Fault Lexer := do
  let lexer <- lexer.withoutCandidate
  .ok ({ lexer with level := lexer.level - 1, allowsName := false }.skip 1 |>.push token)

/-- A sign that starts a block and that stands where a name can start. -/
def blockSign (start token : Token) (allowsName : Bool) (lexer : Lexer) : Except Fault Lexer :=
  if lexer.level != 0 then (lexer.allowing allowsName).sign token
  else if !lexer.allowsName then .error badToken
  else ((lexer.opening start lexer.place.column lexer.tokens.length).allowing allowsName).sign
    token

/-- A colon after a name: the sign of the name is put in front of it. -/
def namedColon (candidate : Candidate) (lexer : Lexer) : Lexer :=
  let lexer := { lexer with
    candidates := lexer.candidates.filter fun other => other.level != lexer.level }
  let lexer := lexer.insertAt candidate.number [.key]
  let lexer := if lexer.level != 0 then lexer
    else lexer.opening .blockMapping candidate.place.column candidate.number
  (lexer.allowing false).skip 1 |>.push .value

/-- A colon before a value. -/
def colon (lexer : Lexer) : Except Fault Lexer :=
  match lexer.candidate? with
  | some candidate => .ok (lexer.namedColon candidate)
  | none => lexer.blockSign .blockMapping .value (lexer.level == 0)

/-- A token of a node with characters of its own, which no name can follow. -/
def nodeToken (token : Token) (place : Cursor) (lexer : Lexer) : Except Fault Lexer := do
  .ok (((<- lexer.withCandidate).allowing false).movedTo place |>.push token)

/-- A character of the names of anchors and directives. -/
def isNameCharacter (character : Char) : Bool :=
  Json.Reader.isDigit character || ('A' ≤ character && character ≤ 'Z') ||
    ('a' ≤ character && character ≤ 'z') || character == '-' || character == '_'

/-- A text that is not empty. -/
def filled (text : List Char) : Except Fault String :=
  if text.isEmpty then .error badToken else .ok (String.ofList text)

/-- The characters that may follow the name of an anchor. -/
def afterAnchor : List Char := ['?', ':', ',', ']', '\x7d', '%', '@', '\x60']

/-- The name of an anchor after its sign, and the place after it. -/
def anchorName (cursor : Cursor) : Except Fault (String × Cursor) := do
  let (name, place) := cursor.next.span isNameCharacter
  let name <- filled name
  if startsApart place.rest || (place.rest.head?.any fun next => afterAnchor.contains next) then
    .ok (name, place)
  else .error badToken

/-- The characters of tags beside those of names. -/
def tagMarks : List Char :=
  [';', '/', '?', ':', '@', '&', '=', '+', '$', ',', '_', '.', '!', '~', '*', '\x27', '(', ')', '[',
    ']', '%']

/-- The rest of a tag, which has at least one character, and the place after it. -/
def tagText (cursor : Cursor) : Except Fault (String × Cursor) := do
  let (text, place) := cursor.span fun character =>
    isNameCharacter character || tagMarks.contains character
  .ok (<- filled text, place)

/-- The handle of a tag between two exclamation marks, and the place after it. -/
def tagHandle (cursor : Cursor) : Except Fault (String × Cursor) :=
  match cursor.rest with
  | '!' :: ' ' :: _ => .ok ("!", cursor.next)
  | '!' :: _ =>
      let (name, place) := cursor.next.span isNameCharacter
      match place.rest with
      | '!' :: _ => .ok (String.ofList ('!' :: name ++ ['!']), place.next)
      | _ => .error badToken
  | _ => .error badToken

/-- A tag and the place after it. -/
def tagAt (cursor : Cursor) : Except Fault (Token × Cursor) := do
  let (token, place) <- match cursor.next.rest with
    | '<' :: _ => do
        let (text, place) <- tagText (cursor.skip 2)
        match place.rest with
        | '>' :: _ => pure (Token.tag none text, place.next)
        | _ => .error badToken
    | rest =>
        if startsApart rest then pure (Token.tag none "!", cursor.next)
        else do
          let word := rest.takeWhile fun character => !(character == ' ' || isLineEnd character)
          let (handle, place) <- if word.contains '!' then tagHandle cursor
            else pure ("!", cursor.next)
          let (text, place) <- tagText place
          pure (Token.tag (some handle) text, place)
  if startsAfterTag place.rest then .ok (token, place) else .error badToken

/-- The number in a directive and the place after it. -/
def directiveNumber (cursor : Cursor) : Except Fault (Nat × Cursor) :=
  let (digits, place) := cursor.span Json.Reader.isDigit
  if digits.isEmpty then .error badToken else .ok (digitsValue digits, place)

/-- The content of a directive after its name. -/
def directiveContent (name : String) (cursor : Cursor) : Except Fault (Token × Cursor) := do
  let start := cursor.afterSpaces
  match name with
  | "YAML" => do
      let (major, place) <- directiveNumber start
      if place.rest.head? != some '.' then .error badToken
      let (_, place) <- directiveNumber place.next
      if startsAfterTag place.rest then .ok (.version major, place) else .error badToken
  | "TAG" => do
      let (handle, place) <- tagHandle start
      if place.rest.head? != some ' ' then .error badToken
      let (expansion, place) <- tagText place.afterSpaces
      if startsAfterTag place.rest then .ok (.tagHandle handle expansion, place)
      else .error badToken
  | _ => .ok (.otherDirective, cursor.after fun character => !isLineEnd character)

/-- A directive. -/
def directive (lexer : Lexer) : Except Fault Lexer := do
  let lexer <- (lexer.unwound (-1)).withoutCandidate
  let (name, place) := lexer.place.next.span isNameCharacter
  let name <- filled name
  if !startsAfterTag place.rest then .error badToken
  let (token, place) <- directiveContent name place
  .ok ((lexer.allowing false).movedTo (<- place.afterIgnoredLine) |>.push token)

/-- A block of lines. -/
def block (isFolded : Bool) (lexer : Lexer) : Except Fault Lexer := do
  let lexer <- (lexer.allowing true).withoutCandidate
  let (text, place) <- blockScalar isFolded lexer.column lexer.place.next
  .ok ((lexer.movedTo place).push (.scalar (String.ofList text) false))

/-- A quoted scalar. -/
def quoted (quote : Char) (lexer : Lexer) : Except Fault Lexer := do
  let (text, place) <- quotedScalar quote lexer.place.next
  lexer.nodeToken (.scalar (String.ofList text) false) place

/-- A plain scalar; a name can follow it at the beginning of a line. -/
def plain (lexer : Lexer) : Except Fault Lexer := do
  let read := plainScalar (lexer.level != 0) (lexer.column + 1) lexer.place
  let lexer <- lexer.nodeToken (.scalar (String.ofList read.text) true) read.place
  .ok (lexer.allowing read.endedLine)

/-- A token that starts with a character other than those of directives, documents and brackets. -/
def nodeOrSign (character : Char) (rest : List Char) (lexer : Lexer) : Except Fault Lexer :=
  let inFlow := lexer.level != 0
  let isApart := startsApart rest
  if character == '-' && isApart then lexer.blockSign .blockSequence .blockEntry true
  else if character == '?' && (inFlow || isApart) then
    lexer.blockSign .blockMapping .key (!inFlow)
  else if character == ':' && (inFlow || isApart) then lexer.colon
  else if character == '*' then do
    let (name, place) <- anchorName lexer.place
    lexer.nodeToken (.reference name) place
  else if character == '&' then do
    let (name, place) <- anchorName lexer.place
    lexer.nodeToken (.anchor name) place
  else if character == '!' then do
    let (token, place) <- tagAt lexer.place
    lexer.nodeToken token place
  else if character == '|' && !inFlow then lexer.block false
  else if character == '>' && !inFlow then lexer.block true
  else if character == '\x27' || character == '\x22' then lexer.quoted character
  else if startsPlain inFlow (character :: rest) then lexer.plain
  else .error badToken

/-- Read the next token. -/
def step (lexer : Lexer) : Except Fault Lexer := do
  let (place, endedLine) := lexer.place.token
  let lexer := (lexer.movedTo place).allowing (lexer.allowsName || (endedLine && lexer.level == 0))
  let lexer := (<- lexer.withoutStale).unwound place.column
  let startsLine := place.column == 0
  match place.rest with
  | [] => lexer.finish
  | character :: rest =>
      if character == '%' && startsLine then lexer.directive
      else if startsLine && startsWithMark documentMark place.rest then
        lexer.documentSign .documentStart
      else if startsLine && startsWithMark endMark place.rest then
        lexer.documentSign .documentEnd
      else if character == '[' then lexer.openBracket .flowSequence
      else if character == '\x7b' then lexer.openBracket .flowMapping
      else if character == ']' then lexer.closeBracket .flowSequenceEnd
      else if character == '\x7d' then lexer.closeBracket .flowMappingEnd
      else if character == ',' then (lexer.allowing true).sign .flowEntry
      else lexer.nodeOrSign character rest

/-- The settled tokens and the fault after them. -/
def brokenOff (lexer : Lexer) (fault : Fault) : List Token :=
  lexer.tokens.reverse.take lexer.settled ++ [.broken fault]

/-- All tokens from a place on. -/
def run : Nat -> Lexer -> List Token
  | 0, lexer => lexer.brokenOff badToken
  | fuel + 1, lexer =>
      match lexer.step with
      | .error fault => lexer.brokenOff fault
      | .ok next =>
          if next.tokens.head? == some .streamEnd then next.tokens.reverse
          else match next.withoutStale with
            | .error fault => lexer.brokenOff fault
            | .ok next => run fuel next

end Lexer

/-- The tokens of a text. -/
def Token.ofText (text : List Char) : List Token :=
  let first : Cursor := { rest := text }
  let start := if text.head? == some Text.byteOrderMark then first.next else first
  Lexer.run (2 * text.length + 2) { place := start }

end Yaml
end BroadcastGraphics
