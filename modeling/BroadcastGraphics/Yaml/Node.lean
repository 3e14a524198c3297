import BroadcastGraphics.Yaml.Token

/-!
# Nodes of settings

A document is a node: a scalar, a sequence or a mapping.  A node can have a tag, which says what it
stands for, and an anchor, by which later places refer to it.  A text holds at most one document,
and the number of levels in it is limited.
-/

namespace BroadcastGraphics
namespace Yaml

/-- A node.  A scalar that is written plainly and has no tag stands for what its text looks like. -/
inductive Node where
  | scalar (tag : Option String) (isPlain : Bool) (text : String)
  | sequence (tag : Option String) (items : List Node)
  | mapping (tag : Option String) (members : List (Node × Node))
  deriving Inhabited

/-- The fault of tokens that follow each other in no document. -/
def badOrder : Fault := .unreadableSettings .order

/-- The fault of a reference to nothing, of a second anchor of one name, and of a second
document. -/
def badReference : Fault := .unreadableSettings .reference

/-- What remains to be read, the anchors before, what the handles of tags stand for, and how many
sequences and mappings are open. -/
structure Document where
  tokens : List Token
  anchors : Table Node := []
  handles : Table String := []
  openLevels : Nat := 0

/-- The most sequences and mappings that can lie inside of each other. -/
def mostOpenLevels : Nat := 487

/-- The prefix of the tags that are known everywhere. -/
def commonTags : String := "tag:yaml.org,2002:"

/-- What handles of tags stand for without directives. -/
def standardHandles : Table String :=
  [("!", "!"), ("!!", commonTags)]

namespace Node

/-- Something read from a document. -/
abbrev Reading (α : Type) := StateT Document (Except Fault) α

/-- The next token; a fault among the tokens is met there. -/
def peek : Reading Token := do
  match (<- get).tokens with
  | [] => pure .streamEnd
  | .broken fault :: _ => throw fault
  | token :: _ => pure token

/-- Pass over the next token. -/
def drop : Reading Unit :=
  modify fun document => { document with tokens := document.tokens.drop 1 }

/-- Pass over the next token if it is a certain one; the answer says whether it was. -/
def accept (token : Token) : Reading Bool := do
  if (<- peek) = token then
    drop
    pure true
  else pure false

/-- Pass over a token that has to come next. -/
def expect (token : Token) : Reading Unit := do
  if !(<- accept token) then throw badOrder

/-- The next token is one of some tokens. -/
def comes (tokens : List Token) : Reading Bool := do
  pure (tokens.contains (<- peek))

/-- The node of a place at which nothing is written. -/
def nothing : Node := .scalar none true ""

/-- The name of an anchor, if one comes next. -/
def anchor? : Reading (Option String) := do
  match <- peek with
  | .anchor name => do
      drop
      pure (some name)
  | _ => pure none

/-- A tag, if one comes next: its handle, if it has one, and the rest of it. -/
def tag? : Reading (Option (Option String × String)) := do
  match <- peek with
  | .tag handle suffix => do
      drop
      pure (some (handle, suffix))
  | _ => pure none

/-- The full name of a tag. -/
def fullTag : Option String × String -> Reading String
  | (none, suffix) => pure suffix
  | (some handle, suffix) => do
      match Table.get? (<- get).handles handle with
      | some expansion => pure (expansion ++ suffix)
      | none => throw badOrder

/-- The anchor and the tag of a node, in any order. -/
def properties : Reading (Option String × Option String) := do
  let first <- anchor?
  let tag <- tag?
  let second <- if first.isSome || tag.isNone then pure none else anchor?
  let tag <- match tag with
    | none => pure none
    | some tag => some <$> fullTag tag
  pure (first.or second, tag)

/-- Keep a node under its anchor. -/
def keep (anchor : Option String) (node : Node) : Reading Node := do
  if let some name := anchor then
    modify fun document => { document with anchors := Table.put document.anchors name node }
  pure node

/-- Refuse an anchor of a name that an earlier node has. -/
def refuseKnown (anchor : Option String) : Reading Unit := do
  if let some name := anchor then
    if Table.has (<- get).anchors name then throw badReference

/-- Read what lies inside of a sequence or a mapping. -/
def inside {α : Type} (content : Reading α) : Reading α := do
  let level := (<- get).openLevels
  if mostOpenLevels ≤ level then throw .tooDeep
  modify fun document => { document with openLevels := level + 1 }
  let read <- content
  modify fun document => { document with openLevels := level }
  pure read

/-- Where a node stands: in brackets, as a block, or as the value of a member, where the entries of
a sequence need not be indented. -/
inductive Position where
  | flow
  | block
  | member
  deriving DecidableEq, Repr

mutual

/-- A node at a position. -/
def read : Nat -> Position -> Reading Node
  | 0, _ => throw badOrder
  | fuel + 1, position => do
      if let .reference name := <- peek then
        drop
        match Table.get? (<- get).anchors name with
        | some node => return node
        | none => throw badReference
      let (anchor, tag) <- properties
      let token <- peek
      let inBlock := position != .flow
      if token = .blockEntry && position = .member then
        refuseKnown anchor
        keep anchor (.sequence tag (<- inside (readEntries fuel)))
      else match token with
        | .scalar text isPlain => do
            drop
            refuseKnown anchor
            keep anchor (.scalar tag (if tag = some "!" then true else isPlain) text)
        | .flowSequence => do
            drop
            refuseKnown anchor
            keep anchor (.sequence tag (<- inside (readItems fuel true)))
        | .flowMapping => do
            drop
            refuseKnown anchor
            keep anchor (.mapping tag (<- inside (readFlowMembers fuel true)))
        | .blockSequence => do
            if !inBlock then throw badOrder
            drop
            refuseKnown anchor
            let items <- inside (readEntries fuel)
            expect .blockEnd
            keep anchor (.sequence tag items)
        | .blockMapping => do
            if !inBlock then throw badOrder
            drop
            refuseKnown anchor
            keep anchor (.mapping tag (<- inside (readMembers fuel)))
        | _ => do
            if anchor.isNone && tag.isNone then throw badOrder
            refuseKnown anchor
            keep anchor (.scalar tag (tag.isNone || tag = some "!") "")

/-- A node at a position, or nothing if one of some tokens comes. -/
def readUnless : Nat -> Position -> List Token -> Reading Node
  | 0, _, _ => throw badOrder
  | fuel + 1, position, ends => do
      if <- comes ends then pure nothing else read fuel position

/-- The entries of a block sequence. -/
def readEntries : Nat -> Reading (List Node)
  | 0 => throw badOrder
  | fuel + 1 => do
      if <- accept .blockEntry then
        let item <- readUnless fuel .block [.blockEntry, .key, .value, .blockEnd]
        pure (item :: (<- readEntries fuel))
      else pure []

/-- The value of a member, nothing if none is written. -/
def readValue : Nat -> Position -> List Token -> Reading Node
  | 0, _, _ => throw badOrder
  | fuel + 1, position, ends => do
      if <- accept .value then readUnless fuel position ends else pure nothing

/-- The members of a block mapping. -/
def readMembers : Nat -> Reading (List (Node × Node))
  | 0 => throw badOrder
  | fuel + 1 => do
      let ends := [Token.key, .value, .blockEnd]
      if <- accept .key then
        let name <- readUnless fuel .member ends
        let value <- readValue fuel .member ends
        pure ((name, value) :: (<- readMembers fuel))
      else
        expect .blockEnd
        pure []

/-- The items of a sequence in brackets; an item can be a single member. -/
def readItems : Nat -> Bool -> Reading (List Node)
  | 0, _ => throw badOrder
  | fuel + 1, isFirst => do
      if <- accept .flowSequenceEnd then return []
      if !isFirst then expect .flowEntry
      if <- accept .key then
        let ends := [Token.flowEntry, .flowSequenceEnd]
        let name <- readUnless fuel .flow (.value :: ends)
        let value <- readValue fuel .flow ends
        pure (.mapping none [(name, value)] :: (<- readItems fuel false))
      else if <- accept .flowSequenceEnd then pure []
      else
        let item <- read fuel .flow
        pure (item :: (<- readItems fuel false))

/-- The members of a mapping in brackets; a name can stand without a value. -/
def readFlowMembers : Nat -> Bool -> Reading (List (Node × Node))
  | 0, _ => throw badOrder
  | fuel + 1, isFirst => do
      if <- accept .flowMappingEnd then return []
      if !isFirst then expect .flowEntry
      let ends := [Token.flowEntry, .flowMappingEnd]
      if <- accept .key then
        let name <- readUnless fuel .flow (.value :: ends)
        let value <- readValue fuel .flow ends
        pure ((name, value) :: (<- readFlowMembers fuel false))
      else if <- accept .flowMappingEnd then pure []
      else
        let name <- read fuel .flow
        pure ((name, nothing) :: (<- readFlowMembers fuel false))

end

/-- Take over a directive: whether the version is given already, and what the handles that were
given stand for. -/
def takeDirective (hasVersion : Bool) (handles : Table String) :
    Token -> Except Fault (Bool × Table String)
  | .version major =>
      if hasVersion || major != 1 then .error badOrder else .ok (true, handles)
  | .tagHandle handle expansion =>
      if Table.has handles handle then .error badOrder
      else .ok (hasVersion, Table.put handles handle expansion)
  | _ => .ok (hasVersion, handles)

/-- A token is a directive. -/
def isDirective : Token -> Bool
  | .version _ => true
  | .tagHandle _ _ => true
  | .otherDirective => true
  | _ => false

/-- Read directives. -/
def readDirectives : Nat -> Bool -> Table String -> Reading Unit
  | 0, _, _ => throw badOrder
  | fuel + 1, hasVersion, handles => do
      let token <- peek
      if isDirective token then
        let (hasVersion, handles) <- takeDirective hasVersion handles token
        drop
        readDirectives fuel hasVersion handles
      else modify fun document => { document with
        handles := Table.merge standardHandles handles }

/-- Pass over the marks after a document. -/
def passEndMarks : Nat -> Reading Unit
  | 0 => throw badOrder
  | fuel + 1 => do
      if <- accept .documentEnd then passEndMarks fuel

/-- Read the beginning of a document that starts with a mark, unless the text ends here; the answer
says whether there is a document. -/
def startDocument (fuel : Nat) : Reading Bool := do
  passEndMarks fuel
  if <- comes [.streamEnd] then pure false
  else
    readDirectives fuel false []
    expect .documentStart
    pure true

/-- The content of a document. -/
def readContent (fuel : Nat) : Reading Node := do
  let token <- peek
  if isDirective token || [Token.documentStart, .documentEnd, .streamEnd].contains token then
    pure nothing
  else read fuel .block

/-- The only document of a text, if there is one. -/
def readSingle (fuel : Nat) : Reading (Option Node) := do
  let token <- peek
  let starts := isDirective token || token = .documentStart || token = .streamEnd
  let hasDocument <- if starts then startDocument fuel else pure true
  if !hasDocument then return none
  let node <- if starts then readContent fuel else read fuel .block
  if <- startDocument fuel then throw badReference
  pure (some node)

/-- The only document of some tokens, if there is one. -/
def ofTokens? (tokens : List Token) : Except Fault (Option Node) :=
  (readSingle (4 * tokens.length + 8)).run' { tokens, handles := standardHandles }

end Node
end Yaml
end BroadcastGraphics
