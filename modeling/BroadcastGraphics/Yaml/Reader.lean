import BroadcastGraphics.Text.Case
import BroadcastGraphics.Yaml.Node
import BroadcastGraphics.Yaml.Scalar

/-!
# Reading settings files

The value of a node follows from its tag, or from the look of its text if it is a plain scalar
without one.  A mapping can take over the members of others; its own members come after them and
win.  Names of members can be any scalars.
-/

namespace BroadcastGraphics
namespace Yaml

/-- The fault of a node that has no value. -/
def badValue : Fault := .unreadableSettings .value

namespace Node

/-- The kind of a scalar that its tag names. -/
def taggedKind? (tag : String) : Option ScalarKind :=
  if tag == commonTags ++ "null" then some .empty
  else if tag == commonTags ++ "bool" then some .truth
  else if tag == commonTags ++ "int" then some .integer
  else if tag == commonTags ++ "float" then some .fraction
  else if tag == commonTags ++ "timestamp" then some .moment
  else if tag == commonTags ++ "str" then some .text
  else none

/-- The kind of a scalar. -/
def kind (tag : Option String) (isPlain : Bool) (text : String) : Option ScalarKind :=
  match tag with
  | none => some (if isPlain then ScalarKind.of text else .text)
  | some "!" => some (if isPlain then ScalarKind.of text else .text)
  | some tag => taggedKind? tag

/-- The value of a scalar of a kind. -/
def scalarValue (text : String) : ScalarKind -> Except Fault Json
  | .empty => .ok .null
  | .truth =>
      match Table.get? truthWords (String.ofList (Text.lower text.toList)) with
      | some truth => .ok (.bool truth)
      | none => .error .noSuchMember
  | .integer => (integerOf text).map Json.int
  | .fraction => (fractionOf text).map Json.float
  | .moment => momentOf text
  | .text => .ok (.str text)
  | _ => .error badValue

/-- A collection has no tag or the one that it would have anyway. -/
def hasTag (name : String) : Option String -> Bool
  | none => true
  | some tag => tag == "!" || tag == commonTags ++ name

/-- A node is the name under which a mapping takes over the members of others. -/
def isMerge : Node -> Bool
  | .scalar tag isPlain text =>
      kind tag isPlain text = some .merge || tag = some (commonTags ++ "merge")
  | _ => false

/-- Write entries over members, one after the other. -/
def written (members : Table Json) (entries : List (Json × Json)) : Table Json :=
  entries.foldl (fun members entry => Json.Name.put members entry.1 entry.2) members

/-- The name that a node is. -/
def nameValue : Node -> Except Fault Json
  | .scalar tag isPlain text =>
      match kind tag isPlain text with
      | some .standard => .ok (.str text)
      | some kind => do
          let name <- scalarValue text kind
          if name.isScalar then .ok name else .error badValue
      | none => .error badValue
  | _ => .error badValue

mutual

/-- The value of a node. -/
def value : Node -> Except Fault Json
  | .scalar tag isPlain text =>
      match kind tag isPlain text with
      | some kind => scalarValue text kind
      | none => .error badValue
  | .sequence tag items => do
      let items <- values items
      if hasTag "seq" tag then .ok (.arr items) else .error badValue
  | .mapping tag members => do
      let (merged, own) <- entries members
      if hasTag "map" tag then .ok (.obj (written [] (merged ++ own))) else .error badValue

/-- The values of nodes. -/
def values : List Node -> Except Fault (List Json)
  | [] => .ok []
  | item :: rest => do
      let first <- value item
      .ok (first :: (<- values rest))

/-- The entries that a mapping takes over and its own. -/
def entries : List (Node × Node) -> Except Fault (List (Json × Json) × List (Json × Json))
  | [] => .ok ([], [])
  | (name, content) :: rest =>
      if name.isMerge then do
        let taken <- takenOver content
        let (merged, own) <- entries rest
        .ok (taken ++ merged, own)
      else do
        let name <- nameValue name
        let content <- value content
        let (merged, own) <- entries rest
        .ok (merged, (name, content) :: own)

/-- The entries of a mapping, or of several mappings, the first of which wins. -/
def takenOver : Node -> Except Fault (List (Json × Json))
  | .mapping _ members => do
      let (merged, own) <- entries members
      .ok (merged ++ own)
  | .sequence _ items => takenOverAll items
  | .scalar _ _ _ => .error badValue

/-- The entries of several mappings, the last of which comes first. -/
def takenOverAll : List Node -> Except Fault (List (Json × Json))
  | [] => .ok []
  | .mapping _ members :: rest => do
      let (merged, own) <- entries members
      .ok ((<- takenOverAll rest) ++ merged ++ own)
  | _ => .error badValue

end

end Node

/-- A character that can stand in a settings file. -/
def isAllowed (character : Char) : Bool :=
  let code := character.toNat
  code == 0x09 || code == 0x0a || code == 0x0d || (0x20 ≤ code && code ≤ 0x7e) || code == 0x85 ||
    (0xa0 ≤ code && code != 0xfffe && code != 0xffff)

/-- The value of a settings file; an empty file has nothing as its value. -/
def parse (text : String) : Except Fault Json := do
  let characters := Text.plainLineEnds text.toList
  if !characters.all isAllowed then .error (.unreadableSettings .character)
  match <- Node.ofTokens? (Token.ofText characters) with
  | some node => node.value
  | none => .ok .null

end Yaml
end BroadcastGraphics
