import BroadcastGraphics.Json.Basic
import BroadcastGraphics.Text.Blank
import BroadcastGraphics.Text.Search

/-!
# Component source from outside

Component source that comes with an import is kept if it looks like a component.  Before it is kept
its exports are taken out: the words `export default` and then the word `export`, each once and
only at the start of a line, together with the blanks after them.
-/

namespace BroadcastGraphics
namespace ComponentSource

/-- What follows a word and at least one blank, blanks dropped. -/
def afterWord? (word : List Char) (input : List Char) : Option (List Char) :=
  if word.isPrefixOf input then
    match input.drop word.length with
    | next :: rest => if Text.isBlank next then some (rest.dropWhile Text.isBlank) else none
    | [] => none
  else none

/-- What follows a plain export. -/
def afterExport? (input : List Char) : Option (List Char) :=
  afterWord? "export".toList input

/-- What follows a default export. -/
def afterDefaultExport? (input : List Char) : Option (List Char) :=
  (afterExport? input).bind (afterWord? "default".toList)

/-- Take out the first match at the start of a line. -/
def withoutFirst (after? : List Char -> Option (List Char)) (lineStart : Bool) :
    List Char -> List Char
  | [] => []
  | character :: rest =>
      match if lineStart then after? (character :: rest) else none with
      | some remaining => remaining
      | none => character :: withoutFirst after? (character == '\n') rest

/-- The source without its exports and without blanks around it. -/
def cleaned (source : String) : String :=
  let withoutDefault := withoutFirst afterDefaultExport? true source.toList
  String.ofList (Text.trimBy Text.isBlank (withoutFirst afterExport? true withoutDefault))

/-- The source looks like a component. -/
def isPlausible (source : String) : Bool :=
  Text.contains source "HTMLElement" && Text.contains source "class" &&
    (Text.contains source "playAction" || Text.contains source "load")

/-- The component source that a value holds, if it looks like one. -/
def ofJson? : Json -> Option String
  | .str source => if isPlausible source then some source else none
  | _ => none

end ComponentSource
end BroadcastGraphics
