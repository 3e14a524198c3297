import BroadcastGraphics.Element
import BroadcastGraphics.Fault
import BroadcastGraphics.Json.Display
import BroadcastGraphics.Placeholder
import BroadcastGraphics.Snapshot
import BroadcastGraphics.Text.Search

/-!
# Structural audit of templates

The audit works on values of any shape, before they become templates.  Findings block an export;
warnings name what playout systems may reject.  A few shapes, such as a list in the place of an id,
stop the audit with a fault.
-/

namespace BroadcastGraphics
namespace Audit

/-- The text of an index. -/
def indexText (index : Nat) : String :=
  String.ofList (decimalDigits index)

/-- A finding that is made when a condition holds. -/
def finding (condition : Bool) (message : String) : List String :=
  if condition then [message] else []

/-- A number of steps as the audit accepts it. -/
def isStepCount : Json -> Bool
  | .int value => 0 ≤ value
  | _ => false

/-- A truth value. -/
def isTruth : Json -> Bool
  | .bool _ => true
  | _ => false

/-- A text that passes a test. -/
def isTextWith (test : String -> Bool) : Json -> Bool
  | .str text => test text
  | _ => false

/-- Findings on a flag of a manifest. -/
def flagFindings (manifest : Table Json) (name : String) : List String :=
  match Table.get? manifest name with
  | some value => finding (!isTruth value) (name ++ " must be a boolean")
  | none => []

/-- The action has an id. -/
def hasId : Json -> Bool
  | .obj members => (Json.memberOrNull members "id").isTruthy
  | _ => false

/-- Findings on the actions from a given index on. -/
def actionFindings (index : Nat) : List Json -> List String
  | [] => []
  | action :: rest =>
      finding (!hasId action) ("Custom action " ++ indexText index ++ ": missing id") ++
        actionFindings (index + 1) rest

/-- Findings on the schema. -/
def schemaFindings : Json -> List String
  | .obj members =>
      match Table.get? members "properties" with
      | none => ["Missing schema properties"]
      | some (.obj _) => []
      | some _ => ["Schema properties must be an object"]
  | _ => ["Missing schema properties"]

/-- Findings on a manifest. -/
def manifestFindings : Json -> List String
  | .obj manifest =>
      let named := Json.memberOrNull manifest
      (if (named "id").isEmptyish then ["Missing template ID"]
        else finding (!isTextWith Identifier.isSlug (named "id"))
          "Invalid id format. Use lowercase letters, numbers, hyphens, and underscores only.") ++
      finding (named "name").isEmptyish "Missing template name" ++
      finding (named "main").isEmptyish "Missing main file reference" ++
      flagFindings manifest "supportsRealTime" ++
      flagFindings manifest "supportsNonRealTime" ++
      (match Table.get? manifest "stepCount" with
        | some value =>
            finding (!isStepCount value) "stepCount must be a non-negative integer"
        | none => []) ++
      schemaFindings (named "schema") ++
      (match Table.get? manifest "customActions" with
        | some (.arr actions) => actionFindings 0 actions
        | some _ => ["customActions must be an array"]
        | none => [])
  | _ => ["Manifest must be an object"]

/-- The names of the element kinds as a message lists them. -/
def kindNames : String :=
  (Json.ofStrings (Table.names ElementKind.options)).display

/-- Findings on an element. -/
def elementFindings (element : Json) (index : Json) : List String :=
  let place := "Element " ++ index.display ++ ": "
  match element with
  | .obj members =>
      let named := Json.memberOrNull members
      (if (named "id").isEmptyish then [place ++ "missing ID"]
        else finding (!isTextWith Identifier.isElementId (named "id"))
          (place ++ "ID must be letters, numbers, hyphens and underscores")) ++
      (if (named "type").isEmptyish then [place ++ "missing type"]
        else finding (!isTextWith (Table.has ElementKind.options) (named "type"))
          (place ++ "type must be one of " ++ kindNames)) ++
      finding (!(named "x").isNumber) (place ++ "invalid x position") ++
      finding (!(named "y").isNumber) (place ++ "invalid y position") ++
      finding (!(named "width").isNumber) (place ++ "invalid width") ++
      finding (!(named "height").isNumber) (place ++ "invalid height") ++
      (match Table.get? members "style" with
        | some style => finding style.obj?.isNone (place ++ "style must be an object")
        | none => [])
  | _ => [place ++ "must be an object"]

/-- The id of an element of any shape, nothing where there is none. -/
def idOf : Json -> Json
  | .obj members => Json.memberOrNull members "id"
  | _ => .null

/-- Two ids are one.  All failed results of a text are one; otherwise each is different. -/
def sameId (fromText : Bool) (left right : Json) : Bool :=
  left.sameScalar right && (fromText || !left.hasFailed)

/-- Findings on the elements from a given index on, when some ids were seen before.  A list or an
object in the place of an id stops the audit. -/
def elementsFindingsFrom (fromText : Bool) (index : Nat) (seen : List Json) :
    List Json -> Except Fault (List String)
  | [] => .ok []
  | element :: rest => do
      let found := elementFindings element (.int index)
      let id := idOf element
      if id.isEmptyish then
        .ok (found ++ (<- elementsFindingsFrom fromText (index + 1) seen rest))
      else if !id.isScalar then .error .wrongShape
      else
        let repeated := finding (seen.any (sameId fromText · id))
          ("Element " ++ indexText index ++ ": duplicate ID " ++ id.display)
        .ok (found ++ repeated ++
          (<- elementsFindingsFrom fromText (index + 1) (seen ++ [id]) rest))

/-- Findings on a list of elements. -/
def elementsFindings (fromText : Bool) : Json -> Except Fault (List String)
  | .arr elements => elementsFindingsFrom fromText 0 [] elements
  | _ => .ok ["Elements must be an array"]

/-- Findings on component source. -/
def componentFindings (source : Json) : List String :=
  if source.isEmptyish then []
  else match source with
    | .str text =>
        finding (!Text.contains text "HTMLElement") "Component must extend HTMLElement"
    | _ => ["Component must be source text"]

/-- A number that is not at or below zero; truth values are not numbers here. -/
def isPositive : Json -> Bool
  | .int value => 0 < value
  | .float value => !value.le Binary64.zero
  | _ => false

/-- Findings on a duration. -/
def durationFindings (settings : Table Json) (name : String) : List String :=
  match Table.get? settings name with
  | some value =>
      finding (!isPositive value) ("animationSettings." ++ name ++ " must be a positive number")
  | none => []

/-- Findings on animation settings. -/
def animationFindings : Json -> List String
  | .null => []
  | .obj settings =>
      durationFindings settings "slideInDuration" ++ durationFindings settings "slideOutDuration"
  | _ => ["animationSettings must be an object"]

/-- Findings on a template, which may have been read from a text. -/
def findings (template : Json) (fromText : Bool := false) : Except Fault (List String) :=
  match template with
  | .obj template => do
      let named := Json.memberOrNull template
      let elements <- elementsFindings fromText ((Table.get? template "elements").getD (.arr []))
      .ok (manifestFindings (named "manifest") ++ elements ++
        componentFindings (named "webComponent") ++ animationFindings (named "animationSettings"))
  | _ => .ok ["Template must be an object"]

/-- The methods of a component. -/
def componentMethods : List String :=
  ["load", "dispose", "playAction", "stopAction", "updateAction", "customAction"]

/-- The names of the placeholders of a content of any shape. -/
def placeholderNames (content : Json) : Except Fault (List String) :=
  if content.isEmptyish then .ok []
  else match content with
    | .str text => .ok (Placeholder.names (some text))
    | _ => .error .wrongShape

/-- Warnings on the placeholders of an element that no property fills. -/
def placeholderWarnings (properties : Table Json) : Json -> Except Fault (List String)
  | .obj element => do
      let names <- placeholderNames (Json.memberOrNull element "content")
      .ok ((names.filter fun name => !Table.has properties name).map fun name =>
        "Element " ++ (Json.memberOrNull element "id").display ++ ": placeholder \x7b\x7b" ++
          name ++ "\x7d\x7d has no schema property")
  | _ => .ok []

/-- Warnings on all elements. -/
def elementsWarnings (properties : Table Json) (elements : Json) :
    Except Fault (List String) :=
  if elements.isEmptyish then .ok []
  else match elements with
    | .arr items => do
        let warnings <- items.mapM (placeholderWarnings properties)
        .ok warnings.flatten
    | .str _ => .ok []
    | .obj _ => .ok []
    | _ => .error .wrongShape

/-- The members of a value that is an object, none otherwise. -/
def membersOrNone (value : Json) : Table Json :=
  value.obj?.getD []

/-- Warnings on the tag. -/
def tagWarnings : Json -> List String
  | .str id =>
      finding ((id.toList.head?.map Text.isDigit).getD false)
        ("Tag " ++ id ++ "-graphic starts with a digit; browsers reject such custom element names")
  | _ => []

/-- Warnings on the version. -/
def versionWarnings : Json -> List String
  | .str version =>
      finding (!Identifier.isVersion version)
        ("Version " ++ (Json.str version).quotedDisplay ++ " is not semantic versioning")
  | _ => []

/-- Warnings on component source. -/
def componentWarnings : Json -> List String
  | .str source =>
      let missing := componentMethods.filter fun method => !Text.contains source method
      finding (!missing.isEmpty)
        ("Component is missing methods: " ++ String.intercalate ", " missing)
  | _ => []

/-- Warnings on a template. -/
def warnings : Json -> Except Fault (List String)
  | .obj template => do
      let given := Json.memberOrNull template "manifest"
      let manifest <- if given.isEmptyish then .ok [] else
        match given with
        | .obj members => .ok members
        | _ => .error .noMembers
      let properties := membersOrNone (Json.memberOrNull
        (membersOrNone (Json.memberOrNull manifest "schema")) "properties")
      let elements <- elementsWarnings properties (Json.memberOrNull template "elements")
      .ok (tagWarnings (Json.memberOrNull manifest "id") ++
        versionWarnings (Json.memberOrNull manifest "version") ++ elements ++
        componentWarnings (Json.memberOrNull template "webComponent"))
  | _ => .error .noMembers

/-- The result of the audit of a template. -/
structure Report where
  findings : List String
  warnings : List String
  deriving DecidableEq, Repr

/-- The audit of a snapshot. -/
def report (snapshot : Snapshot) : Except Fault Report := do
  let written <- snapshot.written
  .ok ⟨<- findings written, <- warnings written⟩

/-- The report as a value. -/
def Report.toJson (report : Report) : Json :=
  .obj [("isValid", .bool report.findings.isEmpty), ("errors", .ofStrings report.findings),
    ("warnings", .ofStrings report.warnings)]

end Audit
end BroadcastGraphics
