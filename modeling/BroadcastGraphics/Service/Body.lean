import BroadcastGraphics.ConflictPolicy
import BroadcastGraphics.Manifest
import BroadcastGraphics.Preset
import BroadcastGraphics.Validation.Record

/-!
# Request bodies

Every command that takes a body has a record for it.  A body record can be read from the body of a
request or from a value on its own; only the cause given for a value that is no object differs.
-/

namespace BroadcastGraphics

namespace Check

/-- A record that is the body of a request. -/
def body {α : Type} (read : Table Json -> Checked α) : Json -> Checked α
  | .obj members => read members
  | _ => .refuse .notBody

end Check

namespace Service

/-- A template to be made from a preset. -/
structure NewTemplate where
  kind : PresetKind
  id : String
  name : String
  description : String

/-- Read the body of a creation. -/
def NewTemplate.ofMembers (members : Table Json) : Checked NewTemplate :=
  NewTemplate.mk
    <$> (Field.plain "kind").withDefault .lowerThird (Check.choice PresetKind.options) members
    <*> (Field.plain "id").required Manifest.checkId members
    <*> (Field.plain "name").required Check.text members
    <*> (Field.plain "description").withDefault "" Check.text members

/-- The body of a creation as a value. -/
def NewTemplate.toJson (body : NewTemplate) : Json :=
  .obj [("kind", .str body.kind.name), ("id", .str body.id), ("name", .str body.name),
    ("description", .str body.description)]

/-- The identity of a copy. -/
structure CopyRequest where
  newId : String
  newName : String

/-- Read the body of a duplication. -/
def CopyRequest.ofMembers (members : Table Json) : Checked CopyRequest :=
  CopyRequest.mk
    <$> (Field.plain "new_id").required Check.text members
    <*> (Field.plain "new_name").required Check.text members

/-- The body of a duplication as a value. -/
def CopyRequest.toJson (body : CopyRequest) : Json :=
  .obj [("new_id", .str body.newId), ("new_name", .str body.newName)]

/-- A template in the list of all templates. -/
structure Summary where
  id : String
  name : String
  description : String
  elementCount : Int
  current : Bool
  cached : Bool

/-- Read an entry of the list of templates. -/
def Summary.ofMembers (members : Table Json) : Checked Summary :=
  Summary.mk
    <$> (Field.plain "id").required Check.text members
    <*> (Field.plain "name").required Check.text members
    <*> (Field.plain "description").withDefault "" Check.text members
    <*> (Field.plain "element_count").withDefault 0 Check.integer members
    <*> (Field.plain "current").withDefault false Check.truth members
    <*> (Field.plain "artifact_cached").withDefault false Check.truth members

/-- An entry of the list of templates as a value. -/
def Summary.toJson (summary : Summary) : Json :=
  .obj [("id", .str summary.id), ("name", .str summary.name),
    ("description", .str summary.description), ("element_count", .int summary.elementCount),
    ("current", .bool summary.current), ("artifact_cached", .bool summary.cached)]

/-- An element to add; what is absent takes the starting value of its kind. -/
structure NewElement where
  kind : ElementKind
  x : Option Binary64
  y : Option Binary64
  width : Option Binary64
  height : Option Binary64
  content : Option String
  style : Option (Table Json)

/-- The members that a new element may have. -/
def NewElement.names : List String :=
  ["type", "x", "y", "width", "height", "content", "style"]

/-- Accepted only without further members. -/
def noFurther (names : List String) (members : Table Json) : Checked Unit :=
  match members.filter fun member => !names.contains member.1 with
  | [] => .accepted ()
  | further => .refused (further.map fun member => ⟨[.member member.1], .notPermitted⟩)

/-- Read the body of an addition. -/
def NewElement.ofMembers (members : Table Json) : Checked NewElement :=
  (fun kind x y width height content style (_ : Unit) =>
    ⟨kind, x, y, width, height, content, style⟩)
    <$> (Field.plain "type").required (Check.choice ElementKind.options) members
    <*> (Field.plain "x").withDefault none (Check.optional Check.number) members
    <*> (Field.plain "y").withDefault none (Check.optional Check.number) members
    <*> (Field.plain "width").withDefault none (Check.optional Check.number) members
    <*> (Field.plain "height").withDefault none (Check.optional Check.number) members
    <*> (Field.plain "content").withDefault none (Check.optional Check.text) members
    <*> (Field.plain "style").withDefault none (Check.optional (Check.mapping Check.anything))
      members
    <*> noFurther names members

/-- The values that can be anything. -/
def NewElement.freeValues (body : NewElement) : List Json :=
  (body.style.getD []).map Prod.snd

/-- The members of an addition, those that are absent as nothing. -/
def NewElement.members (body : NewElement) : Table Json :=
  let number := fun (value : Option Binary64) => (value.map Json.float).getD .null
  [("type", .str body.kind.name), ("x", number body.x), ("y", number body.y),
    ("width", number body.width), ("height", number body.height),
    ("content", Json.ofText? body.content), ("style", (body.style.map Json.obj).getD .null)]

/-- The body of an addition as a value. -/
def NewElement.toJson (body : NewElement) : Json :=
  .obj (Json.finiteMembers body.members)

/-- The specification of the element: the members that were given. -/
def NewElement.spec (body : NewElement) : Json :=
  .obj (Json.presentMembers body.members)

/-- The kinds of data that the editor makes. -/
def propertyKinds : Table String :=
  [("string", "string"), ("number", "number"), ("boolean", "boolean")]

/-- A property to add. -/
structure NewProperty where
  name : String
  kind : String
  title : String
  default : Json

/-- Read the body of a property. -/
def NewProperty.ofMembers (members : Table Json) : Checked NewProperty :=
  NewProperty.mk
    <$> (Field.plain "name").required Check.filledText members
    <*> (Field.plain "type").withDefault "string" (Check.choice propertyKinds) members
    <*> (Field.plain "title").withDefault "" Check.text members
    <*> (Field.plain "default").withDefault .null Check.anything members

/-- The body of a property as a value. -/
def NewProperty.toJson (body : NewProperty) : Json :=
  .obj [("name", .str body.name), ("type", .str body.kind), ("title", .str body.title),
    ("default", body.default.finiteOnly)]

/-- The values that can be anything. -/
def NewProperty.freeValues (body : NewProperty) : List Json :=
  [body.default]

/-- A document, or a manifest with component source. -/
structure ImportRequest where
  document : Option (Table Json)
  manifest : Option (Table Json)
  component : Option String
  policy : Option ConflictPolicy

/-- Read the body of an import. -/
def ImportRequest.ofMembers (members : Table Json) : Checked ImportRequest :=
  ImportRequest.mk
    <$> (Field.plain "document").withDefault none (Check.optional (Check.mapping Check.anything))
      members
    <*> (Field.plain "manifest").withDefault none (Check.optional (Check.mapping Check.anything))
      members
    <*> (Field.plain "component").withDefault none (Check.optional Check.text) members
    <*> (Field.plain "policy").withDefault none
      (Check.optional (Check.choice ConflictPolicy.options))
      members

/-- The body of an import as a value. -/
def ImportRequest.toJson (body : ImportRequest) : Json :=
  .obj [("document", (body.document.map Json.obj).getD .null |>.finiteOnly),
    ("manifest", (body.manifest.map Json.obj).getD .null |>.finiteOnly),
    ("component", Json.ofText? body.component),
    ("policy", Json.ofText? (body.policy.map ConflictPolicy.name))]

/-- The values that can be anything. -/
def ImportRequest.freeValues (body : ImportRequest) : List Json :=
  (body.document.getD [] ++ body.manifest.getD []).map Prod.snd

/-- The answer to an import. -/
structure ImportReport where
  imported : List String
  count : Int

/-- Read the answer to an import. -/
def ImportReport.ofMembers (members : Table Json) : Checked ImportReport :=
  ImportReport.mk
    <$> (Field.plain "imported").required (Check.list Check.text) members
    <*> (Field.plain "count").required Check.integer members

/-- The answer to an import as a value. -/
def ImportReport.toJson (report : ImportReport) : Json :=
  .obj [("imported", .ofStrings report.imported), ("count", .int report.count)]

/-- The templates of a bundle. -/
structure BundleRequest where
  templateIds : List String
  bundleName : String

/-- Read the body of a bundle export. -/
def BundleRequest.ofMembers (members : Table Json) : Checked BundleRequest :=
  BundleRequest.mk
    <$> (Field.plain "template_ids").required (Check.list Check.text) members
    <*> (Field.plain "bundle_name").withDefault "ograf-templates" Check.text members

/-- The body of a bundle export as a value. -/
def BundleRequest.toJson (body : BundleRequest) : Json :=
  .obj [("template_ids", .ofStrings body.templateIds), ("bundle_name", .str body.bundleName)]

/-- How a preview command is to be carried out. -/
structure PreviewRequest where
  skipAnimation : Bool := false
  data : Table Json := []
  name : Option String := none
  wait : Bool := false

/-- Read the body of a preview command. -/
def PreviewRequest.ofMembers (members : Table Json) : Checked PreviewRequest :=
  PreviewRequest.mk
    <$> (Field.plain "skip_animation").withDefault false Check.truth members
    <*> (Field.plain "data").withDefault [] (Check.mapping Check.anything) members
    <*> (Field.plain "name").withDefault none (Check.optional Check.text) members
    <*> (Field.plain "wait").withDefault false Check.truth members

/-- The body of a preview command as a value. -/
def PreviewRequest.toJson (body : PreviewRequest) : Json :=
  .obj [("skip_animation", .bool body.skipAnimation), ("data", .obj (Json.finiteMembers body.data)),
    ("name", Json.ofText? body.name), ("wait", .bool body.wait)]

/-- The values that can be anything. -/
def PreviewRequest.freeValues (body : PreviewRequest) : List Json :=
  body.data.map Prod.snd

end Service
end BroadcastGraphics
