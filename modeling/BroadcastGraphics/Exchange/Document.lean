import BroadcastGraphics.Fault
import BroadcastGraphics.Json.Printer
import BroadcastGraphics.Manifest
import BroadcastGraphics.Text.Search

/-!
# Exchange documents

Templates travel as editor documents, as export bundles with the files of one graphic, as bundles
of several templates, or as bare manifests.  Writing takes the export date from outside, so equal
templates exported on one date have equal documents.
-/

namespace BroadcastGraphics

/-- The kinds of documents that can be imported. -/
inductive DocumentKind where
  | editorTemplate
  | exportBundle
  | multiBundle
  | rawManifest
  deriving DecidableEq, Repr

/-- The name of a kind of document. -/
def DocumentKind.name : DocumentKind -> String
  | editorTemplate => "editor-template"
  | exportBundle => "export-bundle"
  | multiBundle => "multi-bundle"
  | rawManifest => "raw-manifest"

namespace Exchange

/-- The format mark of editor documents. -/
def templateFormat : String := "ograf-editor-template"

/-- The format mark of bundles of several templates. -/
def bundleFormat : String := "ograf-editor-bundle"

/-- The version of both formats. -/
def version : String := "1.0.0"

/-- The ending of the names of manifest files. -/
def manifestSuffix : String := ".ograf.json"

/-- The component file of a manifest that names none. -/
def standardMain : String := "template.mjs"

/-- The date of an export: the given one unless it is missing or empty. -/
def dateOr (now : String) (given : Json) : Json :=
  if given.isTruthy then given else .str now

/-- The deployable files of a graphic.  When both have one name, only the component is left. -/
def fileSet {α : Type} (id main : String) (manifestText source : α) : Table α :=
  Table.put [(id ++ manifestSuffix, manifestText)] (if main.isEmpty then standardMain else main)
    source

/-- The name that a scalar becomes where names are expected. -/
def nameOfScalar : Json -> Except Fault String
  | .str text => .ok text
  | .arr _ => .error .wrongShape
  | .obj _ => .error .wrongShape
  | value => .ok (Json.Name.ofScalar value)

/-- The deployable files for a manifest of any shape. -/
def fileSetOfValue (manifest source manifestText : Json) : Except Fault (Table Json) :=
  match manifest with
  | .obj members =>
      match Table.get? members "id" with
      | none => .error .noSuchMember
      | some id => do
          let main := Json.memberOrNull members "main"
          let main <- if main.isTruthy then nameOfScalar main else .ok standardMain
          .ok (fileSet id.display main manifestText source)
  | _ => .error .wrongShape

/-- The document of one template. -/
def editorDocument (template date : Json) : Json :=
  .obj [("format", .str templateFormat), ("version", .str version), ("exportDate", date),
    ("template", template)]

/-- The document of the files of one graphic. -/
def exportBundle (id files date : Json) : Json :=
  .obj [("templateId", id), ("exportDate", date), ("files", files)]

/-- The document of several templates; of two templates with one id the later stays. -/
def multiBundle (templates : Table Json) (name date : Json) : Json :=
  .obj [("format", .str bundleFormat), ("version", .str version), ("exportDate", date),
    ("bundleName", name), ("templates", .obj (Table.merge [] templates))]

/-- The templates that a value lists with their ids; of an object only the names are listed. -/
def entriesOf : Json -> Except Fault (Table Json)
  | .obj members => (Json.arr (members.map fun member => Json.Name.toJson member.1)).toMembers
  | value => value.toMembers

/-- The kind of a document. -/
def kindOf : Json -> Except Fault DocumentKind
  | .obj members =>
      let named := Json.memberOrNull members
      if named "format" = .str templateFormat then .ok .editorTemplate
      else if named "format" = .str bundleFormat then .ok .multiBundle
      else if (named "templateId").isTruthy && (named "files").obj?.isSome then .ok .exportBundle
      else if (named "$schema").isTruthy && (named "id").isTruthy then .ok .rawManifest
      else .error (.badImport .unknownFormat)
  | _ => .error (.badImport .notAnObject)

/-- The name is that of component source. -/
def isComponentName (name : String) : Bool :=
  Text.endsIn name ".mjs" || Text.endsIn name ".js"

/-- The manifest and the component source among some files; missing source is empty. -/
def bundleParts (files : Table Json) : Except Fault (Json × Json) :=
  match files.find? fun file => Text.endsIn file.1 manifestSuffix with
  | none => .error (.badImport .noManifestFile)
  | some manifest =>
      let component := (files.find? fun file => isComponentName file.1).map Prod.snd
      .ok (manifest.2, component.getD (.str ""))

/-- Search a list of names; the search fails at an item that is no text. -/
def findName (wanted : String -> Bool) : List Json -> Except Fault Bool
  | [] => .ok false
  | .str name :: rest => if wanted name then .ok true else findName wanted rest
  | _ :: _ => .error .noMembers

/-- The manifest and the component source of an export bundle of any shape. -/
def splitBundle : Json -> Except Fault (Json × Json)
  | .obj members =>
      let files := Json.memberOrNull members "files"
      if files.isEmptyish then .error (.badImport .noManifestFile)
      else match files with
        | .obj files => bundleParts files
        | .str _ => .error (.badImport .noManifestFile)
        | .arr names => do
            if !(<- findName (Text.endsIn · manifestSuffix) names) then
              .error (.badImport .noManifestFile)
            let _ <- findName isComponentName names
            .error .wrongShape
        | _ => .error .wrongShape
  | _ => .error .noMembers

/-- The author of a manifest from outside. -/
def normalizedAuthor : Json -> Json
  | .str name => .obj [("name", .str name), ("email", .str "")]
  | .obj members => .obj (Table.merge [("email", .str "")] members)
  | _ => .obj [("name", .str "Unknown"), ("email", .str "")]

/-- The schema of a manifest from outside, if it has to change. -/
def normalizedSchema? : Json -> Option Json
  | .obj members =>
      if (Json.memberOrNull members "properties").obj?.isSome then none
      else some (.obj (Table.put members "properties" (.obj [])))
  | _ => some (.obj [("type", .str "object"), ("properties", .obj [])])

/-- A manifest from outside with its common gaps filled. -/
def normalizedManifest (manifest : Table Json) : Table Json :=
  let version := Json.memberOrNull manifest "version"
  let manifest :=
    if version.isEmptyish || version = .str "0" then Table.put manifest "version" (.str "1.0.0")
    else manifest
  let manifest :=
    Table.put manifest "author" (normalizedAuthor (Json.memberOrNull manifest "author"))
  let manifest :=
    if (Json.memberOrNull manifest "main").isEmptyish then
      Table.put manifest "main" (.str standardMain)
    else manifest
  match normalizedSchema? (Json.memberOrNull manifest "schema") with
  | some schema => Table.put manifest "schema" schema
  | none => manifest

end Exchange
end BroadcastGraphics
