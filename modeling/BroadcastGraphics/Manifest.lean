import BroadcastGraphics.Identifier
import BroadcastGraphics.Validation.Record

/-!
# Manifests

A manifest describes a graphic to the playout system: its identity, the data it takes and the
actions it knows.  Members that this library does not know are kept and written back after the
known ones.
-/

namespace BroadcastGraphics

/-- Who made a graphic. -/
structure Author where
  name : String := "OGraf Editor"
  email : String := ""
  deriving DecidableEq, Repr

namespace Author

/-- Read an author from members. -/
def ofMembers (members : Table Json) : Checked Author :=
  Author.mk
    <$> (Field.plain "name").withDefault "OGraf Editor" Check.text members
    <*> (Field.plain "email").withDefault "" Check.text members

/-- Read an author from a value. -/
def check : Json -> Checked Author :=
  Check.record "Author" ofMembers

/-- The author as a value. -/
def toJson (author : Author) : Json :=
  .obj [("name", .str author.name), ("email", .str author.email)]

end Author

/-- One datum that a graphic takes. -/
structure SchemaProperty where
  kind : String := "string"
  title : String := ""
  default : Json := .null
  extras : Table Json := []
  deriving DecidableEq

namespace SchemaProperty

/-- The fields of a property. -/
def fields : List Field :=
  [Field.plain "type", Field.plain "title", Field.plain "default"]

/-- Read a property from members. -/
def ofMembers (members : Table Json) : Checked SchemaProperty :=
  (fun kind title default => ⟨kind, title, default, Field.further fields members⟩)
    <$> (Field.plain "type").withDefault "string" Check.text members
    <*> (Field.plain "title").withDefault "" Check.text members
    <*> (Field.plain "default").withDefault .null Check.anything members

/-- Read a property from a value. -/
def check : Json -> Checked SchemaProperty :=
  Check.record "SchemaProperty" ofMembers

/-- All members, further ones after the fields. -/
def members (property : SchemaProperty) : Table Json :=
  [("type", .str property.kind), ("title", .str property.title), ("default", property.default)] ++
    property.extras

/-- The values that can be anything. -/
def freeValues (property : SchemaProperty) : List Json :=
  property.default :: property.extras.map Prod.snd

/-- The property as a value, without members that are nothing. -/
def toJson (property : SchemaProperty) : Json :=
  .obj (Json.finiteMembers (Json.presentMembers property.members))

end SchemaProperty

/-- The data that a graphic takes. -/
structure GraphicSchema where
  kind : String := "object"
  properties : Table SchemaProperty := []
  extras : Table Json := []
  deriving DecidableEq

namespace GraphicSchema

/-- The fields of a schema. -/
def fields : List Field :=
  [Field.plain "type", Field.plain "properties"]

/-- Read a schema from members. -/
def ofMembers (members : Table Json) : Checked GraphicSchema :=
  (fun kind properties => ⟨kind, properties, Field.further fields members⟩)
    <$> (Field.plain "type").withDefault "object" Check.text members
    <*> (Field.plain "properties").withDefault [] (Check.mapping SchemaProperty.check) members

/-- Read a schema from a value. -/
def check : Json -> Checked GraphicSchema :=
  Check.record "GraphicSchema" ofMembers

/-- All members, nothing left out. -/
def members (schema : GraphicSchema) : Table Json :=
  [("type", .str schema.kind),
    ("properties", .obj (Table.mapEntries (fun property => .obj property.members)
      schema.properties))] ++ schema.extras

/-- The values that can be anything. -/
def freeValues (schema : GraphicSchema) : List Json :=
  (schema.properties.flatMap fun property => property.2.freeValues) ++ schema.extras.map Prod.snd

/-- The schema as a value, without members that are nothing. -/
def toJson (schema : GraphicSchema) : Json :=
  .obj ([("type", .str schema.kind),
    ("properties", .obj (Table.mapEntries SchemaProperty.toJson schema.properties))] ++
      Json.finiteMembers (Json.presentMembers schema.extras))

end GraphicSchema

/-- An action that a graphic knows beside the common ones. -/
structure CustomAction where
  id : String
  name : String
  description : String := ""
  extras : Table Json := []
  deriving DecidableEq

namespace CustomAction

/-- The fields of an action. -/
def fields : List Field :=
  [Field.plain "id", Field.plain "name", Field.plain "description"]

/-- Read an action from members. -/
def ofMembers (members : Table Json) : Checked CustomAction :=
  (fun id name description => ⟨id, name, description, Field.further fields members⟩)
    <$> (Field.plain "id").required Check.text members
    <*> (Field.plain "name").required Check.text members
    <*> (Field.plain "description").withDefault "" Check.text members

/-- Read an action from a value. -/
def check : Json -> Checked CustomAction :=
  Check.record "CustomAction" ofMembers

/-- All members, further ones after the fields. -/
def members (action : CustomAction) : Table Json :=
  [("id", .str action.id), ("name", .str action.name),
    ("description", .str action.description)] ++ action.extras

/-- The values that can be anything. -/
def freeValues (action : CustomAction) : List Json :=
  action.extras.map Prod.snd

/-- The action as a value, without members that are nothing. -/
def toJson (action : CustomAction) : Json :=
  .obj (Json.finiteMembers (Json.presentMembers action.members))

end CustomAction

/-- The description of a graphic. -/
structure Manifest where
  schemaUrl : String :=
    "https://ograf.ebu.io/v1/specification/json-schemas/graphics/schema.json"
  id : String
  version : String := "1.0.0"
  name : String
  description : String := ""
  author : Author := ⟨"OGraf Editor", ""⟩
  main : String := "template.mjs"
  schema : GraphicSchema := ⟨"object", [], []⟩
  supportsRealTime : Bool := true
  supportsNonRealTime : Bool := false
  stepCount : Int := 1
  customActions : List CustomAction := []
  extras : Table Json := []
  deriving DecidableEq

namespace Manifest

/-- The name of the record in faults. -/
def recordName : String := "Manifest"

/-- The address of the format that manifests follow unless they name another. -/
def standardSchemaUrl : String :=
  "https://ograf.ebu.io/v1/specification/json-schemas/graphics/schema.json"

/-- The address of the format. -/
def schemaUrlField : Field := ⟨"$schema", "schema_url"⟩

/-- The data that the graphic takes. -/
def schemaField : Field := ⟨"schema", "graphic_schema"⟩

/-- Whether the graphic can be shown as it is played. -/
def supportsRealTimeField : Field := ⟨"supportsRealTime", "supports_real_time"⟩

/-- Whether the graphic can be rendered frame by frame. -/
def supportsNonRealTimeField : Field := ⟨"supportsNonRealTime", "supports_non_real_time"⟩

/-- The number of steps. -/
def stepCountField : Field := ⟨"stepCount", "step_count"⟩

/-- The actions beside the common ones. -/
def customActionsField : Field := ⟨"customActions", "custom_actions"⟩

/-- The fields of a manifest in their order. -/
def fields : List Field :=
  [schemaUrlField, Field.plain "id", Field.plain "version", Field.plain "name",
    Field.plain "description", Field.plain "author", Field.plain "main", schemaField,
    supportsRealTimeField, supportsNonRealTimeField, stepCountField, customActionsField]

/-- A template id. -/
def checkId (value : Json) : Checked String :=
  (Check.text value).andThen fun id =>
    if Identifier.isSlug id then .accepted id else .refuse (.refused .templateId)

/-- A number of steps. -/
def checkStepCount (value : Json) : Checked Int :=
  (Check.integer value).andThen fun count =>
    if count < 0 then .refuse (.refused .stepCount) else .accepted count

/-- Read a manifest from members. -/
def ofMembers (members : Table Json) : Checked Manifest :=
  (fun schemaUrl id version name description author main schema realTime nonRealTime stepCount
      actions =>
    ⟨schemaUrl, id, version, name, description, author, main, schema, realTime, nonRealTime,
      stepCount, actions, Field.further fields members⟩)
    <$> schemaUrlField.withDefault standardSchemaUrl Check.text members
    <*> (Field.plain "id").required checkId members
    <*> (Field.plain "version").withDefault "1.0.0" Check.text members
    <*> (Field.plain "name").required Check.text members
    <*> (Field.plain "description").withDefault "" Check.text members
    <*> (Field.plain "author").withDefault ⟨"OGraf Editor", ""⟩ Author.check members
    <*> (Field.plain "main").withDefault "template.mjs" Check.text members
    <*> schemaField.withDefault ⟨"object", [], []⟩ GraphicSchema.check members
    <*> supportsRealTimeField.withDefault true Check.truth members
    <*> supportsNonRealTimeField.withDefault false Check.truth members
    <*> stepCountField.withDefault 1 checkStepCount members
    <*> customActionsField.withDefault [] (Check.list CustomAction.check) members

/-- Read a manifest from a value. -/
def check : Json -> Checked Manifest :=
  Check.record recordName ofMembers

/-- The values of the fields as they are exchanged. -/
def values (manifest : Manifest) : List Json :=
  [.str manifest.schemaUrl, .str manifest.id, .str manifest.version, .str manifest.name,
    .str manifest.description, manifest.author.toJson, .str manifest.main, manifest.schema.toJson,
    .bool manifest.supportsRealTime, .bool manifest.supportsNonRealTime, .int manifest.stepCount,
    .arr (manifest.customActions.map CustomAction.toJson)]

/-- The members as they are exchanged: the fields under their written names, then the further
members that are not nothing. -/
def members (manifest : Manifest) : Table Json :=
  (fields.map Field.writtenName).zip manifest.values ++
    Json.finiteMembers (Json.presentMembers manifest.extras)

/-- The manifest as a value. -/
def toJson (manifest : Manifest) : Json :=
  .obj manifest.members

/-- The values that can be anything. -/
def freeValues (manifest : Manifest) : List Json :=
  manifest.schema.freeValues ++ manifest.customActions.flatMap CustomAction.freeValues ++
    manifest.extras.map Prod.snd

/-- The values of the fields with nothing left out. -/
def fullValues (manifest : Manifest) : List Json :=
  [.str manifest.schemaUrl, .str manifest.id, .str manifest.version, .str manifest.name,
    .str manifest.description, manifest.author.toJson, .str manifest.main,
    .obj manifest.schema.members, .bool manifest.supportsRealTime,
    .bool manifest.supportsNonRealTime, .int manifest.stepCount,
    .arr (manifest.customActions.map fun action => .obj action.members)]

/-- The members over which an edit is written: the fields under their given names, and then every
further member; a further member that carries the given name of a field takes its place. -/
def givenMembers (manifest : Manifest) : Table Json :=
  Table.merge ((fields.map Field.givenName).zip manifest.fullValues) manifest.extras

/-- The manifest after an edit given under either name of each field. -/
def edited (manifest : Manifest) (updates : Table Json) : Checked Manifest :=
  ofMembers (Table.merge manifest.givenMembers (Field.byGivenName fields updates))

/-- An edit gives a member that keeps any value a failed result.  A failed result that comes from
elsewhere is not the one that the manifest held before. -/
def takesFailed (edited : Manifest) (updates : Table Json) : Bool :=
  (Field.byGivenName fields updates).any fun update =>
    (Json.memberOrNull edited.givenMembers update.1).hasFailed

/-- Equality by value: the order of properties and of further members does not matter. -/
def sameValue (left right : Manifest) : Bool :=
  Json.sameItems left.fullValues right.fullValues &&
    Json.sameValue (.obj left.extras) (.obj right.extras)

end Manifest
end BroadcastGraphics
