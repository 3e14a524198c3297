import BroadcastGraphics.Fault
import BroadcastGraphics.Validation.Record
import BroadcastGraphics.Yaml.Reader

/-!
# Studio configuration

The studio configuration gives the values that new templates start with: the descriptive part of
their manifest and overrides of the animation settings.
-/

namespace BroadcastGraphics

/-- The descriptive part of new manifests. -/
structure ManifestDefaults where
  version : String := "1.0.0"
  authorName : String := "OGraf Editor"
  authorEmail : String := ""
  main : String := "template.mjs"
  supportsRealTime : Bool := true
  supportsNonRealTime : Bool := false
  deriving DecidableEq, Repr

namespace ManifestDefaults

/-- The name of the record in faults. -/
def recordName : String := "ManifestDefaultsCfg"

/-- Read the defaults from members. -/
def ofMembers (members : Table Json) : Checked ManifestDefaults :=
  ManifestDefaults.mk
    <$> (Field.plain "version").withDefault "1.0.0" Check.text members
    <*> (Field.plain "author_name").withDefault "OGraf Editor" Check.text members
    <*> (Field.plain "author_email").withDefault "" Check.text members
    <*> (Field.plain "main").withDefault "template.mjs" Check.text members
    <*> (Field.plain "supports_real_time").withDefault true Check.truth members
    <*> (Field.plain "supports_non_real_time").withDefault false Check.truth members

/-- Read the defaults from a value. -/
def check : Json -> Checked ManifestDefaults :=
  Check.record recordName ofMembers

/-- The defaults as a value. -/
def toJson (defaults : ManifestDefaults) : Json :=
  .obj [("version", .str defaults.version), ("author_name", .str defaults.authorName),
    ("author_email", .str defaults.authorEmail), ("main", .str defaults.main),
    ("supports_real_time", .bool defaults.supportsRealTime),
    ("supports_non_real_time", .bool defaults.supportsNonRealTime)]

end ManifestDefaults

/-- What new templates start with. -/
structure StudioConfig where
  manifest : ManifestDefaults := {}
  animation : Table Json := []

namespace StudioConfig

/-- The name of the record in faults. -/
def recordName : String := "StudioCfg"

/-- Read the overrides of the animation settings, whose names are texts. -/
def checkAnimation (value : Json) : Checked (Table Json) :=
  (Check.mapping Check.anything value).andThen fun members =>
    (fun _ => members) <$> Check.textNames [.member "[key]"] .notText members

/-- Read a configuration from members. -/
def ofMembers (members : Table Json) : Checked StudioConfig :=
  StudioConfig.mk
    <$> (Field.plain "manifest").withDefault {} ManifestDefaults.check members
    <*> (Field.plain "animation").withDefault [] checkAnimation members

/-- Read a configuration from a value. -/
def check : Json -> Checked StudioConfig :=
  Check.record recordName ofMembers

/-- The configuration in a settings document; an empty document leaves everything as it is. -/
def ofDocument (document : Json) : Except Fault StudioConfig :=
  if document.isTruthy then
    match document with
    | .obj members =>
        if members.all fun member => Json.Name.isText member.1 then
          (ofMembers members).orInvalid recordName
        else .error .wrongShape
    | _ => .error .wrongShape
  else .ok {}

/-- The configuration in a settings file, the standard one if there is no file. -/
def ofFile : Option String -> Except Fault StudioConfig
  | none => .ok {}
  | some text => do ofDocument (<- Yaml.parse text)

/-- The configuration as a value. -/
def toJson (config : StudioConfig) : Json :=
  .obj [("manifest", config.manifest.toJson),
    ("animation", .obj (Json.finiteMembers config.animation))]

/-- The values that can be anything. -/
def freeValues (config : StudioConfig) : List Json :=
  config.animation.map Prod.snd

end StudioConfig
end BroadcastGraphics
