import BroadcastGraphics.ConflictPolicy
import BroadcastGraphics.Path
import BroadcastGraphics.Text.Search
import BroadcastGraphics.Yaml.Reader

/-!
# Operator configuration

The operator configuration says how the service runs.  A settings file is laid over the defaults:
where both have a mapping the two are merged, and elsewhere the file wins.  Values are looked up by
the names on the way to them.
-/

namespace BroadcastGraphics

/-- How the service runs. -/
structure OperatorConfig where
  settings : Table Json

namespace OperatorConfig

mutual

/-- A value laid over what is there. -/
def overlaid (base : Option Json) : Json -> Json
  | .obj members =>
      match base with
      | some (.obj below) => .obj (layered below members)
      | _ => .obj members
  | value => value

/-- Members laid over those below. -/
def layered (below : Table Json) : List (String × Json) -> Table Json
  | [] => below
  | (name, value) :: rest =>
      layered (Table.put below name (overlaid (Table.get? below name) value)) rest

end

/-- The settings without a file. -/
def defaults : Table Json :=
  [("server", .obj [("host", .str "127.0.0.1"), ("port", .int 8010), ("log_level", .str "info")]),
    ("security", .obj [("admin_token_env", .str "ADMIN_TOKEN"),
      ("default_token", .str "default-admin-token-change-me"),
      ("cors", .obj [("enabled", .bool false), ("allow_origins", .arr []),
        ("allow_credentials", .bool false), ("allow_methods", .arr []),
        ("allow_headers", .arr [])])]),
    ("storage", .obj [("db_path", .str "data/templates.db"), ("export_dir", .str "exports")]),
    ("import", .obj [("default_policy", .str "replace")])]

/-- The configuration in a settings document. -/
def ofDocument (document : Json) : Except Fault OperatorConfig :=
  if document.isTruthy then
    match document with
    | .obj members => .ok ⟨layered defaults members⟩
    | _ => .error .noMembers
  else .ok ⟨defaults⟩

/-- The configuration in a settings file; without a file, and when it is malformed, the defaults
are left. -/
def ofFile : Option String -> Except Fault OperatorConfig
  | none => .ok ⟨defaults⟩
  | some text =>
      match Yaml.parse text with
      | .ok document => ofDocument document
      | .error (.unreadableSettings _) => .ok ⟨defaults⟩
      | .error fault => .error fault

/-- Read the settings file again; when that fails the settings stay as they are. -/
def reload (config : OperatorConfig) (file : Option String) : OperatorConfig × Except Fault Unit :=
  match ofFile file with
  | .ok read => (read, .ok ())
  | .error fault => (config, .error fault)

/-- The value at the end of a way of names. -/
def valueAt? (value : Json) : List String -> Option Json
  | [] => some value
  | name :: rest =>
      match value with
      | .obj members => (Table.get? members name).bind fun inner => valueAt? inner rest
      | _ => none

/-- The value under a key, whose names stand between points, or a default. -/
def lookup (config : OperatorConfig) (key : String) (default : Json) : Json :=
  (valueAt? (.obj config.settings) (Text.split '.' key)).getD default

/-- The value in the place of the policy of imports. -/
def policyValue (config : OperatorConfig) : Json :=
  config.lookup "import.default_policy" (.str "replace")

/-- The policy of imports that name none; a value that is no policy counts as the first one. -/
def importPolicy (config : OperatorConfig) : ConflictPolicy :=
  (ConflictPolicy.ofJson? config.policyValue).getD .replace

/-- The policy of imports that name none, unless a value that is no policy cannot be shown in the
warning about it. -/
def policyInForce (config : OperatorConfig) : Except Fault ConflictPolicy :=
  if (ConflictPolicy.ofJson? config.policyValue).isNone && config.policyValue.hasLongInteger then
    .error (.misuse .longIntegerShown)
  else .ok config.importPolicy

/-- The directory to which the files of a template are written. -/
def exportDirectory (config : OperatorConfig) (id : String) : Except Fault String :=
  match config.lookup "storage.export_dir" (.str "exports") with
  | .str directory => .ok (Path.join directory id)
  | _ => .error .wrongShape

/-- What stands in the place of a secret. -/
def redacted : Json := .str "[REDACTED]"

/-- The name of the secret in the security settings. -/
def secretName : String := "default_token"

/-- The security settings without the secret. -/
def withoutSecret : Json -> Except Fault Json
  | .obj security =>
      .ok (.obj (if Table.has security secretName then Table.put security secretName redacted
        else security))
  | .arr items =>
      if items.contains (.str secretName) || (Yaml.DateTime.textOf? items).isSome then
        .error .wrongShape
      else .ok (.arr items)
  | .str text => if Text.contains text secretName then .error .wrongShape else .ok (.str text)
  | _ => .error .wrongShape

/-- All settings without secrets. -/
def sanitized (config : OperatorConfig) : Except Fault (Table Json) :=
  match Table.get? config.settings "security" with
  | none => .ok config.settings
  | some security => do
      .ok (Table.put config.settings "security" (<- withoutSecret security))

/-- The token that counts when none is configured. -/
def standardToken : String := "default-admin-token-change-me"

/-- The token of the operator: that of the environment, or else the configured one. -/
def adminToken (config : OperatorConfig) (environment : Table String) : Except Fault Json :=
  match config.lookup "security.admin_token_env" (.str "ADMIN_TOKEN") with
  | .str name =>
      match Text.HalfPair.firstRunBeyondBytes? name.toList with
      | some run => .error (.unencodable run)
      | none =>
          let token := (Table.get? environment name).getD ""
          if !token.isEmpty then .ok (.str token)
          else
            let configured := config.lookup "security.default_token" .null
            .ok (if configured.isTruthy then configured else .str standardToken)
  | _ => .error .wrongShape

/-- What other origins may do; nothing unless it is enabled. -/
def crossOrigin (config : OperatorConfig) : Json :=
  let enabled := (config.lookup "security.cors.enabled" (.bool false)).isTruthy
  let setting := fun (name : String) (default : Json) =>
    (name, if enabled then config.lookup ("security.cors." ++ name) default else default)
  .obj [setting "allow_origins" (.arr []), setting "allow_credentials" (.bool false),
    setting "allow_methods" (.arr []), setting "allow_headers" (.arr [])]

end OperatorConfig
end BroadcastGraphics
