import BroadcastGraphics.Service.Request

/-!
# Routes of the service

The path of a request tells what it is about, and its method what is to be done.  Names in paths are
not empty; a word of a path that comes last may end in one line end.
-/

namespace BroadcastGraphics
namespace Service

/-- What a request asks for. -/
inductive Route where
  | health
  | templates
  | newTemplate
  | template (id : String)
  | deleteTemplate (id : String)
  | duplicate (id : String)
  | select (id : String)
  | addElement (id : String)
  | updateElement (id element : String)
  | removeElement (id element : String)
  | addProperty (id : String)
  | removeProperty (id name : String)
  | updateManifest (id : String)
  | updateAnimation (id : String)
  | component (id : String)
  | exportOne (id : String)
  | exportFiles (id : String)
  | exportMany
  | importAny
  | audit (id : String)
  | preview (id : String)
  | previewCommand (id command : String)
  deriving DecidableEq, Repr

namespace Route

/-- Only operators may ask for it. -/
def isGuarded : Route -> Bool
  | newTemplate => true
  | deleteTemplate _ => true
  | duplicate _ => true
  | select _ => true
  | addElement _ => true
  | updateElement _ _ => true
  | removeElement _ _ => true
  | addProperty _ => true
  | removeProperty _ _ => true
  | updateManifest _ => true
  | updateAnimation _ => true
  | exportFiles _ => true
  | importAny => true
  | _ => false

/-- The body of the request is read. -/
def takesBody : Route -> Bool
  | newTemplate => true
  | duplicate _ => true
  | addElement _ => true
  | updateElement _ _ => true
  | addProperty _ => true
  | updateManifest _ => true
  | updateAnimation _ => true
  | exportMany => true
  | importAny => true
  | previewCommand _ _ => true
  | _ => false

end Route

/-- A word of a path without the line end that may follow it. -/
def plainWord (word : String) : String :=
  if word.toList.getLast? == some '\n' then String.ofList word.toList.dropLast else word

/-- What can be done with the templates as a whole. -/
def collectionRoutes : Table Route :=
  [("GET", .templates), ("POST", .newTemplate)]

/-- What can be done with a template, or with a word in the place of its id. -/
def templateRoutes (id : String) : Table Route :=
  [("GET", .template id), ("DELETE", .deleteTemplate id)] ++
    (if plainWord id == "bundle" then [("POST", .exportMany)]
      else if plainWord id == "import" then [("POST", .importAny)] else [])

/-- What can be done with a part of a template that has a name. -/
def partRoutes (id : String) : Table (Table Route) :=
  [("duplicate", [("POST", .duplicate id)]), ("current", [("POST", .select id)]),
    ("elements", [("POST", .addElement id)]), ("properties", [("POST", .addProperty id)]),
    ("manifest", [("PATCH", .updateManifest id)]), ("animation", [("PATCH", .updateAnimation id)]),
    ("artifact", [("GET", .component id)]), ("export", [("GET", .exportOne id)]),
    ("validate", [("GET", .audit id)]), ("preview", [("GET", .preview id)])]

/-- What can be done with a named member of a part of a template. -/
def memberRoutes (id part member : String) : Table Route :=
  match part with
  | "elements" => [("PATCH", .updateElement id member), ("DELETE", .removeElement id member)]
  | "properties" => [("DELETE", .removeProperty id member)]
  | "export" => if plainWord member == "files" then [("POST", .exportFiles id)] else []
  | "preview" => [("POST", .previewCommand id member)]
  | _ => []

/-- What can be done at a path, by method. -/
def routesAt (path : String) : Table Route :=
  match Text.split '/' path with
  | ["", word] => if plainWord word == "healthz" then [("GET", .health)] else []
  | ["", "api", "v1", word] => if plainWord word == "templates" then collectionRoutes else []
  | ["", "api", "v1", "templates", id] => if id.isEmpty then [] else templateRoutes id
  | ["", "api", "v1", "templates", id, part] =>
      if id.isEmpty then [] else (Table.get? (partRoutes id) (plainWord part)).getD []
  | ["", "api", "v1", "templates", id, part, member] =>
      if id.isEmpty || member.isEmpty then [] else memberRoutes id part member
  | _ => []

end Service
end BroadcastGraphics
