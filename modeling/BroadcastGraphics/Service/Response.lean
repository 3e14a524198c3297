import BroadcastGraphics.Fault
import BroadcastGraphics.Json.Basic

/-!
# Responses of the service

The service answers with a value, with component source, or with the reason for which it refuses a
request.  A fault that no rule of the service foresees breaks the request off.
-/

namespace BroadcastGraphics
namespace Service

/-- Why a request is refused. -/
inductive Detail where
  | text (message : String)
  | issues (found : List Issue)
  | record (name : String) (found : List Issue)
  deriving DecidableEq

/-- An answer of the service. -/
inductive Response where
  | content (status : Nat) (value : Json)
  | component (source : String)
  | refused (status : Nat) (detail : Detail)
  | broken (fault : Fault)
  deriving DecidableEq

/-- An issue as a value. -/
def issueJson (issue : Issue) : Json :=
  .obj [("loc", .str issue.place), ("type", .str issue.cause.kind),
    ("msg", .str issue.cause.message)]

/-- A detail as a value. -/
def Detail.toJson : Detail -> Json
  | text message => .str message
  | issues found => .arr (found.map issueJson)
  | record name found => .obj [("model", .str name), ("errors", .arr (found.map issueJson))]

/-- The detail that tells of a fault. -/
def Detail.ofFault : Fault -> Detail
  | .invalid name found => .record name found
  | fault => .text (fault.message?.getD "")

namespace Response

/-- The status of an answer. -/
def status : Response -> Nat
  | content status _ => status
  | component _ => 200
  | refused status _ => status
  | broken _ => 500

/-- The body of an answer: a value, or a text where the answer has a type of its own. -/
def body : Response -> Json
  | content _ value => value
  | component source => .str source
  | refused _ detail => .obj [("detail", detail.toJson)]
  | broken _ => .str "Internal Server Error"

/-- The type of the body of an answer, if it is not a value. -/
def textType? : Response -> Option String
  | component _ => some "text/javascript; charset=utf-8"
  | broken _ => some "text/plain; charset=utf-8"
  | _ => none

/-- The answer to a fault that the service foresees, and a broken request for the others. -/
def ofFault (fault : Fault) : Response :=
  match fault with
  | .templateNotFound _ => refused 404 (Detail.ofFault fault)
  | .templateExists _ => refused 409 (Detail.ofFault fault)
  | .notMounted _ => refused 409 (Detail.ofFault fault)
  | .badImport _ => refused 422 (Detail.ofFault fault)
  | fault => if fault.isContent then refused 422 (Detail.ofFault fault) else broken fault

/-- Why an answer cannot be sent: a value holds numbers that have no digits, or a text holds halves
of pairs. -/
def unsendable? : Response -> Option Fault
  | content _ value =>
      if value.hasNonFinite then some (.misuse .notFinite) else value.halves?.map .unencodable
  | response => response.body.halves?.map .unencodable

/-- The answer as it can be sent. -/
def sendable (response : Response) : Response :=
  match response.unsendable? with
  | some fault => broken fault
  | none => response

/-- The answer where no route leads. -/
def notFound : Response := refused 404 (.text "Not Found")

/-- The answer where no route of the method leads. -/
def wrongMethod : Response := refused 405 (.text "Method Not Allowed")

/-- The answer to a body that cannot be decoded or goes beyond the limits of reading. -/
def unreadableBody : Response := refused 400 (.text "There was an error parsing the body")

/-- The answer to a request without token. -/
def notAuthenticated : Response := refused 401 (.text "Not authenticated")

/-- The answer to a request with another token than that of the operator. -/
def wrongToken : Response := refused 401 (.text "Invalid authentication token")

/-- The answer when a template is not held. -/
def noTemplate (id : String) : Response := ofFault (.templateNotFound id)

/-- The answer when a template has no element with an id. -/
def noElement (id : String) : Response := refused 404 (.text ("Element " ++ id ++ " not found"))

/-- The answer when a template has no property with a name. -/
def noProperty (name : String) : Response :=
  refused 404 (.text ("Property " ++ name ++ " not found"))

/-- The answer to an unknown form of export. -/
def unknownForm (form : String) : Response :=
  refused 422 (.text ("Unsupported export format: " ++ form))

/-- The answer when files cannot be written. -/
def exportFailed : Response := refused 500 (.text "Export failed")

end Response
end Service
end BroadcastGraphics
