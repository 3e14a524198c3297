import BroadcastGraphics.Service.Editing
import BroadcastGraphics.Service.Preview

/-!
# Answers to requests

A request is first led to its route.  Then its body is read, the operator is let pass where the
route is guarded, and the route is followed.
-/

namespace BroadcastGraphics
namespace Service

/-- Follow a route. -/
def handle (request : Request) (body : Option Json) : Route -> Handler Response
  | .health => health
  | .templates => listTemplates
  | .newTemplate => createTemplate body
  | .template id => showTemplate id
  | .deleteTemplate id => deleteTemplate id
  | .duplicate id => duplicateTemplate id body
  | .select id => selectTemplate id
  | .addElement id => addElement id body
  | .updateElement id element => updateElement id element body
  | .removeElement id element => removeElement id element
  | .addProperty id => addProperty id body
  | .removeProperty id name => removeProperty id name
  | .updateManifest id => updateManifest id body
  | .updateAnimation id => updateAnimation id body
  | .component id => sendComponent id
  | .exportOne id => exportTemplate request id
  | .exportFiles id => exportToDisk id
  | .exportMany => exportBundle request body
  | .importAny => importTemplates body
  | .audit id => auditTemplate id
  | .preview id => showPreview id
  | .previewCommand id command => drivePreview id command body

/-- Follow a route for a request. -/
def follow (request : Request) (route : Route) : Handler Response := do
  let body <- if route.takesBody then readBody request else pure none
  if route.isGuarded then authorize request
  handle request body route

/-- Answer a request. -/
def answer (service : Service) (request : Request) : Service × Response :=
  let routes := routesAt request.path
  if routes.isEmpty then (service, .notFound)
  else match Table.get? routes request.method with
    | none => (service, .wrongMethod)
    | some route =>
        let (outcome, service) := ((follow request route).run).run service
        (service, (match outcome with
          | .ok response => response
          | .error response => response).sendable)

end Service
end BroadcastGraphics
