import BroadcastGraphics.Configuration.Operator
import BroadcastGraphics.Exchange.Files
import BroadcastGraphics.Json.Reader
import BroadcastGraphics.Service.Body
import BroadcastGraphics.Service.Response
import BroadcastGraphics.Service.Route
import BroadcastGraphics.Session.Command
import BroadcastGraphics.Stage

/-!
# The service

The service holds an editing session, the stage with its previews, the configuration of the
operator and the disk to which files are exported.  A request that is refused keeps what was done
before the refusal.
-/

namespace BroadcastGraphics

/-- The state of the service. -/
structure Service where
  session : Session
  stage : Stage := {}
  config : OperatorConfig
  environment : Table String := []
  disk : FileTree := {}
  today : String

namespace Service

/-- Something done for a request, which can end in an answer other than the intended one. -/
abbrev Handler (α : Type) := ExceptT Response (StateM Service) α

/-- Do something in the session, with an answer for faults. -/
def act {α : Type} (answer : Fault -> Response) (action : Session.Action α) : Handler α := do
  let service <- get
  let (outcome, session) := action.run.run service.session
  set { service with session := session }
  match outcome with
  | .ok value => pure value
  | .error fault => throw (answer fault)

/-- Do something in the session, the foreseen faults being refusals. -/
def attempt {α : Type} (action : Session.Action α) : Handler α :=
  act Response.ofFault action

/-- Do something in the session, no fault being foreseen. -/
def insist {α : Type} (action : Session.Action α) : Handler α :=
  act Response.broken action

/-- Change the stage. -/
def onStage {α : Type} (change : Stage -> Stage × α) : Handler α := do
  let service <- get
  let (stage, answer) := change service.stage
  set { service with stage := stage }
  pure answer

/-- Change the stage, the foreseen faults being refusals. -/
def onStageOr {α : Type} (change : Stage -> Except Fault (Stage × α)) : Handler α := do
  let service <- get
  match change service.stage with
  | .ok (stage, answer) => do
      set { service with stage := stage }
      pure answer
  | .error fault => throw (Response.ofFault fault)

/-- The part of a value at the end of some steps. -/
def partAt? (value : Json) : List Step -> Option Json
  | [] => some value
  | .member name :: rest =>
      match value with
      | .obj members => (Table.get? members name).bind fun inner => partAt? inner rest
      | _ => none
  | .item index :: rest =>
      match value with
      | .arr items => items[index]?.bind fun inner => partAt? inner rest
      | _ => none

/-- What an issue found in a body is about: the part at its place, or, where something is missing,
what it is missing from. -/
def subject? (body : Json) (issue : Issue) : Option Json :=
  partAt? body (if issue.cause = .missing then issue.path.dropLast else issue.path)

/-- The step from a request to its body. -/
def bodyStep : Step := .member "body"

/-- The answer to a request with issues.  It tells what every issue is about, so it cannot be sent
when one of them is about numbers without digits. -/
def issuesResponse (body : Option Json) (issues : List Issue) : Response :=
  let subjects := issues.filterMap fun issue =>
    match issue.path with
    | step :: rest => if step = bodyStep then
        subject? (body.getD .null) { issue with path := rest } else none
    | [] => none
  if subjects.any Json.hasNonFinite then .broken (.misuse .notFinite)
  else match subjects.findSome? Json.halves? with
    | some run => .broken (.unencodable run)
    | none => .refused 422 (.issues issues)

/-- Check a body that has to be there. -/
def checkBody {α : Type} (check : Json -> Checked α) : Option Json -> Checked α
  | none => .refused [⟨[bodyStep], .missing⟩]
  | some value => (check value).under bodyStep

/-- Check a body that may be left out. -/
def checkOptionalBody {α : Type} (default : α) (check : Json -> Checked α) :
    Option Json -> Checked α
  | none => .accepted default
  | some .null => .accepted default
  | some value => (check value).under bodyStep

/-- The accepted value of a check of a request. -/
def accept {α : Type} (body : Option Json) (result : Checked α) : Handler α :=
  match result with
  | .accepted value => pure value
  | .refused issues => throw (issuesResponse body issues)

/-- The body of a request as a record. -/
def record {α : Type} (body : Option Json) (read : Table Json -> Checked α) : Handler α :=
  accept body (checkBody (Check.body read) body)

/-- The body of a request as free members. -/
def freeMembers (body : Option Json) : Handler (Table Json) :=
  accept body (checkBody (Check.mapping Check.anything) body)

/-- The value in the body of a request. -/
def readBody (request : Request) : Handler (Option Json) :=
  match request.filledBody? with
  | none => pure none
  | some received =>
      match (Text.ofJsonBytes? received).map Json.parse with
      | some (.ok value) => pure (some value)
      | some (.error (.malformed offset)) =>
          throw (.refused 422 (.issues [⟨[bodyStep, .item offset], .malformedText⟩]))
      | _ => throw .unreadableBody

/-- Let only operators pass. -/
def authorize (request : Request) : Handler Unit := do
  match request.token? with
  | none => throw .notAuthenticated
  | some token => do
      let service <- get
      match service.config.adminToken service.environment with
      | .error fault => throw (.broken fault)
      | .ok admin => if Json.str token = admin then pure () else throw .wrongToken

/-- The template with a number. -/
def templateNumbered (number : Nat) : Handler (Option Template) := do
  pure ((<- get).session.template? number)

/-- The answer that shows a template. -/
def shown (status : Nat) (number : Nat) : Handler Response := do
  match (<- templateNumbered number).map Template.written with
  | some (.ok written) => pure (.content status written)
  | some (.error fault) => throw (.broken fault)
  | none => pure (.content status .null)

/-- Give the edited content of a template to its preview, if it has one. -/
def syncPreview (number : Nat) : Handler Unit := do
  if let some template := <- templateNumbered number then
    onStage fun stage =>
      (if stage.isMounted template.id then (stage.refresh template).1 else stage, ())

/-- The service after it was shut down and started again over the same store. -/
def restarted (service : Service) : Except Fault Service :=
  match Session.opened service.session.config service.session.store with
  | (.ok (), session) => .ok { service with session := session, stage := {} }
  | (.error fault, _) => .error fault

end Service
end BroadcastGraphics
