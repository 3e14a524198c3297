import BroadcastGraphics.Service

/-!
# Requests on previews

The requests that show the preview of a template and drive it.  A preview is mounted by the first
command for it, and an animated command is answered while the movement is under way unless the
request waits for its end.
-/

namespace BroadcastGraphics
namespace Service

/-- A command for a preview. -/
inductive PreviewCommand where
  | load
  | play
  | stop
  | update
  | custom
  | dispose
  | unmount
  deriving DecidableEq, Repr

/-- The commands under their names. -/
def PreviewCommand.options : Table PreviewCommand :=
  [("load", load), ("play", play), ("stop", stop), ("update", update), ("custom", custom),
    ("dispose", dispose), ("unmount", unmount)]

/-- The command named in a path, with the body that says how to carry it out. -/
def checkCommand (command : String) (body : Option Json) :
    Checked (PreviewCommand × PreviewRequest) :=
  Prod.mk
    <$> ((Check.choice PreviewCommand.options (.str command)).under (.member "action")).under
      (.member "path")
    <*> checkOptionalBody {} (Check.body PreviewRequest.ofMembers) body

/-- Show the preview of a template. -/
def showPreview (id : String) : Handler Response := do
  match (<- get).stage.view id with
  | .ok members => pure (.content 200 (.obj members))
  | .error fault => throw (Response.ofFault fault)

/-- Carry out a command on a mounted preview. -/
def perform (id : String) (wanted : PreviewRequest) :
    PreviewCommand -> Stage -> Except Fault (Stage × Completion)
  | .load, stage => stage.load id
  | .play, stage => stage.play id wanted.skipAnimation
  | .stop, stage => stage.stop id wanted.skipAnimation
  | .update, stage => stage.update id (.obj wanted.data)
  | .custom, stage =>
      match wanted.name with
      | some name =>
          if name.isEmpty then .error (.misuse .actionWithoutName) else stage.custom id name
      | none => .error (.misuse .actionWithoutName)
  | _, stage => stage.dispose id

/-- Show the preview of a template after a command, with the outcome if it is settled. -/
def showOutcome (id : String) (completion : Completion) : Handler Response := do
  let stage := (<- get).stage
  let outcome := completion.outcome? stage.troupe.schedule
  match stage.view id with
  | .ok members => pure (.content 200
      (.obj (members ++ [("outcome", Json.ofText? (outcome.map Outcome.name))])))
  | .error fault => throw (Response.ofFault fault)

/-- Carry out a command on a mounted preview, wait for its end if that is asked for, and show the
preview. -/
def driveMounted (id : String) (wanted : PreviewRequest) (command : PreviewCommand) :
    Handler Response := do
  let completion <- onStageOr (perform id wanted command)
  if let .failed fault := completion then throw (Response.ofFault fault)
  if wanted.wait then onStage fun stage => (stage.waitFor completion, ())
  showOutcome id completion

/-- Carry out a command for the preview of a template. -/
def drivePreview (id command : String) (body : Option Json) : Handler Response := do
  let (command, wanted) <- accept body (checkCommand command body)
  let (_, template) <- attempt (Session.require id)
  if command = .unmount then
    let known <- onStage fun stage => stage.unmount id
    pure (.content 200 (.obj [("unmounted", .bool known)]))
  else do
    onStage fun stage => (if stage.isMounted id then stage else (stage.mount template).1, ())
    driveMounted id wanted command

end Service
end BroadcastGraphics
