import BroadcastGraphics.Playback.Command
import BroadcastGraphics.Stage

/-!
# Commands for the stage

Everything that can be asked of the stage as values.  A command for a template without a mounted
graphic is refused and leaves the stage as it was; one that breaks off leaves what it had done.
-/

namespace BroadcastGraphics
namespace Stage

/-- A command for the stage. -/
inductive Command where
  | mount (template : Template)
  | refresh (template : Template)
  | unmount (id : String)
  | clearData (id : String)
  | load (id : String)
  | dispose (id : String)
  | play (id : String) (skip : Bool)
  | stop (id : String) (skip : Bool)
  | update (id : String) (data : Json)
  | custom (id action : String)
  | advance (span : Span)

/-- The answer to a command. -/
inductive Reply where
  | graphic (number : Nat)
  | known (mounted : Bool)
  | nothing
  | completion (completion : Completion)
  | count (fired : Nat)
  deriving DecidableEq

/-- The stage after a command for a mounted graphic, or as it was. -/
def orUnchanged (stage : Stage) (result : Except Fault (Stage × Completion)) :
    Stage × Except Fault Reply :=
  match result with
  | .ok (stage, .failed fault) => (stage, .error fault)
  | .ok (stage, completion) => (stage, .ok (.completion completion))
  | .error fault => (stage, .error fault)

/-- Carry out a command. -/
def perform (stage : Stage) : Command -> Stage × Except Fault Reply
  | .mount template =>
      let (stage, number) := stage.mount template
      (stage, .ok (.graphic number))
  | .refresh template =>
      let (stage, number) := stage.refresh template
      (stage, .ok (.graphic number))
  | .unmount id =>
      let (stage, known) := stage.unmount id
      (stage, .ok (.known known))
  | .clearData id => (stage.clearData id, .ok .nothing)
  | .load id => stage.orUnchanged (stage.load id)
  | .dispose id => stage.orUnchanged (stage.dispose id)
  | .play id skip => stage.orUnchanged (stage.play id skip)
  | .stop id skip => stage.orUnchanged (stage.stop id skip)
  | .update id data => stage.orUnchanged (stage.update id data)
  | .custom id action => stage.orUnchanged (stage.custom id action)
  | .advance span =>
      match span.measured with
      | .error fault => (stage, .error fault)
      | .ok span =>
          let (stage, count) := stage.advance span
          (stage, .ok (.count count))

end Stage
end BroadcastGraphics
