import BroadcastGraphics.Playback.Command
import BroadcastGraphics.Troupe

/-!
# Rehearsals

A rehearsal runs one graphic on a clock of its own: commands for the graphic and moves of the clock
in any order.  The completions of all commands are kept, so that their outcomes can be seen later.
-/

namespace BroadcastGraphics

/-- One graphic on a clock of its own. -/
structure Rehearsal where
  playback : Playback
  schedule : Schedule := {}
  completions : List Completion := []

namespace Rehearsal

/-- A step of a rehearsal. -/
inductive Step where
  | command (command : Playback.Command)
  | advance (span : Span)
  | runAll

/-- The answer to a step. -/
inductive Reply where
  | outcome (outcome : Option Outcome)
  | nothing
  | count (fired : Nat)
  deriving DecidableEq, Repr

/-- The rehearsal as graphics on one clock, of which there is one. -/
def troupe (rehearsal : Rehearsal) : Troupe :=
  ⟨rehearsal.schedule, [rehearsal.playback]⟩

/-- The rehearsal with what became of its graphic and clock. -/
def withTroupe (rehearsal : Rehearsal) (troupe : Troupe) : Rehearsal :=
  { rehearsal with
    playback := (troupe.graphic? 0).getD rehearsal.playback, schedule := troupe.schedule }

/-- The command has a completion to wait for. -/
def hasCompletion : Playback.Command -> Bool
  | .replaceContent _ _ => false
  | _ => true

/-- Carry out a command. -/
def perform (rehearsal : Rehearsal) (command : Playback.Command) :
    Rehearsal × Except Fault Reply :=
  let ((playback, schedule), completion) := rehearsal.playback.run 0 rehearsal.schedule command
  let after := { rehearsal with playback := playback, schedule := schedule }
  match completion with
  | .failed fault => (after, .error fault)
  | completion =>
      if hasCompletion command then
        ({ after with completions := rehearsal.completions ++ [completion] },
          .ok (.outcome (completion.outcome? schedule)))
      else (after, .ok .nothing)

/-- Carry out a step. -/
def step (rehearsal : Rehearsal) : Step -> Rehearsal × Except Fault Reply
  | .command command => rehearsal.perform command
  | .advance span =>
      match span.measured with
      | .error fault => (rehearsal, .error fault)
      | .ok span =>
          let (troupe, count) := rehearsal.troupe.advance span
          (rehearsal.withTroupe troupe, .ok (.count count))
  | .runAll =>
      let (troupe, count) := rehearsal.troupe.runAll
      (rehearsal.withTroupe troupe, .ok (.count count))

/-- The outcomes of all commands so far. -/
def outcomes (rehearsal : Rehearsal) : List (Option Outcome) :=
  rehearsal.completions.map fun completion => completion.outcome? rehearsal.schedule

end Rehearsal
end BroadcastGraphics
