import BroadcastGraphics.Fault
import BroadcastGraphics.Table
import BroadcastGraphics.Timeline.Span
import BroadcastGraphics.Timeline

/-!
# Scripts for timelines

A script sets and cancels named timers and moves the clock; firing a timer runs the script that was
given with it.  A script is a finite tree, so all runs come to an end: a bound on the number of
timers that can be taken follows from the size of the scripts.  A step can fail, by a name that no
timer has or by a span that cannot be measured; then it ends all runs that it is part of.
-/

namespace BroadcastGraphics
namespace Timeline

/-- A step of a script. -/
inductive ScriptStep where
  | later (name : String) (delay : Span) (next : List ScriptStep)
  | cancel (name : String)
  | advance (span : Span)
  | runAll
  deriving Inhabited

/-- What a timer of a script does when it fires. -/
structure Scene where
  name : String
  script : List ScriptStep

/-- The names that a script has given: the newest timer of each name, the timers that have fired
with their times, and the fault that ends the runs under way. -/
structure Ledger where
  newest : Table Nat := []
  fired : List (String × Binary64) := []
  fault : Option Fault := none

/-- A timeline with the names of its timers. -/
abbrev Play := Timeline Scene × Ledger

/-- The answer to a step. -/
inductive Reply where
  | time (due : Binary64)
  | nothing
  | count (fired : Nat)
  deriving DecidableEq, Repr

mutual

/-- The number of steps in a step. -/
def ScriptStep.size : ScriptStep -> Nat
  | .later _ _ next => 1 + scriptSize next
  | _ => 1

/-- The number of steps in a script. -/
def scriptSize : List ScriptStep -> Nat
  | [] => 0
  | step :: rest => step.size + scriptSize rest

end

/-- A bound on the number of timers that a play can still take. -/
def Play.bound (play : Play) : Nat :=
  play.1.queue.foldr (fun timer total => 1 + scriptSize timer.action.script + total) 0

/-- A step of the play has failed. -/
def Ledger.hasFailed (ledger : Ledger) : Bool :=
  ledger.fault.isSome

/-- The play with a step that has failed. -/
def Play.failed (play : Play) (fault : Fault) : Play :=
  (play.1, { play.2 with fault := some fault })

/-- Carry out a step when firing has a given effect. -/
def performWith (effect : Timer Scene -> Play -> Play) (play : Play) : ScriptStep -> Play × Reply
  | .later name delay next =>
      match delay.delay with
      | .error fault => (Play.failed play fault, .nothing)
      | .ok delay =>
          ((play.1.later delay ⟨name, next⟩,
            { play.2 with newest := Table.put play.2.newest name play.1.nextOrder }),
            .time (play.1.dueAfter delay))
  | .cancel name =>
      match Table.get? play.2.newest name with
      | some order => ((play.1.cancel order, play.2), .nothing)
      | none => (Play.failed play .noSuchMember, .nothing)
  | .advance span =>
      match span.measured with
      | .error fault => (Play.failed play fault, .nothing)
      | .ok span =>
          let (count, play) := Timeline.advance effect Ledger.hasFailed (Play.bound play) span play
          (play, .count count)
  | .runAll =>
      let (count, play) := Timeline.runAll effect Ledger.hasFailed (Play.bound play) play
      (play, .count count)

/-- Note that a timer has fired and run its script up to a step that fails; firing has a given
effect in it. -/
def sceneEffect (inner : Timer Scene -> Play -> Play) (timer : Timer Scene) (play : Play) : Play :=
  let noted : Play :=
    (play.1, { play.2 with fired := play.2.fired ++ [(timer.action.name, play.1.now)] })
  timer.action.script.foldl
    (fun play step => if play.2.hasFailed then play else (performWith inner play step).1) noted

/-- The effect of firing when firings can happen inside one another up to a depth. -/
def effectWithin : Nat -> Timer Scene -> Play -> Play
  | 0 => fun _ play => play
  | depth + 1 => sceneEffect (effectWithin depth)

/-- Carry out a step.  Firings cannot happen inside one another more often than there are timers
to take. -/
def perform (play : Play) (step : ScriptStep) : Play × Except Fault Reply :=
  let (after, reply) := performWith (effectWithin (Play.bound play + step.size)) play step
  match after.2.fault with
  | some fault => ((after.1, { after.2 with fault := none }), .error fault)
  | none => (after, .ok reply)

end Timeline
end BroadcastGraphics
