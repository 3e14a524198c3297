import BroadcastGraphics.Playback

/-!
# Graphics on one clock

Several graphics can share a clock.  They are numbered in the order in which they were made, and a
timer that fires ends the movement of the graphic whose number it carries.
-/

namespace BroadcastGraphics

/-- All graphics made so far and the clock they share. -/
structure Troupe where
  schedule : Schedule := {}
  graphics : List Playback := []

namespace Troupe

/-- The graphic with a number. -/
def graphic? (troupe : Troupe) (number : Nat) : Option Playback :=
  troupe.graphics[number]?

/-- Add a graphic; its number is the count of those before it. -/
def add (troupe : Troupe) (playback : Playback) : Troupe :=
  { troupe with graphics := troupe.graphics ++ [playback] }

/-- Change the graphic with a number together with the clock; nothing happens for a number that no
graphic has. -/
def change (troupe : Troupe) (number : Nat)
    (command : Playback -> Schedule -> (Playback × Schedule) × Completion) :
    Troupe × Completion :=
  match troupe.graphic? number with
  | none => (troupe, .settled .noop)
  | some playback =>
      let ((playback, schedule), completion) := command playback troupe.schedule
      (⟨schedule, troupe.graphics.set number playback⟩, completion)

/-- End the movement that a timer belongs to. -/
def finish (timer : Timer Cue) (world : Timeline Cue × List Playback × List (Option Outcome)) :
    Timeline Cue × List Playback × List (Option Outcome) :=
  let (timeline, graphics, outcomes) := world
  match graphics[timer.action.graphic]? with
  | none => world
  | some playback =>
      let (playback, schedule) := playback.finish timer.action ⟨timeline, outcomes⟩
      (schedule.timeline, graphics.set timer.action.graphic playback, schedule.outcomes)

/-- The clock apart from the rest. -/
def world (troupe : Troupe) : Timeline Cue × List Playback × List (Option Outcome) :=
  (troupe.schedule.timeline, troupe.graphics, troupe.schedule.outcomes)

/-- The clock and the rest put together. -/
def ofWorld (world : Timeline Cue × List Playback × List (Option Outcome)) : Troupe :=
  ⟨⟨world.1, world.2.2⟩, world.2.1⟩

/-- The end of a movement puts no end to a run over timers. -/
def neverStopped (_ : List Playback × List (Option Outcome)) : Bool :=
  false

/-- Move the clock on and count the timers that fire. -/
def advance (troupe : Troupe) (span : Binary64) : Troupe × Nat :=
  let (count, world) := Timeline.advance finish neverStopped
    troupe.schedule.timeline.queue.length span troupe.world
  (ofWorld world, count)

/-- Fire all timers and count them. -/
def runAll (troupe : Troupe) : Troupe × Nat :=
  let (count, world) := Timeline.runAll finish neverStopped
    troupe.schedule.timeline.queue.length troupe.world
  (ofWorld world, count)

/-- Take the first timer from the queue, firing it unless it was cancelled. -/
def takeNext (troupe : Troupe) : Troupe :=
  ofWorld (Timeline.runAll finish neverStopped 1 troupe.world).2

/-- Let time pass until a command is settled, at most for a number of timers. -/
def waitFor (completion : Completion) : Nat -> Troupe -> Troupe
  | 0, troupe => troupe
  | steps + 1, troupe =>
      match completion.outcome? troupe.schedule with
      | some _ => troupe
      | none => waitFor completion steps troupe.takeNext

/-- The reading of the clock. -/
def now (troupe : Troupe) : Binary64 :=
  troupe.schedule.timeline.now

/-- The number of timers that still have to fire. -/
def pendingCount (troupe : Troupe) : Nat :=
  troupe.schedule.timeline.pendingCount

end Troupe
end BroadcastGraphics
