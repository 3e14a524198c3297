import BroadcastGraphics.Heap
import BroadcastGraphics.Number.Binary64

/-!
# Timelines

A timeline is a clock that moves only when it is told to, with timers that wait for their time.
Timers fire in the order of their due times, those due at one time in the order in which they were
set, and the clock reads the due time of a timer while the timer fires.  A timer that was cancelled
stays in the queue until its time comes, but it does not fire.  The queue is a binary heap; a due
time that is no number comes before and after nothing, and then the place in the heap decides.

What firing does is left open: a loop over the due timers takes the effect of a timer as a function
on the timeline and on whatever state lies beside it, and that state can put an end to the loop.
-/

namespace BroadcastGraphics

/-- A timer that waits for its time. -/
structure Timer (α : Type) where
  due : Binary64
  order : Nat
  action : α
  cancelled : Bool := false

/-- A timer that has fired, with the reading of the clock at that moment. -/
structure Firing where
  due : Binary64
  order : Nat
  time : Binary64
  deriving DecidableEq, Repr

/-- A clock with timers. -/
structure Timeline (α : Type) where
  now : Binary64 := Binary64.zero
  nextOrder : Nat := 0
  queue : List (Timer α) := []
  firings : List Firing := []

/-- What has become of a timer. -/
inductive TimerState where
  | pending
  | fired
  | cancelled
  deriving DecidableEq, Repr

/-- The name of the state of a timer. -/
def TimerState.name : TimerState -> String
  | pending => "pending"
  | fired => "fired"
  | cancelled => "cancelled"

namespace Timeline

variable {α σ : Type}

/-- The order in which timers fire: by due time, those due at one time as they were set. -/
def before (left right : Timer α) : Bool :=
  if left.due.sameValue right.due then left.order < right.order else left.due.lt right.due

/-- The due time of a timer set now; a negative delay counts as none. -/
def dueAfter (timeline : Timeline α) (delay : Binary64) : Binary64 :=
  timeline.now.add delay.atLeastZero

/-- Set a timer; its number is the next one. -/
def later (timeline : Timeline α) (delay : Binary64) (action : α) : Timeline α :=
  { timeline with
    nextOrder := timeline.nextOrder + 1
    queue := Heap.push before timeline.queue
      ⟨timeline.dueAfter delay, timeline.nextOrder, action, false⟩ }

/-- Cancel the timer with a number; a timer that has fired is left alone. -/
def cancel (timeline : Timeline α) (order : Nat) : Timeline α :=
  { timeline with
    queue := timeline.queue.map fun timer =>
      if timer.order == order then { timer with cancelled := true } else timer }

/-- The timers that still have to fire. -/
def waiting (timeline : Timeline α) : List (Timer α) :=
  timeline.queue.filter fun timer => !timer.cancelled

/-- The number of timers that still have to fire. -/
def pendingCount (timeline : Timeline α) : Nat :=
  timeline.waiting.length

/-- The timer with a number still has to fire. -/
def isPending (timeline : Timeline α) (order : Nat) : Bool :=
  timeline.waiting.any fun timer => timer.order == order

/-- What has become of the timer with a number. -/
def stateOf (timeline : Timeline α) (order : Nat) : TimerState :=
  if timeline.isPending order then .pending
  else if timeline.firings.any fun firing => firing.order == order then .fired
  else .cancelled

/-- How far a run over the timers goes. -/
inductive Limit where
  | upTo (time : Binary64)
  | everything
  deriving DecidableEq, Repr

/-- A timer due at a time belongs to the run. -/
def Limit.admits : Limit -> Binary64 -> Bool
  | upTo time, due => due.le time
  | everything, _ => true

/-- The reading of the clock when a timer is taken: its due time, but in a run over everything the
clock does not go back. -/
def Limit.reading : Limit -> Binary64 -> Binary64 -> Binary64
  | upTo _, _, due => due
  | everything, now, due => now.max due

/-- The timeline after its first timer has been taken from the queue. -/
def taken (timeline : Timeline α) (limit : Limit) (timer : Timer α) : Timeline α :=
  let now := limit.reading timeline.now timer.due
  { timeline with
    now := now
    queue := Heap.rest before timeline.queue
    firings := if timer.cancelled then timeline.firings
      else timeline.firings ++ [⟨timer.due, timer.order, now⟩] }

/-- Take timers from the front of the queue and fire them, at most a number of them and only until
the state beside the timeline says to stop, and count those that fired. -/
def fireDue (effect : Timer α -> Timeline α × σ -> Timeline α × σ) (stopped : σ -> Bool)
    (limit : Limit) : Nat -> Timeline α × σ -> Nat × Timeline α × σ
  | 0, world => (0, world)
  | steps + 1, (timeline, state) =>
      match timeline.queue with
      | [] => (0, timeline, state)
      | timer :: _ =>
          if limit.admits timer.due then
            let next := (timeline.taken limit timer, state)
            if timer.cancelled then fireDue effect stopped limit steps next
            else
              let world := effect timer next
              if stopped world.2 then (0, world)
              else
                let (count, world) := fireDue effect stopped limit steps world
                (count + 1, world)
          else (0, timeline, state)

/-- Move the clock on by some time, firing the timers that come due.  If the run is stopped, the
clock stands where it was stopped. -/
def advance (effect : Timer α -> Timeline α × σ -> Timeline α × σ) (stopped : σ -> Bool)
    (steps : Nat) (span : Binary64) (world : Timeline α × σ) : Nat × Timeline α × σ :=
  let target := world.1.now.add span
  let (count, timeline, state) := fireDue effect stopped (.upTo target) steps world
  if stopped state then (count, timeline, state)
  else (count, { timeline with now := target }, state)

/-- Fire all timers, however late they are due. -/
def runAll (effect : Timer α -> Timeline α × σ -> Timeline α × σ) (stopped : σ -> Bool)
    (steps : Nat) (world : Timeline α × σ) : Nat × Timeline α × σ :=
  fireDue effect stopped .everything steps world

end Timeline
end BroadcastGraphics
