import BroadcastGraphics.Proofs.TimelineLoop
import BroadcastGraphics.Rehearsal

/-!
# Runs of rehearsals

A run carries out the steps of a list one after another.  A step is a command, or it moves the clock
by taking timers one at a time; so what every command, every timer that is taken and every setting
of the clock keeps holds after every run.
-/

namespace BroadcastGraphics

/-- The end of a movement sets and cancels no timer. -/
theorem Troupe.queue_finish
    (timer : Timer Cue)
    (world : Timeline Cue × List Playback × List (Option Outcome)) :
    (Troupe.finish timer world).1.queue = world.1.queue := by
  obtain ⟨timeline, graphics, outcomes⟩ := world
  unfold Troupe.finish
  simp only
  cases graphics[timer.action.graphic]? with
  | none => rfl
  | some playback =>
    unfold Playback.finish
    simp only
    split <;> rfl

namespace Rehearsal

/-- A rehearsal of a graphic that has not been loaded, on a clock that has not been moved. -/
def opening (id : String) (elements : List Element) (settings : Option AnimationSettings) :
    Rehearsal where
  playback := Playback.make id elements settings

/-- The rehearsal after the steps of a list; a step that fails does not end it. -/
def run (rehearsal : Rehearsal) : List Step -> Rehearsal
  | [] => rehearsal
  | step :: rest => (rehearsal.step step).1.run rest

@[simp] theorem run_nil (rehearsal : Rehearsal) : rehearsal.run [] = rehearsal :=
  rfl

@[simp] theorem run_cons
    (rehearsal : Rehearsal)
    (step : Step)
    (rest : List Step) :
    rehearsal.run (step :: rest) = (rehearsal.step step).1.run rest :=
  rfl

/-- What every step keeps, every run keeps. -/
theorem run_induction
    {motive : Rehearsal -> Prop}
    {Allowed : Step -> Prop}
    (steps : ∀ rehearsal step, Allowed step -> motive rehearsal -> motive (rehearsal.step step).1)
    {rehearsal : Rehearsal}
    (start : motive rehearsal)
    {script : List Step}
    (allowed : ∀ step ∈ script, Allowed step) :
    motive (rehearsal.run script) := by
  induction script generalizing rehearsal with
  | nil => exact start
  | cons step rest ih =>
    refine ih (steps rehearsal step (allowed step List.mem_cons_self) start) ?_
    intro later member
    exact allowed later (List.mem_cons_of_mem step member)

/-! ## Moves of the clock -/

/-- The rehearsal with another reading of its clock. -/
def setClock (rehearsal : Rehearsal) (now : Binary64) : Rehearsal :=
  { rehearsal with
    schedule := { rehearsal.schedule with
      timeline := { rehearsal.schedule.timeline with now := now } } }

/-- The rehearsal after its first timer has been taken in a run over timers. -/
def take (rehearsal : Rehearsal) (limit : Timeline.Limit) (timer : Timer Cue) : Rehearsal :=
  let taken := { rehearsal.schedule with
    timeline := rehearsal.schedule.timeline.taken limit timer }
  if timer.cancelled then { rehearsal with schedule := taken }
  else
    { rehearsal with
      playback := (rehearsal.playback.finish timer.action taken).1
      schedule := (rehearsal.playback.finish timer.action taken).2 }

/-- The rehearsal after all timers that belong to a run. -/
def takeDue (rehearsal : Rehearsal) (limit : Timeline.Limit) : Rehearsal :=
  rehearsal.withTroupe (Troupe.ofWorld (Timeline.fireDue Troupe.finish Troupe.neverStopped limit
    rehearsal.schedule.timeline.queue.length rehearsal.troupe.world).2)

theorem step_runAll (rehearsal : Rehearsal) :
    (rehearsal.step .runAll).1 = rehearsal.takeDue .everything :=
  rfl

theorem step_advance
    (rehearsal : Rehearsal)
    {span : Span}
    {measured : Binary64}
    (known : span.measured = .ok measured) :
    (rehearsal.step (.advance span)).1 =
      (rehearsal.takeDue (.upTo (rehearsal.schedule.timeline.now.add measured))).setClock
        (rehearsal.schedule.timeline.now.add measured) := by
  simp only [step, known]
  rfl

theorem step_advance_of_error
    (rehearsal : Rehearsal)
    {span : Span}
    {fault : Fault}
    (unknown : span.measured = .error fault) :
    (rehearsal.step (.advance span)).1 = rehearsal := by
  simp only [step, unknown]

theorem step_command
    (rehearsal : Rehearsal)
    (command : Playback.Command) :
    (rehearsal.step (.command command)).1 = (rehearsal.perform command).1 :=
  rfl

/-- All timers belong to the graphic of the rehearsal. -/
def OwnsTimers (schedule : Schedule) : Prop :=
  ∀ timer ∈ schedule.timeline.queue, timer.action.graphic = 0

theorem turn_world
    {rehearsal : Rehearsal}
    {limit : Timeline.Limit}
    {timer : Timer Cue}
    (own : timer.action.graphic = 0) :
    Timeline.turn Troupe.finish limit timer rehearsal.troupe.world =
      (rehearsal.take limit timer).troupe.world := by
  unfold Timeline.turn take
  split
  · rfl
  · unfold Troupe.finish Troupe.world troupe
    simp only [own]
    rfl

/-- What every timer that is taken keeps, the whole run over timers keeps. -/
theorem takeDue_induction
    {limit : Timeline.Limit}
    {motive : Rehearsal -> Prop}
    (own : ∀ rehearsal, motive rehearsal -> OwnsTimers rehearsal.schedule)
    (takes : ∀ rehearsal timer others, motive rehearsal ->
      rehearsal.schedule.timeline.queue = timer :: others -> limit.admits timer.due = true ->
        motive (rehearsal.take limit timer))
    {rehearsal : Rehearsal}
    (start : motive rehearsal) :
    motive (rehearsal.takeDue limit) := by
  let Reached : Timeline Cue × List Playback × List (Option Outcome) -> Prop := fun world =>
    ∃ after : Rehearsal, motive after ∧ after.completions = rehearsal.completions ∧
      world = after.troupe.world
  have turns : ∀ world timer others, Reached world -> world.1.queue = timer :: others ->
      limit.admits timer.due = true -> Reached (Timeline.turn Troupe.finish limit timer world) := by
    rintro _ timer others ⟨after, holds, completions, rfl⟩ first admitted
    have mine : timer.action.graphic = 0 := by
      refine own after holds timer ?_
      change timer ∈ after.troupe.world.1.queue
      rw [first]
      exact List.mem_cons_self
    refine ⟨after.take limit timer, takes after timer others holds first admitted, ?_,
      turn_world mine⟩
    unfold take
    split <;> exact completions
  obtain ⟨after, holds, completions, final⟩ : Reached (Timeline.fireDue Troupe.finish
      Troupe.neverStopped limit rehearsal.schedule.timeline.queue.length rehearsal.troupe.world).2 :=
    Timeline.fireDue_induction turns _ _ ⟨rehearsal, start, rfl, rfl⟩
  have same : rehearsal.takeDue limit = after := by
    unfold takeDue
    rw [final]
    cases after
    cases rehearsal
    cases completions
    rfl
  rw [same]
  exact holds

/-- A run over timers ends before a timer that does not belong to it. -/
theorem takeDue_exhausts
    {rehearsal : Rehearsal}
    {limit : Timeline.Limit}
    {timer : Timer Cue}
    {others : List (Timer Cue)}
    (first : (rehearsal.takeDue limit).schedule.timeline.queue = timer :: others) :
    limit.admits timer.due = false := by
  have unstopped : ∀ state, Troupe.neverStopped state = false := fun _ => rfl
  have fires : (Timeline.fireDue Troupe.finish Troupe.neverStopped limit
      rehearsal.schedule.timeline.queue.length rehearsal.troupe.world).2.1.queue =
        timer :: others := first
  refine Timeline.fireDue_exhausts Troupe.queue_finish unstopped ?_ fires
  exact Nat.le_refl _

/-- The command of a step, if it is one. -/
def Step.command? : Step -> Option Playback.Command
  | .command given => some given
  | .advance _ => none
  | .runAll => none

/-- What timers that are taken and settings of the clock keep holds after every step that is no
command. -/
theorem move_induction
    {motive : Rehearsal -> Prop}
    (own : ∀ rehearsal, motive rehearsal -> OwnsTimers rehearsal.schedule)
    (takes : ∀ rehearsal limit timer others, motive rehearsal ->
      rehearsal.schedule.timeline.queue = timer :: others -> limit.admits timer.due = true ->
        motive (rehearsal.take limit timer))
    (clocks : ∀ rehearsal now, motive rehearsal -> motive (rehearsal.setClock now))
    {rehearsal : Rehearsal}
    (start : motive rehearsal)
    {step : Step}
    (move : step.command? = none) :
    motive (rehearsal.step step).1 := by
  have runs : ∀ limit, motive (rehearsal.takeDue limit) := fun limit =>
    takeDue_induction own (fun rehearsal => takes rehearsal limit) start
  cases step with
  | command command => cases move
  | runAll =>
    rw [step_runAll]
    exact runs _
  | advance span =>
    cases known : span.measured with
    | error fault =>
      rw [step_advance_of_error rehearsal known]
      exact start
    | ok measured =>
      rw [step_advance rehearsal known]
      exact clocks _ _ (runs _)

/-! ## Commands -/

/-- What is kept of the answer to a command: nothing if it broke off, and nothing if it has no
completion to wait for. -/
def kept (command : Playback.Command) : Completion -> List Completion
  | .failed _ => []
  | completion => if hasCompletion command then [completion] else []

theorem kept_settled
    (command : Playback.Command)
    (outcome : Outcome) :
    kept command (.settled outcome) =
      if hasCompletion command then [.settled outcome] else [] :=
  rfl

theorem kept_waiting
    {command : Playback.Command}
    (waits : hasCompletion command = true)
    (waiter : Nat) :
    kept command (.waiting waiter) = [.waiting waiter] :=
  if_pos waits

theorem perform_eq
    (rehearsal : Rehearsal)
    (command : Playback.Command) :
    (rehearsal.perform command).1 =
      { playback := (rehearsal.playback.run 0 rehearsal.schedule command).1.1
        schedule := (rehearsal.playback.run 0 rehearsal.schedule command).1.2
        completions := rehearsal.completions ++
          kept command (rehearsal.playback.run 0 rehearsal.schedule command).2 } := by
  unfold perform
  generalize rehearsal.playback.run 0 rehearsal.schedule command = result
  obtain ⟨⟨playback, schedule⟩, completion⟩ := result
  cases completion with
  | failed fault => simp [kept]
  | settled outcome =>
    simp only [kept]
    split <;> simp
  | waiting waiter =>
    simp only [kept]
    split <;> simp

end Rehearsal
end BroadcastGraphics
