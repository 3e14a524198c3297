import BroadcastGraphics.Proofs.ClockReading
import BroadcastGraphics.Proofs.Movement

/-!
# The single timer of a graphic

A graphic on a clock of its own never has more than one timer that still has to fire.  It has one
exactly while it moves, unless the movement has a duration that the clock cannot measure, and the
number of open completions is always that of the timers.

The invariant adds to the link between the graphic and its clock that all completions handed out
are known to the clock, and that the open ones are counted by the timer that the graphic holds.
-/

namespace BroadcastGraphics
namespace Rehearsal

/-- The number of completions that are still open on a clock. -/
def openCount (schedule : Schedule) (completions : List Completion) : Nat :=
  (completions.map fun completion => completion.outcome? schedule).count none

/-- The number of completions handed out that are still open. -/
def unresolved (rehearsal : Rehearsal) : Nat :=
  openCount rehearsal.schedule rehearsal.completions

/-- The number of timers that still have to fire. -/
def pendingCount (rehearsal : Rehearsal) : Nat :=
  rehearsal.schedule.timeline.pendingCount

/-- The duration of the movement that a step begins. -/
def duration? (rehearsal : Rehearsal) (step : Step) : Option Int :=
  (step.command?.bind rehearsal.playback.movement?).map Prod.fst

/-- The duration of the last movement begun in a run, after a movement of an earlier duration. -/
def latestDuration (rehearsal : Rehearsal) (earlier : Option Int) : List Step -> Option Int
  | [] => earlier
  | step :: rest =>
      (rehearsal.step step).1.latestDuration ((rehearsal.duration? step).or earlier) rest

/-! ## Counting open completions -/

/-- The completions handed out are answers that a clock knows of. -/
def Known (schedule : Schedule) (completions : List Completion) : Prop :=
  ∀ completion ∈ completions,
    (∃ outcome, completion = .settled outcome) ∨
      ∃ waiter < schedule.outcomes.length, completion = .waiting waiter

theorem openCount_append
    (schedule : Schedule)
    (earlier later : List Completion) :
    openCount schedule (earlier ++ later) =
      openCount schedule earlier + openCount schedule later := by
  unfold openCount
  rw [List.map_append, List.count_append]

/-- On a clock on which nothing is under way no completion is open. -/
theorem openCount_eq_zero
    {schedule : Schedule}
    {completions : List Completion}
    (quiet : schedule.Quiet)
    (known : Known schedule completions) :
    openCount schedule completions = 0 := by
  refine List.count_eq_zero.mpr fun member => ?_
  obtain ⟨completion, handed, isOpen⟩ := List.mem_map.mp member
  rcases known completion handed with ⟨outcome, rfl⟩ | ⟨waiter, inside, rfl⟩
  · cases isOpen
  · have found : schedule.outcomes[waiter]? = some schedule.outcomes[waiter] :=
      List.getElem?_eq_getElem inside
    have unsettled : (schedule.outcomes[waiter]?).join = none := isOpen
    rw [found] at unsettled
    refine quiet.closed waiter ?_
    rw [found]
    exact congrArg some unsettled

theorem openCount_of_settled
    (schedule : Schedule)
    (outcome : Outcome)
    (command : Playback.Command) :
    openCount schedule (kept command (.settled outcome)) = 0 := by
  rw [kept_settled]
  split <;> rfl

/-- Completions that a clock knows keep their outcomes when another one is opened. -/
theorem outcome?_grown
    {schedule grown : Schedule}
    (outcomes : grown.outcomes = schedule.outcomes ++ [none])
    {completions : List Completion}
    (known : Known schedule completions)
    {completion : Completion}
    (handed : completion ∈ completions) :
    completion.outcome? grown = completion.outcome? schedule := by
  rcases known completion handed with ⟨outcome, rfl⟩ | ⟨waiter, inside, rfl⟩
  · rfl
  · change (grown.outcomes[waiter]?).join = (schedule.outcomes[waiter]?).join
    rw [outcomes, List.getElem?_append_left inside]

theorem openCount_grown
    {schedule grown : Schedule}
    (outcomes : grown.outcomes = schedule.outcomes ++ [none])
    {completions : List Completion}
    (known : Known schedule completions) :
    openCount grown completions = openCount schedule completions := by
  unfold openCount
  congr 1
  exact List.map_congr_left fun completion handed => outcome?_grown outcomes known handed

theorem Known.mono
    {schedule later : Schedule}
    {completions : List Completion}
    (known : Known schedule completions)
    (longer : schedule.outcomes.length ≤ later.outcomes.length) :
    Known later completions := by
  intro completion handed
  rcases known completion handed with settled | ⟨waiter, inside, waits⟩
  · exact Or.inl settled
  · exact Or.inr ⟨waiter, Nat.lt_of_lt_of_le inside longer, waits⟩

theorem Known.append
    {schedule : Schedule}
    {completions more : List Completion}
    (known : Known schedule completions)
    (others : Known schedule more) :
    Known schedule (completions ++ more) := by
  intro completion handed
  rcases List.mem_append.mp handed with first | second
  · exact known completion first
  · exact others completion second

theorem known_settled
    (schedule : Schedule)
    (outcome : Outcome)
    (command : Playback.Command) :
    Known schedule (kept command (.settled outcome)) := by
  intro completion handed
  refine Or.inl ⟨outcome, ?_⟩
  rw [kept_settled] at handed
  split at handed
  · exact List.mem_singleton.mp handed
  · cases handed

/-! ## The invariant -/

/-- A graphic, its clock and the completions handed out agree; the movement under way, if any, has
a given duration. -/
structure Coherent (latest : Option Int) (rehearsal : Rehearsal) : Prop where
  linked : rehearsal.playback.Linked rehearsal.schedule
  known : Known rehearsal.schedule rehearsal.completions
  counted : rehearsal.unresolved = if rehearsal.playback.timer.isSome then 1 else 0
  timed : rehearsal.playback.waiter.isSome = true -> ∃ duration, latest = some duration ∧
    rehearsal.playback.timer.isSome = (Binary64.nearest? duration).isSome

variable {rehearsal : Rehearsal} {latest : Option Int}

theorem coherent_opening
    (id : String)
    (elements : List Element)
    (settings : Option AnimationSettings) :
    Coherent none (opening id elements settings) where
  linked := linked_opening id elements settings
  known := fun completion handed => by cases handed
  counted := rfl
  timed := fun waits => by cases waits

/-- Once nothing is under way the invariant holds whatever was the duration. -/
theorem Coherent.of_quiet
    (quiet : rehearsal.schedule.Quiet)
    (known : Known rehearsal.schedule rehearsal.completions)
    (timer : rehearsal.playback.timer = none)
    (waiter : rehearsal.playback.waiter = none)
    (phase : rehearsal.playback.phase.isMoving = false) :
    Coherent latest rehearsal where
  linked := Playback.Linked.of_quiet quiet timer waiter phase
  known := known
  counted := by
    rw [timer]
    exact openCount_eq_zero quiet known
  timed := fun waits => by
    rw [waiter] at waits
    cases waits

theorem length_outcomes_interrupt
    (playback : Playback)
    (schedule : Schedule) :
    (playback.interrupt schedule).2.outcomes.length = schedule.outcomes.length := by
  obtain ⟨settles, spares⟩ := Playback.interrupt_outcomes playback schedule
  cases held : playback.waiter with
  | none => rw [spares held]
  | some waiter => rw [settles waiter held, Schedule.length_outcomes_settle]

theorem Coherent.take
    (coherent : Coherent latest rehearsal)
    {timer : Timer Cue}
    {others : List (Timer Cue)}
    (first : rehearsal.schedule.timeline.queue = timer :: others)
    (limit : Timeline.Limit) :
    Coherent latest (rehearsal.take limit timer) := by
  cases live : timer.cancelled with
  | true =>
    have linked := linked_take coherent.linked first limit
    rw [take_of_cancelled live] at linked ⊢
    exact ⟨linked, coherent.known, coherent.counted, coherent.timed⟩
  | false =>
    rw [take_of_fires coherent.linked first live]
    obtain ⟨free, rested, phase⟩ := rehearsal.playback.ended_rests timer.action.ending
    refine Coherent.of_quiet (coherent.linked.settle_quiet first live limit) ?_ free rested phase
    refine coherent.known.mono ?_
    rw [Schedule.length_outcomes_settle]

theorem Coherent.setClock
    (coherent : Coherent latest rehearsal)
    (now : Binary64) :
    Coherent latest (rehearsal.setClock now) :=
  ⟨linked_setClock coherent.linked now, coherent.known, coherent.counted, coherent.timed⟩

/-- A command that does not interrupt the movements keeps the invariant. -/
theorem Coherent.perform_spares
    (coherent : Coherent latest rehearsal)
    {command : Playback.Command}
    (spares : rehearsal.playback.Spares rehearsal.schedule
      (rehearsal.playback.run 0 rehearsal.schedule command)) :
    Coherent latest (rehearsal.perform command).1 := by
  have linked := coherent.linked.run command
  rw [perform_eq]
  obtain ⟨keptKnown, keptClosed⟩ : Known rehearsal.schedule
        (kept command (rehearsal.playback.run 0 rehearsal.schedule command).2) ∧
      openCount rehearsal.schedule
        (kept command (rehearsal.playback.run 0 rehearsal.schedule command).2) = 0 := by
    cases answer : (rehearsal.playback.run 0 rehearsal.schedule command).2 with
    | settled outcome => exact ⟨known_settled _ _ _, openCount_of_settled _ _ _⟩
    | waiting waiter => exact absurd answer (spares.completion waiter)
    | failed fault =>
      refine ⟨fun completion handed => ?_, rfl⟩
      cases handed
  constructor
  · exact linked
  · simp only [spares.schedule]
    exact coherent.known.append keptKnown
  · unfold unresolved
    simp only [spares.schedule, spares.timer, openCount_append, keptClosed]
    exact coherent.counted
  · simp only [spares.waiter, spares.timer]
    exact coherent.timed

/-- A command that ends the movement under way and begins none keeps the invariant. -/
theorem Coherent.perform_rests
    (coherent : Coherent latest rehearsal)
    {command : Playback.Command}
    (rests : rehearsal.playback.Rests rehearsal.schedule
      (rehearsal.playback.run 0 rehearsal.schedule command)) :
    Coherent latest (rehearsal.perform command).1 := by
  rw [perform_eq]
  obtain ⟨outcome, answer⟩ := rests.completion
  refine Coherent.of_quiet ?_ ?_ rests.timer rests.waiter rests.phase
  · simp only [rests.schedule]
    exact coherent.linked.interrupt
  · simp only [rests.schedule, answer]
    refine (coherent.known.mono ?_).append (known_settled _ _ _)
    rw [length_outcomes_interrupt]

/-- A command that begins a movement keeps the invariant for the duration of that movement. -/
theorem Coherent.perform_begins
    (coherent : Coherent latest rehearsal)
    {command : Playback.Command}
    {movement : Int × Ending}
    (waits : hasCompletion command = true)
    (begins : rehearsal.playback.Begins 0 rehearsal.schedule movement
      (rehearsal.playback.run 0 rehearsal.schedule command)) :
    Coherent (some movement.1) (rehearsal.perform command).1 := by
  have linked := coherent.linked.run command
  obtain ⟨entering, free, phase, result⟩ := begins
  have quiet := coherent.linked.interrupt
  have knownBefore : Known (rehearsal.playback.interrupt rehearsal.schedule).2
      rehearsal.completions := by
    refine coherent.known.mono ?_
    rw [length_outcomes_interrupt]
  rw [result] at linked
  rw [perform_eq, result]
  unfold Playback.startMovement at linked ⊢
  cases measured : Binary64.nearest? movement.1 with
  | none =>
    rw [measured] at linked
    constructor
    · exact linked
    · refine (knownBefore.mono ?_).append fun completion handed => ?_
      · simp [Playback.beginMovement]
      · cases handed
    · unfold unresolved
      rw [openCount_append]
      rw [openCount_grown rfl knownBefore, openCount_eq_zero quiet knownBefore]
      have unheld : (entering.beginMovement 0 movement.2
        (rehearsal.playback.interrupt rehearsal.schedule).2 none).1.1.timer = none := free
      rw [unheld]
      rfl
    · intro _
      refine ⟨movement.1, rfl, ?_⟩
      rw [measured]
      exact congrArg Option.isSome free
  | some delay =>
    rw [measured] at linked
    have answer := kept_waiting waits
      (rehearsal.playback.interrupt rehearsal.schedule).2.outcomes.length
    constructor
    · exact linked
    · refine (knownBefore.mono ?_).append ?_
      · simp [Playback.beginMovement]
      · intro completion handed
        have last := List.mem_singleton.mp (answer ▸ handed)
        refine Or.inr ⟨_, ?_, last⟩
        simp [Playback.beginMovement]
    · unfold unresolved
      rw [openCount_append, openCount_grown rfl knownBefore, openCount_eq_zero quiet knownBefore]
      simp only [Playback.beginMovement, answer]
      unfold openCount
      simp [Completion.outcome?, Schedule.outcome?]
    · intro _
      refine ⟨movement.1, rfl, ?_⟩
      rw [measured]
      rfl

theorem hasCompletion_of_interrupts
    {command : Playback.Command}
    (interrupting : command.interrupts = true) :
    hasCompletion command = true := by
  cases command <;> first | rfl | cases interrupting

theorem Coherent.step
    (coherent : Coherent latest rehearsal)
    (step : Step) :
    Coherent ((rehearsal.duration? step).or latest) (rehearsal.step step).1 := by
  cases given : step.command? with
  | none =>
    have same : (rehearsal.duration? step).or latest = latest := by
      unfold duration?
      rw [given]
      rfl
    rw [same]
    exact move_induction (fun _ coherent => coherent.linked.own)
      (fun _ limit _ _ coherent first _ => coherent.take first limit)
      (fun _ now coherent => coherent.setClock now) coherent given
  | some command =>
    have commanded : step = .command command := by
      cases step with
      | command other => exact congrArg Step.command (Option.some.inj given)
      | advance span => cases given
      | runAll => cases given
    subst commanded
    have duration : rehearsal.duration? (.command command) =
        (rehearsal.playback.movement? command).map Prod.fst := rfl
    rw [step_command, duration]
    cases coherent.linked.course command with
    | spares _ movement spares =>
      rw [movement]
      exact coherent.perform_spares spares
    | rests _ movement rests =>
      rw [movement]
      exact coherent.perform_rests rests
    | begins begun interrupting movement begins =>
      rw [movement]
      exact coherent.perform_begins (hasCompletion_of_interrupts interrupting) begins

theorem Coherent.run
    (coherent : Coherent latest rehearsal)
    (steps : List Step) :
    Coherent (rehearsal.latestDuration latest steps) (rehearsal.run steps) := by
  induction steps generalizing rehearsal latest with
  | nil => exact coherent
  | cons step rest ih => exact ih (coherent.step step)

/-! ## Timers and open completions of a run -/

theorem Coherent.pendingCount_eq
    (coherent : Coherent latest rehearsal) :
    rehearsal.pendingCount = if rehearsal.playback.timer.isSome then 1 else 0 := by
  unfold pendingCount Timeline.pendingCount
  cases held : rehearsal.playback.timer with
  | none =>
    rw [coherent.linked.idle held]
    rfl
  | some order =>
    obtain ⟨timer, alone, _⟩ := coherent.linked.armed order held
    rw [alone]
    rfl

theorem Coherent.timer_isSome_iff
    (coherent : Coherent latest rehearsal) :
    rehearsal.playback.timer.isSome = true ↔ rehearsal.playback.phase.isMoving = true ∧
      ∀ duration ∈ latest, duration.natAbs + 2 ^ 970 < 2 ^ 1024 := by
  rw [coherent.linked.moving]
  constructor
  · intro held
    obtain ⟨order, timer⟩ := Option.isSome_iff_exists.mp held
    obtain ⟨_, _, _, awaited⟩ := coherent.linked.armed order timer
    have waits : rehearsal.playback.waiter.isSome = true := by
      rw [awaited]
      rfl
    refine ⟨waits, fun duration present => ?_⟩
    obtain ⟨begun, same, measured⟩ := coherent.timed waits
    rw [Option.mem_def.mp present] at same
    cases same
    rw [held] at measured
    refine Nat.lt_of_not_le fun beyond => ?_
    rw [(Binary64.nearest?_eq_none_iff duration).mpr beyond] at measured
    cases measured
  · rintro ⟨waits, inside⟩
    obtain ⟨begun, same, measured⟩ := coherent.timed waits
    rw [measured, Option.isSome_iff_ne_none]
    intro missing
    have beyond := (Binary64.nearest?_eq_none_iff begun).mp missing
    exact Nat.not_lt_of_le beyond (inside begun same)

/-- After every run of commands and moves of the clock a graphic has at most one timer that still
has to fire, and it has one exactly if it moves and the duration of the movement is none beyond all
numbers of the clock.  The open completions are as many as the timers. -/
theorem pendingCount_eq_one_iff_isMoving
    (id : String)
    (elements : List Element)
    (settings : Option AnimationSettings)
    (steps : List Step) :
    ((opening id elements settings).run steps).pendingCount ≤ 1 ∧
      (((opening id elements settings).run steps).pendingCount = 1 ↔
        ((opening id elements settings).run steps).playback.phase.isMoving = true ∧
          ∀ duration ∈ (opening id elements settings).latestDuration none steps,
            duration.natAbs + 2 ^ 970 < 2 ^ 1024) ∧
      ((opening id elements settings).run steps).unresolved =
        ((opening id elements settings).run steps).pendingCount := by
  have coherent := (coherent_opening id elements settings).run steps
  have pending := coherent.pendingCount_eq
  refine ⟨?_, ?_, coherent.counted.trans pending.symm⟩
  · rw [pending]
    split <;> omega
  · rw [← coherent.timer_isSome_iff, pending]
    split
    · rename_i held
      exact iff_of_true rfl held
    · rename_i free
      exact iff_of_false (by omega) free

/-- A movement of a duration beyond all numbers has no timer, and nobody waits for it. -/
example :
    let stalled := (opening "a" []
        (some { AnimationSettings.standard with slideInDuration := 2 ^ 1024 })).run
      [.command .load, .command (.play false)]
    stalled.playback.phase = .animatingIn ∧ stalled.pendingCount = 0 ∧ stalled.unresolved = 0 := by
  decide +kernel

end Rehearsal
end BroadcastGraphics
