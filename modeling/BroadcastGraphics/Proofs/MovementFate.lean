import BroadcastGraphics.Proofs.Movement
import BroadcastGraphics.Proofs.TimedQueue

/-!
# What becomes of a movement

A movement that begins when the clock reads some time is due after its duration.  The first command
that interrupts it settles its completion as superseded; otherwise the first move of the clock that
reaches the due time settles it as completed, and the clock reads the due time when that happens.
The end of a movement has its effect on the graphic only then: moves of the clock change nothing
but by completing a movement.

The clock counts in double precision, so the due time is the rounded sum.  For whole numbers it is
the exact one up to `2 ^ 53`.
-/

namespace BroadcastGraphics
namespace Rehearsal

/-- The step does not move the clock back. -/
def Step.IsForward : Step -> Prop
  | .advance span => ∀ measured, span.measured = .ok measured -> measured.IsSpan
  | _ => True

/-- Moving the clock on by whole milliseconds does not move it back. -/
theorem isForward_advance
    {milliseconds : Int}
    (onward : 0 ≤ milliseconds) :
    (Step.advance (.integer milliseconds)).IsForward := by
  intro measured known
  change Span.ofInteger milliseconds = .ok measured at known
  unfold Span.ofInteger at known
  cases nearest : Binary64.nearest? milliseconds with
  | none =>
    rw [nearest] at known
    cases known
  | some number =>
    rw [nearest] at known
    cases known
    rw [(Binary64.nearest?_eq_some nearest).1]
    exact Binary64.isSpan_ofInt onward

/-- The step is a command that interrupts movements. -/
def Step.interrupts (step : Step) : Bool :=
  step.command?.any Playback.Command.interrupts

/-- The step moves the clock so far that a timer due at a time fires. -/
def reaches (rehearsal : Rehearsal) (due : Binary64) : Step -> Bool
  | .command _ => false
  | .runAll => true
  | .advance span =>
      match span.measured with
      | .ok measured => due.le (rehearsal.schedule.timeline.now.add measured)
      | .error _ => false

/-- What becomes of a movement that is due at a time: the first command that interrupts it
supersedes it, and the first move of the clock that reaches the time completes it. -/
def fate (due : Binary64) (rehearsal : Rehearsal) : List Step -> Option Outcome
  | [] => none
  | step :: rest =>
      if step.interrupts then some .superseded
      else if rehearsal.reaches due step then some .completed
      else fate due (rehearsal.step step).1 rest

/-- The time at which a movement that begins now is due. -/
def dueAfter (rehearsal : Rehearsal) (duration : Int) : Binary64 :=
  rehearsal.schedule.timeline.dueAfter (Binary64.ofInt duration)

/-- The answer to a command. -/
def answer (rehearsal : Rehearsal) (command : Playback.Command) : Completion :=
  (rehearsal.playback.run 0 rehearsal.schedule command).2

/-! ## Runs over timers -/

/-- A graphic and its clock are linked, and the clock is orderly. -/
structure InOrder (rehearsal : Rehearsal) : Prop where
  linked : rehearsal.playback.Linked rehearsal.schedule
  orderly : rehearsal.schedule.timeline.Orderly

/-- A graphic and its clock are linked, and the clock is timed. -/
structure OnTime (rehearsal : Rehearsal) : Prop where
  linked : rehearsal.playback.Linked rehearsal.schedule
  timed : rehearsal.schedule.timeline.Timed

/-- Nothing that matters to a movement has changed. -/
structure Unmoved (start after : Rehearsal) : Prop where
  playback : after.playback = start.playback
  outcomes : after.schedule.outcomes = start.schedule.outcomes
  waiting : after.schedule.timeline.waiting = start.schedule.timeline.waiting
  firings : after.schedule.timeline.firings = start.schedule.timeline.firings
  nextOrder : after.schedule.timeline.nextOrder = start.schedule.timeline.nextOrder

/-- The movement under way has come to its end by its timer. -/
structure Expired (start after : Rehearsal) (timer : Timer Cue) : Prop where
  alone : start.schedule.timeline.waiting = [timer]
  awaited : start.playback.waiter = some timer.action.waiter
  playback : after.playback = start.playback.ended timer.action.ending
  outcomes : after.schedule.outcomes =
    (start.schedule.settle timer.action.waiter .completed).outcomes
  waiting : after.schedule.timeline.waiting = []
  fired : after.schedule.timeline.firings.length = start.schedule.timeline.firings.length + 1

/-- The only timer that still had to fire has fired at its time, and its movement has ended. -/
structure Ended (start after : Rehearsal) (timer : Timer Cue) : Prop where
  alone : start.schedule.timeline.waiting = [timer]
  awaited : start.playback.waiter = some timer.action.waiter
  playback : after.playback = start.playback.ended timer.action.ending
  outcomes : after.schedule.outcomes =
    (start.schedule.settle timer.action.waiter .completed).outcomes
  waiting : after.schedule.timeline.waiting = []
  firings : after.schedule.timeline.firings =
    start.schedule.timeline.firings ++ [⟨timer.due, timer.order, timer.due⟩]
  nextOrder : after.schedule.timeline.nextOrder = start.schedule.timeline.nextOrder

variable {rehearsal start before middle after : Rehearsal} {limit : Timeline.Limit}

theorem OnTime.inOrder (onTime : OnTime rehearsal) : InOrder rehearsal :=
  ⟨onTime.linked, onTime.timed.orderly⟩

theorem InOrder.take
    (inOrder : InOrder rehearsal)
    {timer : Timer Cue}
    {others : List (Timer Cue)}
    (first : rehearsal.schedule.timeline.queue = timer :: others) :
    InOrder (rehearsal.take limit timer) := by
  refine ⟨linked_take inOrder.linked first limit, ?_⟩
  rw [take_timeline inOrder.linked first limit]
  exact inOrder.orderly.taken first limit

theorem OnTime.take
    (onTime : OnTime rehearsal)
    {timer : Timer Cue}
    {others : List (Timer Cue)}
    (first : rehearsal.schedule.timeline.queue = timer :: others) :
    OnTime (rehearsal.take limit timer) := by
  refine ⟨linked_take onTime.linked first limit, ?_⟩
  rw [take_timeline onTime.linked first limit]
  exact onTime.timed.taken first limit

theorem Unmoved.refl (rehearsal : Rehearsal) : Unmoved rehearsal rehearsal :=
  ⟨rfl, rfl, rfl, rfl, rfl⟩

theorem Unmoved.trans
    (earlier : Unmoved start middle)
    (later : Unmoved middle after) : Unmoved start after where
  playback := later.playback.trans earlier.playback
  outcomes := later.outcomes.trans earlier.outcomes
  waiting := later.waiting.trans earlier.waiting
  firings := later.firings.trans earlier.firings
  nextOrder := later.nextOrder.trans earlier.nextOrder

theorem unmoved_setClock
    (rehearsal : Rehearsal)
    (now : Binary64) : Unmoved rehearsal (rehearsal.setClock now) :=
  ⟨rfl, rfl, rfl, rfl, rfl⟩

/-- A cancelled timer is taken without effect. -/
theorem unmoved_take
    (linked : rehearsal.playback.Linked rehearsal.schedule)
    {timer : Timer Cue}
    {others : List (Timer Cue)}
    (first : rehearsal.schedule.timeline.queue = timer :: others)
    (gone : timer.cancelled = true) :
    Unmoved rehearsal (rehearsal.take limit timer) := by
  have firings : (rehearsal.schedule.timeline.taken limit timer).firings =
      rehearsal.schedule.timeline.firings := by
    unfold Timeline.taken
    exact if_pos gone
  rw [take_of_cancelled gone]
  exact ⟨rfl, rfl, linked.waiting_of_cancelled first gone limit, firings, rfl⟩

/-- The only timer that still has to fire is the first one if that is not cancelled. -/
theorem waiting_of_fires
    (linked : rehearsal.playback.Linked rehearsal.schedule)
    {timer : Timer Cue}
    {others : List (Timer Cue)}
    (first : rehearsal.schedule.timeline.queue = timer :: others)
    (live : timer.cancelled = false) :
    rehearsal.schedule.timeline.waiting = [timer] := by
  have perm := Timeline.taken_waiting_perm first .everything
  rw [live, (linked.of_fires first live .everything).2.2] at perm
  exact List.perm_singleton.mp perm

/-- A timer that fires ends the movement under way. -/
theorem expired_take
    (linked : rehearsal.playback.Linked rehearsal.schedule)
    {timer : Timer Cue}
    {others : List (Timer Cue)}
    (first : rehearsal.schedule.timeline.queue = timer :: others)
    (live : timer.cancelled = false) :
    Expired rehearsal (rehearsal.take limit timer) timer := by
  obtain ⟨_, awaited, nothing⟩ := linked.of_fires first live limit
  have fired : (rehearsal.schedule.timeline.taken limit timer).firings.length =
      rehearsal.schedule.timeline.firings.length + 1 := by
    unfold Timeline.taken
    simp [live]
  rw [take_of_fires linked first live]
  exact ⟨waiting_of_fires linked first live, awaited, rfl, rfl, nothing, fired⟩

/-- On a timed clock the timer fires at its due time. -/
theorem ended_take
    (onTime : OnTime rehearsal)
    {timer : Timer Cue}
    {others : List (Timer Cue)}
    (first : rehearsal.schedule.timeline.queue = timer :: others)
    (live : timer.cancelled = false) :
    Ended rehearsal (rehearsal.take limit timer) timer := by
  have expired : Expired rehearsal (rehearsal.take limit timer) timer :=
    expired_take onTime.linked first live
  have reading := onTime.timed.reading_eq_due
    (expired.alone ▸ List.mem_singleton_self timer) limit
  refine ⟨expired.alone, expired.awaited, expired.playback, expired.outcomes, expired.waiting,
    ?_, ?_⟩
  · rw [take_timeline onTime.linked first limit]
    unfold Timeline.taken
    simp only [live, reading, Bool.false_eq_true, if_false]
  · rw [take_timeline onTime.linked first limit]
    rfl

/-- What has no effect may come before and after the end of a movement. -/
theorem Expired.between
    {timer : Timer Cue}
    (expired : Expired before middle timer)
    (earlier : Unmoved start before)
    (later : Unmoved middle after) : Expired start after timer where
  alone := earlier.waiting ▸ expired.alone
  awaited := earlier.playback ▸ expired.awaited
  playback := by rw [later.playback, expired.playback, earlier.playback]
  outcomes := by
    rw [later.outcomes, expired.outcomes]
    unfold Schedule.settle
    simp only [earlier.outcomes]
  waiting := later.waiting.trans expired.waiting
  fired := by rw [later.firings, expired.fired, earlier.firings]

theorem Ended.between
    {timer : Timer Cue}
    (ended : Ended before middle timer)
    (earlier : Unmoved start before)
    (later : Unmoved middle after) : Ended start after timer where
  alone := earlier.waiting ▸ ended.alone
  awaited := earlier.playback ▸ ended.awaited
  playback := by rw [later.playback, ended.playback, earlier.playback]
  outcomes := by
    rw [later.outcomes, ended.outcomes]
    unfold Schedule.settle
    simp only [earlier.outcomes]
  waiting := later.waiting.trans ended.waiting
  firings := by rw [later.firings, ended.firings, earlier.firings]
  nextOrder := by rw [later.nextOrder, ended.nextOrder, earlier.nextOrder]

/-- A run over timers as the movement under way sees it: nothing has had an effect, or one timer has
fired and nothing before it and after it has had one. -/
inductive Passed (Sound : Rehearsal -> Prop) (limit : Timeline.Limit) (start after : Rehearsal) :
    Prop
  | untouched (unmoved : Unmoved start after)
  | fired (before : Rehearsal) (timer : Timer Cue) (others : List (Timer Cue))
      (sound : Sound before)
      (earlier : Unmoved start before)
      (first : before.schedule.timeline.queue = timer :: others)
      (live : timer.cancelled = false)
      (admitted : limit.admits timer.due = true)
      (later : Unmoved (before.take limit timer) after)

variable {Sound : Rehearsal -> Prop}

theorem Passed.take
    (passed : Passed Sound limit start rehearsal)
    (inOrder : ∀ rehearsal, Sound rehearsal -> InOrder rehearsal)
    (sound : Sound rehearsal)
    {timer : Timer Cue}
    {others : List (Timer Cue)}
    (first : rehearsal.schedule.timeline.queue = timer :: others)
    (admitted : limit.admits timer.due = true) :
    Passed Sound limit start (rehearsal.take limit timer) := by
  have linked := (inOrder rehearsal sound).linked
  cases live : timer.cancelled with
  | true =>
    have still : Unmoved rehearsal (rehearsal.take limit timer) := unmoved_take linked first live
    cases passed with
    | untouched unmoved => exact .untouched (unmoved.trans still)
    | fired before timer others sound earlier first live admitted later =>
      exact .fired before timer others sound earlier first live admitted (later.trans still)
  | false =>
    cases passed with
    | untouched unmoved =>
      exact .fired rehearsal timer others sound unmoved first live admitted (Unmoved.refl _)
    | fired before earlierTimer _ sound _ front fires _ later =>
      -- The only timer has fired, so no other one is left that could.
      have spent : Expired before (before.take limit earlierTimer) earlierTimer :=
        expired_take (inOrder before sound).linked front fires
      have nothing := later.waiting.trans spent.waiting
      rw [waiting_of_fires linked first live] at nothing
      cases nothing

/-- What makes a clock orderly and outlasts every timer that is taken outlasts a run over timers,
and at most one of them fires. -/
theorem takeDue_passed
    (limit : Timeline.Limit)
    (inOrder : ∀ rehearsal, Sound rehearsal -> InOrder rehearsal)
    (taken : ∀ rehearsal timer others, Sound rehearsal ->
      rehearsal.schedule.timeline.queue = timer :: others -> Sound (rehearsal.take limit timer))
    (sound : Sound start) :
    Sound (start.takeDue limit) ∧ Passed Sound limit start (start.takeDue limit) := by
  refine takeDue_induction
    (motive := fun after => Sound after ∧ Passed Sound limit start after)
    (fun after holds => (inOrder after holds.1).linked.own) ?_
    ⟨sound, .untouched (Unmoved.refl start)⟩
  rintro after timer others ⟨sound, passed⟩ first admitted
  exact ⟨taken after timer others sound first, passed.take inOrder sound first admitted⟩

/-- A timer that still has to fire after a run over timers does not belong to it. -/
theorem InOrder.not_admits
    (inOrder : InOrder (start.takeDue limit))
    (unmoved : Unmoved start (start.takeDue limit)) :
    ∀ timer ∈ start.schedule.timeline.waiting, limit.admits timer.due = false := by
  intro timer member
  have still : timer ∈ (start.takeDue limit).schedule.timeline.waiting := unmoved.waiting ▸ member
  exact inOrder.orderly.not_admits (fun _ _ front => takeDue_exhausts front)
    (Timeline.mem_queue_of_mem_waiting still)

/-- On an orderly clock a run over timers ends the movement under way if its timer belongs to the
run, and changes nothing otherwise. -/
theorem InOrder.takeDue
    (inOrder : InOrder start)
    (limit : Timeline.Limit) :
    InOrder (start.takeDue limit) ∧
      ((Unmoved start (start.takeDue limit) ∧
          ∀ timer ∈ start.schedule.timeline.waiting, limit.admits timer.due = false) ∨
        ∃ timer, limit.admits timer.due = true ∧ Expired start (start.takeDue limit) timer) := by
  obtain ⟨later, passed⟩ := takeDue_passed limit (fun _ sound => sound)
    (fun _ _ _ sound first => InOrder.take sound first) inOrder
  refine ⟨later, ?_⟩
  cases passed with
  | untouched unmoved => exact Or.inl ⟨unmoved, later.not_admits unmoved⟩
  | fired before timer others sound earlier first live admitted later =>
    exact Or.inr ⟨timer, admitted, (expired_take sound.linked first live).between earlier later⟩

/-- On a timed clock the timer that ends the movement under way fires at its due time. -/
theorem OnTime.takeDue
    (onTime : OnTime start)
    (limit : Timeline.Limit) :
    OnTime (start.takeDue limit) ∧
      ((Unmoved start (start.takeDue limit) ∧
          ∀ timer ∈ start.schedule.timeline.waiting, limit.admits timer.due = false) ∨
        ∃ timer, limit.admits timer.due = true ∧ Ended start (start.takeDue limit) timer) := by
  obtain ⟨later, passed⟩ := takeDue_passed limit (fun _ sound => OnTime.inOrder sound)
    (fun _ _ _ sound first => OnTime.take sound first) onTime
  refine ⟨later, ?_⟩
  cases passed with
  | untouched unmoved => exact Or.inl ⟨unmoved, later.inOrder.not_admits unmoved⟩
  | fired before timer others sound earlier first live admitted later =>
    exact Or.inr ⟨timer, admitted, (ended_take sound first live).between earlier later⟩

/-! ## Moves of the clock -/

/-- A move of the clock ends the movement under way if it reaches its due time, and changes nothing
otherwise. -/
theorem move_cases
    (onTime : OnTime rehearsal)
    {step : Step}
    (move : step.command? = none)
    (forward : step.IsForward) :
    OnTime (rehearsal.step step).1 ∧
      ((Unmoved rehearsal (rehearsal.step step).1 ∧
          ∀ timer ∈ rehearsal.schedule.timeline.waiting,
            rehearsal.reaches timer.due step = false) ∨
        ∃ timer, rehearsal.reaches timer.due step = true ∧
          Ended rehearsal (rehearsal.step step).1 timer) := by
  cases step with
  | command command => cases move
  | runAll => exact onTime.takeDue .everything
  | advance span =>
    cases known : span.measured with
    | error fault =>
      rw [step_advance_of_error rehearsal known]
      refine ⟨onTime, Or.inl ⟨Unmoved.refl _, fun timer _ => ?_⟩⟩
      simp only [reaches, known]
    | ok measured =>
      have reading := (onTime.timed.now.add (forward measured known)).1
      have reaches_eq : ∀ due, rehearsal.reaches due (.advance span) =
          due.le (rehearsal.schedule.timeline.now.add measured) := by
        intro due
        simp only [reaches, known]
      rw [step_advance rehearsal known]
      simp only [reaches_eq]
      generalize target : rehearsal.schedule.timeline.now.add measured = time at *
      obtain ⟨later, cases⟩ := onTime.takeDue (.upTo time)
      have still := unmoved_setClock (rehearsal.takeDue (.upTo time)) time
      refine ⟨⟨linked_setClock later.linked time, ?_⟩, ?_⟩
      · exact later.timed.moved reading fun _ _ front => takeDue_exhausts front
      · rcases cases with ⟨unmoved, refused⟩ | ⟨timer, admitted, ended⟩
        · exact Or.inl ⟨unmoved.trans still, refused⟩
        · exact Or.inr ⟨timer, admitted, ended.between (Unmoved.refl rehearsal) still⟩

/-! ## Commands -/

end Rehearsal

/-- What a command keeps of a clock: outcomes stay as they are settled, nothing fires, and a timer
that has come to the waiting ones has a new number. -/
structure Schedule.Keeps (before after : Schedule) : Prop where
  settled : ∀ (waiter : Nat) (outcome : Outcome),
    before.outcomes[waiter]? = some (some outcome) ->
      after.outcomes[waiter]? = some (some outcome)
  firings : after.timeline.firings = before.timeline.firings
  nextOrder : before.timeline.nextOrder ≤ after.timeline.nextOrder
  waiting : ∀ timer ∈ after.timeline.waiting,
    timer ∈ before.timeline.waiting ∨ before.timeline.nextOrder ≤ timer.order

namespace Schedule

theorem Keeps.refl (schedule : Schedule) : Keeps schedule schedule :=
  ⟨fun _ _ found => found, rfl, Nat.le_refl _, fun _ member => Or.inl member⟩

theorem Keeps.trans
    {first second third : Schedule}
    (earlier : Keeps first second)
    (later : Keeps second third) :
    Keeps first third where
  settled := fun waiter outcome found =>
    later.settled waiter outcome (earlier.settled waiter outcome found)
  firings := later.firings.trans earlier.firings
  nextOrder := Nat.le_trans earlier.nextOrder later.nextOrder
  waiting := fun timer member => by
    rcases later.waiting timer member with old | new
    · exact earlier.waiting timer old
    · exact Or.inr (Nat.le_trans earlier.nextOrder new)

theorem settle_settled
    {schedule : Schedule}
    {number waiter : Nat}
    {settled outcome : Outcome}
    (found : schedule.outcomes[number]? = some (some settled)) :
    (schedule.settle waiter outcome).outcomes[number]? = some (some settled) := by
  rw [outcomes_settle, found]
  simp

end Schedule

namespace Playback

variable {playback : Playback} {schedule : Schedule}

theorem interrupt_keeps
    (linked : Linked playback schedule) :
    schedule.Keeps (playback.interrupt schedule).2 := by
  have timeline := interrupt_timeline playback schedule
  constructor
  · intro number settled found
    cases held : playback.waiter with
    | none =>
      rw [(interrupt_outcomes playback schedule).2 held]
      exact found
    | some waiter =>
      rw [(interrupt_outcomes playback schedule).1 waiter held]
      exact Schedule.settle_settled found
  · rw [timeline]
    split <;> rfl
  · rw [timeline]
    split <;> exact Nat.le_refl _
  · intro timer member
    rw [linked.interrupt.still] at member
    cases member

theorem startMovement_keeps
    (quiet : schedule.Quiet)
    (duration : Int)
    (ending : Ending) :
    schedule.Keeps (playback.startMovement 0 duration ending schedule).1.2 := by
  have settled : ∀ (waiter : Nat) (outcome : Outcome),
      schedule.outcomes[waiter]? = some (some outcome) ->
        (schedule.outcomes ++ [none])[waiter]? = some (some outcome) := by
    intro waiter outcome found
    rw [List.getElem?_append_left (List.getElem?_eq_some_iff.mp found).1]
    exact found
  unfold startMovement
  cases Binary64.nearest? duration with
  | none => exact ⟨settled, rfl, Nat.le_refl _, fun _ member => Or.inl member⟩
  | some delay =>
    refine ⟨settled, rfl, Nat.le_succ _, fun timer member => Or.inr ?_⟩
    have waiting := Timeline.later_waiting_perm schedule.timeline delay
      ⟨0, schedule.outcomes.length, ending⟩
    rw [quiet.still] at waiting
    have new := List.mem_singleton.mp (waiting.mem_iff.mp member)
    rw [new]

theorem run_keeps
    (linked : Linked playback schedule)
    (command : Command) :
    schedule.Keeps (playback.run 0 schedule command).1.2 :=
  have interrupted := interrupt_keeps linked
  linked.run_schedule_induction (Schedule.Keeps.refl schedule) interrupted
    (fun _ _ _ => interrupted.trans (startMovement_keeps linked.interrupt _ _)) command

theorem interrupt_timed
    (timed : schedule.timeline.Timed) :
    (playback.interrupt schedule).2.timeline.Timed := by
  rw [interrupt_timeline]
  split
  · exact timed.cancel _
  · exact timed

theorem startMovement_timed
    (timed : schedule.timeline.Timed)
    (duration : Int)
    (ending : Ending) :
    (playback.startMovement 0 duration ending schedule).1.2.timeline.Timed := by
  unfold startMovement
  cases measured : Binary64.nearest? duration with
  | none => exact timed
  | some delay => exact timed.later (Binary64.nearest?_eq_some measured).2 _

theorem run_timed
    (linked : Linked playback schedule)
    (timed : schedule.timeline.Timed)
    (command : Command) :
    (playback.run 0 schedule command).1.2.timeline.Timed :=
  have interrupted := interrupt_timed timed
  linked.run_schedule_induction (motive := fun schedule => schedule.timeline.Timed) timed
    interrupted (fun _ _ _ => startMovement_timed interrupted _ _) command

end Playback

/-! ## Movements under way and movements that are settled -/

/-- A movement is settled on a clock: its completion has an outcome, and its timer cannot fire any
more.  It has fired if the movement was completed, and then it did so at its due time. -/
structure Schedule.Settled (number waiter : Nat) (due : Binary64) (outcome : Outcome)
    (schedule : Schedule) : Prop where
  settled : schedule.outcomes[waiter]? = some (some outcome)
  passed : number < schedule.timeline.nextOrder
  free : ∀ timer ∈ schedule.timeline.waiting, timer.order ≠ number
  onTime : ∀ firing ∈ schedule.timeline.firings, firing.order = number ->
    firing = ⟨due, number, due⟩
  fired : (∃ firing ∈ schedule.timeline.firings, firing.order = number) ↔ outcome = .completed

/-- A movement is under way on a clock: its timer is the one that still has to fire, and it has not
fired. -/
structure Schedule.Underway (number waiter : Nat) (due : Binary64) (ending : Ending)
    (schedule : Schedule) : Prop where
  isOpen : schedule.outcomes[waiter]? = some none
  alone : schedule.timeline.waiting = [⟨due, number, ⟨0, waiter, ending⟩, false⟩]
  unfired : ∀ firing ∈ schedule.timeline.firings, firing.order ≠ number

namespace Schedule

variable {number waiter : Nat} {due : Binary64} {ending : Ending} {outcome : Outcome}

theorem Settled.kept
    {before after : Schedule}
    (settled : before.Settled number waiter due outcome)
    (keeps : before.Keeps after) :
    after.Settled number waiter due outcome where
  settled := keeps.settled _ _ settled.settled
  passed := Nat.lt_of_lt_of_le settled.passed keeps.nextOrder
  free := fun timer member => by
    rcases keeps.waiting timer member with old | new
    · exact settled.free timer old
    · have passed := settled.passed
      omega
  onTime := by
    rw [keeps.firings]
    exact settled.onTime
  fired := by
    rw [keeps.firings]
    exact settled.fired

end Schedule

namespace Rehearsal

variable {number waiter : Nat} {due : Binary64} {ending : Ending} {outcome : Outcome}
variable {rehearsal after : Rehearsal}

theorem OnTime.step
    (onTime : OnTime rehearsal)
    {step : Step}
    (forward : step.IsForward) :
    OnTime (rehearsal.step step).1 := by
  cases given : step.command? with
  | none => exact (move_cases onTime given forward).1
  | some command =>
    cases step with
    | advance span => cases given
    | runAll => cases given
    | command other =>
      rw [step_command, perform_eq]
      exact ⟨onTime.linked.run other, Playback.run_timed onTime.linked onTime.timed other⟩

theorem OnTime.run
    (onTime : OnTime rehearsal)
    {steps : List Step}
    (forward : ∀ step ∈ steps, step.IsForward) :
    OnTime (rehearsal.run steps) :=
  run_induction (fun _ _ forward onTime => onTime.step forward) onTime forward

theorem onTime_opening
    (id : String)
    (elements : List Element)
    (settings : Option AnimationSettings) :
    OnTime (opening id elements settings) :=
  ⟨linked_opening id elements settings, Timeline.timed_empty⟩

/-- A settled movement stays settled by the same outcome. -/
theorem settled_step
    (onTime : OnTime rehearsal)
    (settled : rehearsal.schedule.Settled number waiter due outcome)
    {step : Step}
    (forward : step.IsForward) :
    (rehearsal.step step).1.schedule.Settled number waiter due outcome := by
  cases given : step.command? with
  | some command =>
    cases step with
    | advance span => cases given
    | runAll => cases given
    | command other =>
      rw [step_command, perform_eq]
      exact settled.kept (Playback.run_keeps onTime.linked other)
  | none =>
    rcases (move_cases onTime given forward).2 with ⟨unmoved, _⟩ | ⟨timer, _, ended⟩
    · refine ⟨?_, ?_, ?_, ?_, ?_⟩
      · rw [unmoved.outcomes]
        exact settled.settled
      · rw [unmoved.nextOrder]
        exact settled.passed
      · rw [unmoved.waiting]
        exact settled.free
      · rw [unmoved.firings]
        exact settled.onTime
      · rw [unmoved.firings]
        exact settled.fired
    · have other : timer.order ≠ number :=
        settled.free timer (ended.alone ▸ List.mem_singleton_self timer)
      refine ⟨?_, ?_, ?_, ?_, ?_⟩
      · rw [ended.outcomes]
        exact Schedule.settle_settled settled.settled
      · rw [ended.nextOrder]
        exact settled.passed
      · rw [ended.waiting]
        intro timer member
        cases member
      · rw [ended.firings]
        intro firing member named
        rcases List.mem_append.mp member with old | new
        · exact settled.onTime firing old named
        · rw [List.mem_singleton.mp new] at named
          exact absurd named other
      · rw [ended.firings, ← settled.fired]
        constructor
        · rintro ⟨firing, member, named⟩
          rcases List.mem_append.mp member with old | new
          · exact ⟨firing, old, named⟩
          · rw [List.mem_singleton.mp new] at named
            exact absurd named other
        · rintro ⟨firing, member, named⟩
          exact ⟨firing, List.mem_append_left _ member, named⟩

/-- A command that interrupts a movement under way supersedes it. -/
theorem underway_interrupted
    (onTime : OnTime rehearsal)
    (underway : rehearsal.schedule.Underway number waiter due ending) :
    (rehearsal.playback.interrupt rehearsal.schedule).2.Settled number waiter due
      .superseded := by
  have keeps := Playback.interrupt_keeps onTime.linked
  have awaited := (onTime.linked.opened waiter).mp underway.isOpen
  refine ⟨?_, ?_, ?_, ?_, ?_⟩
  · rw [(Playback.interrupt_outcomes _ _).1 waiter awaited, Schedule.outcomes_settle,
      underway.isOpen]
    simp
  · refine Nat.lt_of_lt_of_le ?_ keeps.nextOrder
    exact onTime.timed.numbered _ (underway.alone ▸ List.mem_singleton_self _)
  · rw [onTime.linked.interrupt.still]
    intro timer member
    cases member
  · rw [keeps.firings]
    intro firing member named
    exact absurd named (underway.unfired firing member)
  · rw [keeps.firings]
    constructor
    · rintro ⟨firing, member, named⟩
      exact absurd named (underway.unfired firing member)
    · intro impossible
      cases impossible

/-- The movement whose timer has fired is settled as completed. -/
theorem underway_ended
    (onTime : OnTime rehearsal)
    (underway : rehearsal.schedule.Underway number waiter due ending)
    {timer : Timer Cue}
    (ended : Ended rehearsal after timer) :
    timer = ⟨due, number, ⟨0, waiter, ending⟩, false⟩ ∧
      after.schedule.Settled number waiter due .completed := by
  have same : timer = ⟨due, number, ⟨0, waiter, ending⟩, false⟩ := by
    have alone := ended.alone
    rw [underway.alone] at alone
    exact (List.singleton_inj.mp alone).symm
  subst same
  refine ⟨rfl, ?_, ?_, ?_, ?_, ?_⟩
  · rw [ended.outcomes, Schedule.outcomes_settle, underway.isOpen]
    simp
  · rw [ended.nextOrder]
    exact onTime.timed.numbered _ (underway.alone ▸ List.mem_singleton_self _)
  · rw [ended.waiting]
    intro timer member
    cases member
  · rw [ended.firings]
    intro firing member named
    rcases List.mem_append.mp member with old | new
    · exact absurd named (underway.unfired firing old)
    · exact List.mem_singleton.mp new
  · rw [ended.firings]
    exact iff_of_true ⟨_, List.mem_append_right _ (List.mem_singleton_self _), rfl⟩ rfl

/-- What a step makes of a movement under way. -/
def Becomes (number waiter : Nat) (due : Binary64) (ending : Ending) (schedule : Schedule) :
    Option Outcome -> Prop
  | none => schedule.Underway number waiter due ending
  | some outcome => schedule.Settled number waiter due outcome

theorem underway_move
    (onTime : OnTime rehearsal)
    (underway : rehearsal.schedule.Underway number waiter due ending)
    {step : Step}
    (move : step.command? = none)
    (forward : step.IsForward) :
    Becomes number waiter due ending (rehearsal.step step).1.schedule
      (if rehearsal.reaches due step then some .completed else none) := by
  rcases (move_cases onTime move forward).2 with ⟨unmoved, refused⟩ | ⟨timer, reached, ended⟩
  · have early := refused _ (underway.alone ▸ List.mem_singleton_self _)
    rw [if_neg (ne_true_of_eq_false early)]
    refine ⟨?_, ?_, ?_⟩
    · rw [unmoved.outcomes]
      exact underway.isOpen
    · rw [unmoved.waiting]
      exact underway.alone
    · rw [unmoved.firings]
      exact underway.unfired
  · obtain ⟨same, settled⟩ := underway_ended onTime underway ended
    rw [same] at reached
    rw [if_pos reached]
    exact settled

theorem underway_command
    (onTime : OnTime rehearsal)
    (underway : rehearsal.schedule.Underway number waiter due ending)
    {command : Playback.Command}
    (interrupting : command.interrupts = true) :
    (rehearsal.playback.run 0 rehearsal.schedule command).1.2.Settled number waiter due
      .superseded := by
  have superseded := underway_interrupted onTime underway
  cases onTime.linked.course command with
  | spares harmless => exact absurd interrupting (harmless ▸ Bool.false_ne_true)
  | rests _ _ rests =>
    rw [rests.schedule]
    exact superseded
  | begins begun _ _ begins =>
    obtain ⟨entering, _, _, result⟩ := begins
    rw [result]
    exact superseded.kept (Playback.startMovement_keeps onTime.linked.interrupt _ _)

theorem underway_step
    (onTime : OnTime rehearsal)
    (underway : rehearsal.schedule.Underway number waiter due ending)
    {step : Step}
    (forward : step.IsForward) :
    Becomes number waiter due ending (rehearsal.step step).1.schedule
      (if step.interrupts then some .superseded
        else if rehearsal.reaches due step then some .completed else none) := by
  cases step with
  | advance span => exact underway_move onTime underway rfl forward
  | runAll => exact underway_move onTime underway rfl forward
  | command command =>
    rw [step_command, perform_eq]
    change Becomes number waiter due ending (rehearsal.playback.run 0 rehearsal.schedule
      command).1.2 (if command.interrupts then some .superseded else none)
    cases interrupting : command.interrupts with
    | false =>
      have spares := (Playback.run_spares 0 rehearsal.playback rehearsal.schedule interrupting).1
      rw [spares.schedule]
      exact underway
    | true => exact underway_command onTime underway interrupting

theorem settled_run
    (onTime : OnTime rehearsal)
    (settled : rehearsal.schedule.Settled number waiter due outcome)
    {steps : List Step}
    (forward : ∀ step ∈ steps, step.IsForward) :
    (rehearsal.run steps).schedule.Settled number waiter due outcome := by
  induction steps generalizing rehearsal with
  | nil => exact settled
  | cons step rest ih =>
    have first := forward step List.mem_cons_self
    refine ih (onTime.step first) (settled_step onTime settled first) fun later member => ?_
    exact forward later (List.mem_cons_of_mem step member)

/-- After any run a movement that was under way is what its fate says. -/
theorem underway_run
    (onTime : OnTime rehearsal)
    (underway : rehearsal.schedule.Underway number waiter due ending)
    {steps : List Step}
    (forward : ∀ step ∈ steps, step.IsForward) :
    Becomes number waiter due ending (rehearsal.run steps).schedule
      (fate due rehearsal steps) := by
  induction steps generalizing rehearsal with
  | nil => exact underway
  | cons step rest ih =>
    have first := forward step List.mem_cons_self
    have others : ∀ later ∈ rest, later.IsForward := fun later member =>
      forward later (List.mem_cons_of_mem step member)
    have next := underway_step onTime underway first
    have later := onTime.step first
    unfold fate
    rw [run_cons]
    by_cases interrupting : step.interrupts = true
    · rw [if_pos interrupting] at next ⊢
      exact settled_run later next others
    · rw [if_neg interrupting] at next ⊢
      by_cases reached : rehearsal.reaches due step = true
      · rw [if_pos reached] at next ⊢
        exact settled_run later next others
      · rw [if_neg reached] at next ⊢
        exact ih later next others

/-! ## From the beginning of a movement -/

theorem interrupt_clock
    (playback : Playback)
    (schedule : Schedule) :
    (playback.interrupt schedule).2.timeline.now = schedule.timeline.now ∧
      (playback.interrupt schedule).2.timeline.nextOrder = schedule.timeline.nextOrder := by
  rw [Playback.interrupt_timeline]
  split <;> exact ⟨rfl, rfl⟩

/-- A movement that has just begun is under way; it is due after its duration. -/
theorem startMovement_underway
    {playback : Playback}
    {schedule : Schedule}
    (quiet : schedule.Quiet)
    (timed : schedule.timeline.Timed)
    {duration : Int}
    (waits : (playback.startMovement 0 duration ending schedule).2 = .waiting waiter) :
    (playback.startMovement 0 duration ending schedule).1.2.Underway schedule.timeline.nextOrder
      waiter (schedule.timeline.dueAfter (Binary64.ofInt duration)) ending := by
  unfold Playback.startMovement at waits ⊢
  cases measured : Binary64.nearest? duration with
  | none =>
    rw [measured] at waits
    cases waits
  | some delay =>
    rw [measured] at waits
    obtain ⟨rfl, _⟩ := Binary64.nearest?_eq_some measured
    have same : schedule.outcomes.length = waiter := Completion.waiting.inj waits
    subst same
    refine ⟨?_, ?_, ?_⟩
    · change (schedule.outcomes ++ [none])[schedule.outcomes.length]? = some none
      simp
    · have waiting := Timeline.later_waiting_perm schedule.timeline (Binary64.ofInt duration)
        ⟨0, schedule.outcomes.length, ending⟩
      rw [quiet.still] at waiting
      exact List.perm_singleton.mp waiting
    · intro firing member
      exact Nat.ne_of_lt (timed.fired firing member)

/-- A command whose completion has to be waited for begins a movement. -/
theorem begins_of_waiting
    (onTime : OnTime rehearsal)
    {command : Playback.Command}
    (waits : rehearsal.answer command = .waiting waiter) :
    ∃ duration ending, rehearsal.playback.movement? command = some (duration, ending) ∧
      (rehearsal.step (.command command)).1.schedule.Underway
        rehearsal.schedule.timeline.nextOrder waiter (rehearsal.dueAfter duration) ending := by
  rw [step_command, perform_eq]
  unfold answer at waits
  change ∃ duration ending, _ ∧ (rehearsal.playback.run 0 rehearsal.schedule command).1.2.Underway
    _ _ _ _
  cases onTime.linked.course command with
  | spares _ _ spares => exact absurd waits (spares.completion waiter)
  | rests _ _ rests =>
    obtain ⟨outcome, settled⟩ := rests.completion
    rw [settled] at waits
    cases waits
  | begins begun _ movement begins =>
    obtain ⟨duration, ending⟩ := begun
    obtain ⟨entering, _, _, result⟩ := begins
    refine ⟨duration, ending, movement, ?_⟩
    rw [result] at waits ⊢
    have underway := startMovement_underway onTime.linked.interrupt
      (Playback.interrupt_timed onTime.timed) waits
    obtain ⟨now, nextOrder⟩ := interrupt_clock rehearsal.playback rehearsal.schedule
    rw [nextOrder] at underway
    unfold Timeline.dueAfter at underway
    rw [now] at underway
    exact underway

theorem outcome?_of_becomes
    {schedule : Schedule}
    {fate : Option Outcome}
    (becomes : Becomes number waiter due ending schedule fate) :
    schedule.outcome? waiter = fate := by
  cases fate with
  | none =>
    have underway : schedule.Underway number waiter due ending := becomes
    unfold Schedule.outcome?
    rw [underway.isOpen]
    rfl
  | some outcome =>
    have settled : schedule.Settled number waiter due outcome := becomes
    unfold Schedule.outcome?
    rw [settled.settled]
    rfl

theorem firings_of_becomes
    {schedule : Schedule}
    {fate : Option Outcome}
    (becomes : Becomes number waiter due ending schedule fate) :
    (∀ firing ∈ schedule.timeline.firings, firing.order = number ->
        firing.due = due ∧ firing.time = due) ∧
      ((∃ firing ∈ schedule.timeline.firings, firing.order = number) ↔
        fate = some .completed) := by
  cases fate with
  | none =>
    have underway : schedule.Underway number waiter due ending := becomes
    constructor
    · intro firing member named
      exact absurd named (underway.unfired firing member)
    · constructor
      · rintro ⟨firing, member, named⟩
        exact absurd named (underway.unfired firing member)
      · intro impossible
        cases impossible
  | some outcome =>
    have settled : schedule.Settled number waiter due outcome := becomes
    constructor
    · intro firing member named
      rw [settled.onTime firing member named]
      exact ⟨rfl, rfl⟩
    · rw [settled.fired, Option.some.injEq]

/-- The effect of a move of the clock on the graphic: none, or the end of a movement that was open
before the move and is completed after it. -/
def EndsOnly (waiter : Nat) (ending : Ending) (start after : Rehearsal) : Prop :=
  (after.playback = start.playback ∧ after.schedule.outcomes = start.schedule.outcomes) ∨
    ∃ finished last, start.schedule.outcome? finished = none ∧
      after.schedule.outcome? finished = some .completed ∧
      after.playback = start.playback.ended last ∧ (finished = waiter -> last = ending)

theorem endsOnly_move
    (onTime : OnTime rehearsal)
    {fate : Option Outcome}
    (becomes : Becomes number waiter due ending rehearsal.schedule fate)
    {move : Step}
    (moves : move.command? = none)
    (forward : move.IsForward) :
    EndsOnly waiter ending rehearsal (rehearsal.step move).1 := by
  rcases (move_cases onTime moves forward).2 with ⟨unmoved, _⟩ | ⟨timer, _, ended⟩
  · exact Or.inl ⟨unmoved.playback, unmoved.outcomes⟩
  · have isOpen := (onTime.linked.opened timer.action.waiter).mpr ended.awaited
    refine Or.inr ⟨timer.action.waiter, timer.action.ending, ?_, ?_, ended.playback, ?_⟩
    · unfold Schedule.outcome?
      rw [isOpen]
      rfl
    · unfold Schedule.outcome?
      rw [ended.outcomes, Schedule.outcomes_settle, isOpen]
      simp
    · intro same
      cases fate with
      | none =>
        obtain ⟨timer_eq, _⟩ := underway_ended onTime becomes ended
        rw [timer_eq]
      | some outcome =>
        have settled : rehearsal.schedule.Settled number waiter due outcome := becomes
        have found := settled.settled
        rw [← same, isOpen] at found
        cases found

/-- A movement that begins at some time with some duration is settled exactly once.  The first
command that interrupts it supersedes it; otherwise the first move of the clock that reaches the due
time completes it, and its timer fires just then, while the clock reads the due time.  The due time
is the rounded sum of the time and the duration, and the exact one for whole numbers up to `2 ^ 53`.
Every later move of the clock leaves the graphic alone but for the end of a movement that it
completes. -/
theorem movement_settles_at_due_time
    (id : String)
    (elements : List Element)
    (settings : Option AnimationSettings)
    {earlier later : List Step}
    (earlierForward : ∀ step ∈ earlier, step.IsForward)
    (laterForward : ∀ step ∈ later, step.IsForward)
    {command : Playback.Command}
    {waiter : Nat}
    (waits : ((opening id elements settings).run earlier).answer command = .waiting waiter) :
    let start := (opening id elements settings).run earlier
    let begun := (start.step (.command command)).1
    let final := begun.run later
    ∃ duration ending, start.playback.movement? command = some (duration, ending) ∧
      final.schedule.outcome? waiter = fate (start.dueAfter duration) begun later ∧
      (∀ firing ∈ final.schedule.timeline.firings,
        firing.order = start.schedule.timeline.nextOrder ->
          firing.due = start.dueAfter duration ∧ firing.time = start.dueAfter duration) ∧
      ((∃ firing ∈ final.schedule.timeline.firings,
          firing.order = start.schedule.timeline.nextOrder) ↔
        final.schedule.outcome? waiter = some .completed) ∧
      (∀ move : Step, move.command? = none -> move.IsForward ->
        EndsOnly waiter ending final (final.step move).1) ∧
      (∀ now, start.schedule.timeline.now.whole? = some now -> 0 ≤ duration ->
        now + duration ≤ 2 ^ 53 -> (start.dueAfter duration).whole? = some (now + duration)) := by
  intro start begun final
  have onTime : OnTime start := (onTime_opening id elements settings).run earlierForward
  obtain ⟨duration, ending, movement, underway⟩ := begins_of_waiting onTime waits
  have begunOnTime : OnTime begun := onTime.step trivial
  have becomes := underway_run begunOnTime underway laterForward
  have settles := outcome?_of_becomes becomes
  obtain ⟨fires, fired⟩ := firings_of_becomes becomes
  refine ⟨duration, ending, movement, settles, fires, ?_, ?_, ?_⟩
  · rw [settles]
    exact fired
  · intro move moves forward
    exact endsOnly_move (begunOnTime.run laterForward) becomes moves forward
  · intro now whole onward small
    exact onTime.timed.now.whole?_add_ofInt whole onward small

/-- A duration beyond the whole numbers that the clock can count: the entrance is completed before
the clock has reached the end of its duration. -/
theorem entrance_completes_before_long_duration :
    ((opening "clock" [] (some { AnimationSettings.standard with
          slideInDuration := 2 ^ 53 + 1 })).run
        [.command .load, .command (.play false),
          .advance (.integer (2 ^ 53))]).schedule.outcome? 0 = some .completed ∧
      ((opening "clock" [] (some { AnimationSettings.standard with
          slideInDuration := 2 ^ 53 + 1 })).run
        [.command .load, .command (.play false),
          .advance (.integer (2 ^ 53))]).schedule.timeline.now.whole? = some (2 ^ 53) := by
  decide +kernel

/-- An entrance that is interrupted by an exit is superseded, though the clock goes on beyond the
time at which it was due. -/
theorem entrance_superseded_by_exit :
    (∀ step ∈ [Step.command .load, .advance (.integer 40)], step.IsForward) ∧
      (∀ step ∈ [Step.advance (.integer 499), .command (.stop false), .runAll],
        step.IsForward) ∧
      ((opening "clock" [] none).run [.command .load, .advance (.integer 40)]).answer
        (.play false) = .waiting 0 ∧
      (((opening "clock" [] none).run [.command .load, .advance (.integer 40),
        .command (.play false)]).run [.advance (.integer 499), .command (.stop false),
          .runAll]).schedule.outcome? 0 = some .superseded := by
  have earlierForward : ∀ step ∈ [Step.command .load, .advance (.integer 40)],
      step.IsForward := by
    intro step member
    simp only [List.mem_cons, List.not_mem_nil, or_false] at member
    rcases member with rfl | rfl
    · trivial
    · exact isForward_advance (by decide)
  have laterForward : ∀ step ∈ [Step.advance (.integer 499), .command (.stop false), .runAll],
      step.IsForward := by
    intro step member
    simp only [List.mem_cons, List.not_mem_nil, or_false] at member
    rcases member with rfl | rfl | rfl
    · exact isForward_advance (by decide)
    · trivial
    · trivial
  have waits : ((opening "clock" [] none).run [.command .load, .advance (.integer 40)]).answer
      (.play false) = .waiting 0 := by
    decide +kernel
  obtain ⟨duration, ending, movement, settles, _⟩ :=
    movement_settles_at_due_time "clock" [] none earlierForward laterForward waits
  have known : ((opening "clock" [] none).run
      [.command .load, .advance (.integer 40)]).playback.movement? (.play false) =
        some (500, .becomeVisible) := by
    decide +kernel
  obtain ⟨rfl, rfl⟩ : 500 = duration ∧ Ending.becomeVisible = ending := by
    simpa using known.symm.trans movement
  refine ⟨earlierForward, laterForward, waits, settles.trans ?_⟩
  decide +kernel

end Rehearsal
end BroadcastGraphics
