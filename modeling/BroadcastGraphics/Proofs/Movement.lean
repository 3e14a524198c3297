import BroadcastGraphics.Proofs.RehearsalRun

/-!
# Movements of a graphic

A command for a graphic does one of three things to its movements.  It leaves them alone; or it ends
the movement under way and starts none; or it ends the movement under way and starts another one.
Which of them it does can be read off the command and the phase of the graphic.

A graphic and its clock are linked when they agree on what is under way: the timer that the graphic
holds is the only one that still has to fire, its cue names the completion that the graphic waits
for, that completion is the only open one, and the phase is that of a movement.
-/

namespace BroadcastGraphics

/-- The graphic is between two places of rest. -/
def Phase.isMoving : Phase -> Bool
  | .animatingIn => true
  | .animatingOut => true
  | _ => false

/-- The phase of a movement that ends in a given way. -/
def Ending.phase : Ending -> Phase
  | .becomeVisible => .animatingIn
  | .hide => .animatingOut

@[simp] theorem Ending.isMoving_phase (ending : Ending) : ending.phase.isMoving = true := by
  cases ending <;> rfl

theorem Phase.isShown_of_isMoving
    {phase : Phase}
    (moving : phase.isMoving = true) :
    phase.isShown = true := by
  cases phase <;> first | rfl | cases moving

namespace Playback

/-- The command ends a movement that is under way. -/
def Command.interrupts : Command -> Bool
  | .load => true
  | .dispose => true
  | .play _ => true
  | .stop _ => true
  | .custom action => action == "slideIn" || action == "slideOut"
  | .update _ => false
  | .replaceContent _ _ => false

/-- The movement by which the graphic comes in, unless it is disposed of. -/
def entrance? (playback : Playback) : Option (Int × Ending) :=
  if playback.phase = .disposed then none
  else some (playback.settings.slideInDuration, .becomeVisible)

/-- The movement by which the graphic goes out, if it is on the canvas. -/
def exit? (playback : Playback) : Option (Int × Ending) :=
  if playback.isVisible then some (playback.settings.slideOutDuration, .hide) else none

/-- The movement that a command begins, by its duration and its end. -/
def movement? (playback : Playback) : Command -> Option (Int × Ending)
  | .play false => playback.entrance?
  | .stop false => playback.exit?
  | .custom action =>
      if action == "slideIn" then playback.entrance?
      else if action == "slideOut" then playback.exit? else none
  | _ => none

/-- A graphic that is disposed of has nothing under way. -/
def RestsWhenDisposed (playback : Playback) : Prop :=
  playback.phase = .disposed -> playback.timer = none ∧ playback.waiter = none

variable {graphic : Nat} {playback : Playback} {schedule : Schedule}

theorem interrupt_eq_self
    (timer : playback.timer = none)
    (waiter : playback.waiter = none) :
    playback.interrupt schedule = (playback, schedule) := by
  unfold interrupt
  rw [timer, waiter]
  cases playback
  simp_all

/-- What a command leaves of the movements when it begins none: nothing is held, and the clock is
that after an interruption. -/
structure Rests (playback : Playback) (schedule : Schedule)
    (result : (Playback × Schedule) × Completion) : Prop where
  schedule : result.1.2 = (playback.interrupt schedule).2
  timer : result.1.1.timer = none
  waiter : result.1.1.waiter = none
  phase : result.1.1.phase.isMoving = false
  completion : ∃ outcome, result.2 = .settled outcome

/-- What a command leaves of the movements when it begins one. -/
def Begins (graphic : Nat) (playback : Playback) (schedule : Schedule) (movement : Int × Ending)
    (result : (Playback × Schedule) × Completion) : Prop :=
  ∃ entering : Playback, entering.timer = none ∧ entering.phase = movement.2.phase ∧
    result =
      entering.startMovement graphic movement.1 movement.2 (playback.interrupt schedule).2

/-- What a command leaves of the movements if it does not interrupt them. -/
structure Spares (playback : Playback) (schedule : Schedule)
    (result : (Playback × Schedule) × Completion) : Prop where
  schedule : result.1.2 = schedule
  timer : result.1.1.timer = playback.timer
  waiter : result.1.1.waiter = playback.waiter
  phase : result.1.1.phase = playback.phase
  completion : ∀ waiter, result.2 ≠ .waiting waiter

theorem Spares.of_settled
    (outcome : Outcome) :
    Spares playback schedule ((playback, schedule), .settled outcome) :=
  ⟨rfl, rfl, rfl, rfl, fun _ waits => by cases waits⟩

theorem refreshed_spares
    (changed : Playback) :
    changed.refreshed.timer = changed.timer ∧ changed.refreshed.waiter = changed.waiter ∧
      changed.refreshed.phase = changed.phase := by
  unfold refreshed
  split <;> exact ⟨rfl, rfl, rfl⟩

theorem update_spares
    (data : Json) :
    Spares playback schedule (playback.update data schedule) := by
  unfold update
  by_cases disposed : playback.phase = .disposed
  · rw [if_pos disposed]
    exact Spares.of_settled _
  · rw [if_neg disposed]
    generalize (if data.isTruthy then Json.putMembers playback.data data
      else (playback.data, .ok ())) = written
    obtain ⟨members, written⟩ := written
    cases written with
    | error fault => exact ⟨rfl, rfl, rfl, rfl, fun _ waits => by cases waits⟩
    | ok _ =>
      obtain ⟨timer, waiter, phase⟩ := refreshed_spares { playback with data := members }
      exact ⟨rfl, timer, waiter, phase, fun _ waits => by cases waits⟩

theorem run_custom (action : String) :
    playback.run graphic schedule (.custom action) = playback.custom graphic action schedule :=
  rfl

theorem movement?_custom (action : String) :
    playback.movement? (.custom action) =
      if action == "slideIn" then playback.entrance?
      else if action == "slideOut" then playback.exit? else none :=
  rfl

theorem run_spares
    (graphic : Nat)
    (playback : Playback)
    (schedule : Schedule)
    {command : Command}
    (harmless : command.interrupts = false) :
    Spares playback schedule (playback.run graphic schedule command) ∧
      playback.movement? command = none := by
  cases command with
  | load => cases harmless
  | dispose => cases harmless
  | play skip => cases harmless
  | stop skip => cases harmless
  | update data => exact ⟨update_spares data, rfl⟩
  | replaceContent elements settings =>
    refine ⟨?_, rfl⟩
    obtain ⟨timer, waiter, phase⟩ := refreshed_spares
      { playback with elements := elements, settings := settings.getD .standard }
    exact ⟨rfl, timer, waiter, phase, fun _ waits => by cases waits⟩
  | custom action =>
    obtain ⟨notIn, notOut⟩ : (action == "slideIn") = false ∧ (action == "slideOut") = false := by
      unfold Command.interrupts at harmless
      exact Bool.or_eq_false_iff.mp harmless
    rw [run_custom, movement?_custom]
    unfold custom
    simp only [notIn, notOut, Bool.false_eq_true, if_false]
    exact ⟨Spares.of_settled _, trivial⟩

@[simp] theorem interrupt_settings :
    (playback.interrupt schedule).1.settings = playback.settings :=
  rfl

@[simp] theorem interrupt_phase :
    (playback.interrupt schedule).1.phase = playback.phase :=
  rfl

@[simp] theorem interrupt_isVisible :
    (playback.interrupt schedule).1.isVisible = playback.isVisible :=
  rfl

/-- What a command does to the movements if it interrupts them. -/
def Replaces (graphic : Nat) (playback : Playback) (schedule : Schedule)
    (result : (Playback × Schedule) × Completion) : Option (Int × Ending) -> Prop
  | none => Rests playback schedule result
  | some movement => Begins graphic playback schedule movement result

theorem rests_of_disposed
    (resting : playback.RestsWhenDisposed)
    (disposed : playback.phase = .disposed) :
    Rests playback schedule ((playback, schedule), .settled .noop) := by
  obtain ⟨timer, waiter⟩ := resting disposed
  refine ⟨?_, timer, waiter, ?_, _, rfl⟩
  · rw [interrupt_eq_self timer waiter]
  · rw [disposed]
    rfl

theorem play_replaces
    (resting : playback.RestsWhenDisposed)
    (skip : Bool) :
    Replaces graphic playback schedule (playback.play graphic skip schedule)
      (if skip then none else playback.entrance?) := by
  unfold play entrance?
  by_cases disposed : playback.phase = .disposed
  · rw [if_pos disposed, if_pos disposed, ite_self]
    exact rests_of_disposed resting disposed
  · rw [if_neg disposed, if_neg disposed]
    cases skip with
    | true => exact ⟨rfl, rfl, rfl, rfl, _, rfl⟩
    | false =>
      simp only [Bool.false_eq_true, if_false, interrupt_settings]
      refine ⟨_, ?_, ?_, rfl⟩
      · rfl
      · rfl

theorem stop_replaces
    (resting : playback.RestsWhenDisposed)
    (skip : Bool) :
    Replaces graphic playback schedule (playback.stop graphic skip schedule)
      (if skip then none else playback.exit?) := by
  unfold stop exit?
  by_cases disposed : playback.phase = .disposed
  · have gone : playback.isVisible = false := by
      unfold isVisible
      rw [disposed]
      rfl
    rw [if_pos disposed, gone, if_neg Bool.false_ne_true, ite_self]
    exact rests_of_disposed resting disposed
  · rw [if_neg disposed]
    simp only [interrupt_settings, interrupt_isVisible]
    by_cases shown : playback.isVisible = true
    · simp only [shown, Bool.not_true, Bool.false_eq_true, if_false, if_true]
      cases skip with
      | true => exact ⟨rfl, rfl, rfl, rfl, _, rfl⟩
      | false =>
        simp only [Bool.false_eq_true, if_false]
        refine ⟨_, ?_, ?_, rfl⟩
        · rfl
        · rfl
    · simp only [shown, Bool.not_false, Bool.false_eq_true, if_true, if_false, ite_self]
      refine ⟨rfl, rfl, rfl, ?_, _, rfl⟩
      rw [interrupt_phase]
      cases moving : playback.phase.isMoving with
      | false => rfl
      | true => exact absurd (Phase.isShown_of_isMoving moving) shown

/-- An interrupting command begins the movement that can be read off it, and no other. -/
theorem run_replaces
    (graphic : Nat)
    (schedule : Schedule)
    {command : Command}
    (resting : playback.RestsWhenDisposed)
    (interrupting : command.interrupts = true) :
    Replaces graphic playback schedule (playback.run graphic schedule command)
      (playback.movement? command) := by
  cases command with
  | load => exact ⟨rfl, rfl, rfl, rfl, _, rfl⟩
  | dispose => exact ⟨rfl, rfl, rfl, rfl, _, rfl⟩
  | play skip =>
    cases skip with
    | false => exact play_replaces resting false
    | true => exact play_replaces resting true
  | stop skip =>
    cases skip with
    | false => exact stop_replaces resting false
    | true => exact stop_replaces resting true
  | update data => cases interrupting
  | replaceContent elements settings => cases interrupting
  | custom action =>
    rw [run_custom, movement?_custom]
    unfold custom
    by_cases slidesIn : (action == "slideIn") = true
    · rw [if_pos slidesIn, if_pos slidesIn]
      exact play_replaces resting false
    · have slidesOut : (action == "slideOut") = true := by
        unfold Command.interrupts at interrupting
        simpa [slidesIn] using interrupting
      rw [if_neg slidesIn, if_neg slidesIn, if_pos slidesOut, if_pos slidesOut]
      exact stop_replaces resting false

/-- The courses that a command can take: it leaves the movements of the graphic alone; it ends the
one under way and begins none; or it ends it and begins another one. -/
inductive Course (graphic : Nat) (playback : Playback) (schedule : Schedule) (command : Command) :
    Prop
  | spares
      (harmless : command.interrupts = false)
      (movement : playback.movement? command = none)
      (spares : Spares playback schedule (playback.run graphic schedule command))
  | rests
      (interrupting : command.interrupts = true)
      (movement : playback.movement? command = none)
      (rests : Rests playback schedule (playback.run graphic schedule command))
  | begins
      (begun : Int × Ending)
      (interrupting : command.interrupts = true)
      (movement : playback.movement? command = some begun)
      (begins : Begins graphic playback schedule begun (playback.run graphic schedule command))

theorem course_of_resting
    (graphic : Nat)
    (schedule : Schedule)
    (resting : playback.RestsWhenDisposed)
    (command : Command) : Course graphic playback schedule command := by
  cases interrupting : command.interrupts with
  | false =>
    obtain ⟨spares, movement⟩ := run_spares graphic playback schedule interrupting
    exact .spares interrupting movement spares
  | true =>
    have replaces := run_replaces graphic schedule resting interrupting
    cases movement : playback.movement? command with
    | none =>
      rw [movement] at replaces
      exact .rests interrupting movement replaces
    | some begun =>
      rw [movement] at replaces
      exact .begins begun interrupting movement replaces

/-- The graphic after a movement has come to its end. -/
def ended (playback : Playback) : Ending -> Playback
  | .becomeVisible => { playback with timer := none, waiter := none, phase := .visible }
  | .hide => ({ playback with timer := none, waiter := none } : Playback).hidden

theorem ended_rests
    (playback : Playback)
    (ending : Ending) :
    (playback.ended ending).timer = none ∧ (playback.ended ending).waiter = none ∧
      (playback.ended ending).phase.isMoving = false := by
  cases ending <;> exact ⟨rfl, rfl, rfl⟩

theorem finish_eq
    {cue : Cue}
    (awaited : playback.waiter = some cue.waiter) :
    playback.finish cue schedule =
      (playback.ended cue.ending, schedule.settle cue.waiter .completed) := by
  unfold finish ended
  refine (if_pos awaited).trans ?_
  cases cue.ending <;> rfl

end Playback

/-! ## Clocks on which nothing is under way -/

namespace Schedule

theorem outcomes_settle
    (schedule : Schedule)
    (waiter : Nat)
    (outcome : Outcome)
    (number : Nat) :
    (schedule.settle waiter outcome).outcomes[number]? =
      schedule.outcomes[number]?.map fun settled =>
        if waiter = number then some (settled.getD outcome) else settled := by
  unfold settle
  simp only [List.getElem?_modify]
  cases schedule.outcomes[number]? <;> rfl

theorem length_outcomes_settle
    (schedule : Schedule)
    (waiter : Nat)
    (outcome : Outcome) :
    (schedule.settle waiter outcome).outcomes.length = schedule.outcomes.length := by
  unfold settle
  simp

/-- No timer still has to fire and no completion is open. -/
structure Quiet (schedule : Schedule) : Prop where
  own : Rehearsal.OwnsTimers schedule
  still : schedule.timeline.waiting = []
  closed : ∀ waiter : Nat, schedule.outcomes[waiter]? ≠ some none

/-- Settling the only open completion leaves none open. -/
theorem settle_closed
    {schedule : Schedule}
    {waiter : Nat}
    {outcome : Outcome}
    (opened : ∀ number : Nat, schedule.outcomes[number]? = some none -> number = waiter)
    (number : Nat) :
    (schedule.settle waiter outcome).outcomes[number]? ≠ some none := by
  rw [outcomes_settle]
  intro isOpen
  obtain ⟨settled, found, result⟩ := Option.map_eq_some_iff.mp isOpen
  split at result
  · cases result
  · rename_i other
    subst result
    exact other (opened number found).symm

/-- The only open completion is the one that is handed out when none is open. -/
theorem Quiet.opened
    {schedule : Schedule}
    (quiet : schedule.Quiet)
    (waiter : Nat) :
    (schedule.outcomes ++ [none])[waiter]? = some none ↔
      some schedule.outcomes.length = some waiter := by
  rw [List.getElem?_append]
  split
  · rename_i inside
    constructor
    · intro isOpen
      exact absurd isOpen (quiet.closed waiter)
    · intro same
      cases same
      omega
  · rename_i outside
    constructor
    · intro isOpen
      have last := (List.getElem?_eq_some_iff.mp isOpen).1
      simp only [List.length_singleton] at last
      congr 1
      omega
    · intro same
      cases same
      simp

end Schedule

namespace Playback

variable {playback : Playback} {schedule : Schedule}

/-- A graphic and its clock agree on the movement under way. -/
structure Linked (playback : Playback) (schedule : Schedule) : Prop where
  own : Rehearsal.OwnsTimers schedule
  idle : playback.timer = none -> schedule.timeline.waiting = []
  armed : ∀ order, playback.timer = some order -> ∃ timer, schedule.timeline.waiting = [timer] ∧
    timer.order = order ∧ playback.waiter = some timer.action.waiter
  opened : ∀ waiter : Nat, schedule.outcomes[waiter]? = some none ↔ playback.waiter = some waiter
  moving : playback.phase.isMoving = playback.waiter.isSome

theorem Linked.timer_eq_none
    (linked : Linked playback schedule)
    (still : playback.waiter = none) :
    playback.timer = none := by
  cases held : playback.timer with
  | none => rfl
  | some order =>
    obtain ⟨timer, _, _, awaited⟩ := linked.armed order held
    rw [still] at awaited
    cases awaited

theorem Linked.restsWhenDisposed (linked : Linked playback schedule) :
    playback.RestsWhenDisposed := by
  intro disposed
  have still : playback.waiter = none := by
    have moving := linked.moving
    rw [disposed] at moving
    exact Option.isSome_eq_false_iff.mp moving.symm |> Option.isNone_iff_eq_none.mp
  exact ⟨linked.timer_eq_none still, still⟩

theorem Linked.course
    (linked : Linked playback schedule)
    (command : Command) : Course 0 playback schedule command :=
  course_of_resting 0 schedule linked.restsWhenDisposed command

/-- A clock on which nothing is under way is linked to a graphic that rests. -/
theorem Linked.of_quiet
    (quiet : schedule.Quiet)
    (timer : playback.timer = none)
    (waiter : playback.waiter = none)
    (phase : playback.phase.isMoving = false) :
    Linked playback schedule where
  own := quiet.own
  idle := fun _ => quiet.still
  armed := fun order held => by
    rw [timer] at held
    cases held
  opened := fun number => by
    rw [waiter]
    constructor
    · intro isOpen
      exact absurd isOpen (quiet.closed number)
    · intro held
      cases held
  moving := by
    rw [waiter, phase]
    rfl

theorem interrupt_outcomes
    (playback : Playback)
    (schedule : Schedule) :
    (∀ waiter, playback.waiter = some waiter ->
        (playback.interrupt schedule).2.outcomes =
          (schedule.settle waiter .superseded).outcomes) ∧
      (playback.waiter = none -> (playback.interrupt schedule).2.outcomes = schedule.outcomes) := by
  unfold interrupt
  constructor
  · intro waiter held
    rw [held]
    cases playback.timer <;> rfl
  · intro held
    rw [held]
    cases playback.timer <;> rfl

theorem interrupt_timeline
    (playback : Playback)
    (schedule : Schedule) :
    (playback.interrupt schedule).2.timeline =
      match playback.timer with
      | some order => schedule.timeline.cancel order
      | none => schedule.timeline := by
  unfold interrupt
  cases playback.timer <;> cases playback.waiter <;> rfl

/-- An interruption leaves nothing under way. -/
theorem Linked.interrupt
    (linked : Linked playback schedule) :
    (playback.interrupt schedule).2.Quiet := by
  have timeline := interrupt_timeline playback schedule
  constructor
  · intro timer member
    rw [timeline] at member
    cases held : playback.timer with
    | none =>
      rw [held] at member
      exact linked.own timer member
    | some order =>
      rw [held] at member
      obtain ⟨earlier, inside, same⟩ := Timeline.exists_of_mem_cancel member
      rw [same]
      exact linked.own earlier inside
  · rw [timeline]
    cases held : playback.timer with
    | none => exact linked.idle held
    | some order =>
      obtain ⟨timer, alone, named, _⟩ := linked.armed order held
      rw [Timeline.cancel_waiting, alone]
      simp [named]
  · intro number
    cases held : playback.waiter with
    | none =>
      rw [(interrupt_outcomes playback schedule).2 held]
      intro isOpen
      have awaited := (linked.opened number).mp isOpen
      rw [held] at awaited
      cases awaited
    | some waiter =>
      rw [(interrupt_outcomes playback schedule).1 waiter held]
      refine Schedule.settle_closed ?_ number
      intro other isOpen
      have awaited := (linked.opened other).mp isOpen
      rw [held] at awaited
      exact (Option.some.inj awaited).symm

/-- A movement that begins on a clock on which nothing is under way is linked to it. -/
theorem Linked.startMovement
    (quiet : schedule.Quiet)
    (timer : playback.timer = none)
    (duration : Int)
    {ending : Ending}
    (phase : playback.phase = ending.phase) :
    Linked (playback.startMovement 0 duration ending schedule).1.1
      (playback.startMovement 0 duration ending schedule).1.2 := by
  have opened := quiet.opened
  unfold Playback.startMovement
  cases Binary64.nearest? duration with
  | none =>
    constructor
    · exact quiet.own
    · exact fun _ => quiet.still
    · intro order held
      have unheld : playback.timer = some order := held
      rw [timer] at unheld
      cases unheld
    · exact opened
    · change playback.phase.isMoving = true
      rw [phase, Ending.isMoving_phase]
  | some delay =>
    have waiting := Timeline.later_waiting_perm schedule.timeline delay
      ⟨0, schedule.outcomes.length, ending⟩
    rw [quiet.still] at waiting
    constructor
    · intro held member
      rcases Timeline.mem_later_queue.mp member with rfl | inside
      · rfl
      · exact quiet.own held inside
    · intro held
      cases held
    · intro order held
      refine ⟨_, List.perm_singleton.mp waiting, ?_, rfl⟩
      exact Option.some.inj held
    · exact opened
    · change playback.phase.isMoving = true
      rw [phase, Ending.isMoving_phase]

/-- Every command keeps a graphic and its clock linked. -/
theorem Linked.run
    (linked : Linked playback schedule)
    (command : Command) :
    Linked (playback.run 0 schedule command).1.1 (playback.run 0 schedule command).1.2 := by
  cases linked.course command with
  | spares _ _ spares =>
    rw [spares.schedule]
    constructor
    · exact linked.own
    · rw [spares.timer]
      exact linked.idle
    · rw [spares.timer, spares.waiter]
      exact linked.armed
    · rw [spares.waiter]
      exact linked.opened
    · rw [spares.phase, spares.waiter]
      exact linked.moving
  | rests _ _ rests =>
    refine Linked.of_quiet ?_ rests.timer rests.waiter rests.phase
    rw [rests.schedule]
    exact linked.interrupt
  | begins begun _ _ begins =>
    obtain ⟨entering, timer, phase, result⟩ := begins
    rw [result]
    exact Linked.startMovement linked.interrupt timer begun.1 phase

/-- What holds of the clock, of the clock after an interruption and of the clock with a movement
that begins then holds of the clock after every command. -/
theorem Linked.run_schedule_induction
    {motive : Schedule -> Prop}
    (linked : Linked playback schedule)
    (start : motive schedule)
    (interrupted : motive (playback.interrupt schedule).2)
    (begins : ∀ (entering : Playback) (duration : Int) (ending : Ending),
      motive (entering.startMovement 0 duration ending (playback.interrupt schedule).2).1.2)
    (command : Command) : motive (playback.run 0 schedule command).1.2 := by
  cases linked.course command with
  | spares _ _ spares =>
    rw [spares.schedule]
    exact start
  | rests _ _ rests =>
    rw [rests.schedule]
    exact interrupted
  | begins begun _ _ has =>
    obtain ⟨entering, _, _, result⟩ := has
    rw [result]
    exact begins entering begun.1 begun.2

/-- The timer that fires is the one that the graphic holds. -/
theorem Linked.of_fires
    (linked : Linked playback schedule)
    {timer : Timer Cue}
    {others : List (Timer Cue)}
    (first : schedule.timeline.queue = timer :: others)
    (live : timer.cancelled = false)
    (limit : Timeline.Limit) :
    playback.timer = some timer.order ∧ playback.waiter = some timer.action.waiter ∧
      (schedule.timeline.taken limit timer).waiting = [] := by
  have perm := Timeline.taken_waiting_perm first limit
  rw [live] at perm
  cases held : playback.timer with
  | none =>
    rw [linked.idle held] at perm
    exact absurd perm.length_eq (by simp)
  | some order =>
    obtain ⟨entry, alone, named, awaited⟩ := linked.armed order held
    rw [alone] at perm
    have single := List.perm_singleton.mp perm.symm
    simp only [Bool.false_eq_true, if_false, List.cons.injEq] at single
    obtain ⟨rfl, nothing⟩ := single
    exact ⟨congrArg some named.symm, awaited, nothing⟩

/-- A timer that was cancelled is taken without effect on what still has to fire. -/
theorem Linked.waiting_of_cancelled
    (linked : Linked playback schedule)
    {timer : Timer Cue}
    {others : List (Timer Cue)}
    (first : schedule.timeline.queue = timer :: others)
    (gone : timer.cancelled = true)
    (limit : Timeline.Limit) :
    (schedule.timeline.taken limit timer).waiting = schedule.timeline.waiting := by
  have perm := Timeline.taken_waiting_perm first limit
  rw [gone, if_pos rfl] at perm
  cases held : playback.timer with
  | none =>
    rw [linked.idle held] at perm ⊢
    exact List.perm_nil.mp perm.symm
  | some order =>
    obtain ⟨entry, alone, _⟩ := linked.armed order held
    rw [alone] at perm ⊢
    exact List.perm_singleton.mp perm.symm

/-- Only the timers that still have to fire matter for the link. -/
theorem Linked.withTimeline
    (linked : Linked playback schedule)
    {timeline : Timeline Cue}
    (own : ∀ timer ∈ timeline.queue, timer.action.graphic = 0)
    (same : timeline.waiting = schedule.timeline.waiting) :
    Linked playback { schedule with timeline := timeline } where
  own := own
  idle := fun free => same.trans (linked.idle free)
  armed := fun order held => by
    obtain ⟨timer, alone, rest⟩ := linked.armed order held
    exact ⟨timer, same.trans alone, rest⟩
  opened := linked.opened
  moving := linked.moving

theorem Linked.taken_own
    (linked : Linked playback schedule)
    {timer : Timer Cue}
    {others : List (Timer Cue)}
    (first : schedule.timeline.queue = timer :: others)
    (limit : Timeline.Limit) :
    ∀ entry ∈ (schedule.timeline.taken limit timer).queue, entry.action.graphic = 0 := by
  intro entry member
  refine linked.own entry ?_
  rw [first]
  exact List.mem_cons_of_mem _ ((Timeline.taken_queue_perm first limit).mem_iff.mp member)

/-- The end of the movement under way leaves nothing under way. -/
theorem Linked.settle_quiet
    (linked : Linked playback schedule)
    {timer : Timer Cue}
    {others : List (Timer Cue)}
    (first : schedule.timeline.queue = timer :: others)
    (live : timer.cancelled = false)
    (limit : Timeline.Limit) :
    (({ schedule with timeline := schedule.timeline.taken limit timer } : Schedule).settle
      timer.action.waiter .completed).Quiet := by
  obtain ⟨_, awaited, nothing⟩ := linked.of_fires first live limit
  constructor
  · exact linked.taken_own first limit
  · exact nothing
  · refine Schedule.settle_closed ?_
    intro number isOpen
    have waiting := (linked.opened number).mp isOpen
    rw [awaited] at waiting
    exact (Option.some.inj waiting).symm

end Playback

namespace Rehearsal

variable {rehearsal : Rehearsal}

theorem take_of_cancelled
    {timer : Timer Cue}
    (gone : timer.cancelled = true)
    (limit : Timeline.Limit) :
    rehearsal.take limit timer =
      { rehearsal with
        schedule := { rehearsal.schedule with
          timeline := rehearsal.schedule.timeline.taken limit timer } } := by
  unfold take
  rw [if_pos gone]

/-- A timer that fires ends the movement under way. -/
theorem take_of_fires
    (linked : rehearsal.playback.Linked rehearsal.schedule)
    {timer : Timer Cue}
    {others : List (Timer Cue)}
    (first : rehearsal.schedule.timeline.queue = timer :: others)
    (live : timer.cancelled = false)
    (limit : Timeline.Limit) :
    rehearsal.take limit timer =
      { rehearsal with
        playback := rehearsal.playback.ended timer.action.ending
        schedule := ({ rehearsal.schedule with
          timeline := rehearsal.schedule.timeline.taken limit timer } : Schedule).settle
            timer.action.waiter .completed } := by
  obtain ⟨_, awaited, _⟩ := linked.of_fires first live limit
  unfold take
  rw [if_neg (ne_true_of_eq_false live), Playback.finish_eq awaited]

/-- Taking a timer keeps a graphic and its clock linked. -/
theorem linked_take
    (linked : rehearsal.playback.Linked rehearsal.schedule)
    {timer : Timer Cue}
    {others : List (Timer Cue)}
    (first : rehearsal.schedule.timeline.queue = timer :: others)
    (limit : Timeline.Limit) :
    (rehearsal.take limit timer).playback.Linked (rehearsal.take limit timer).schedule := by
  cases live : timer.cancelled with
  | true =>
    rw [take_of_cancelled live]
    exact linked.withTimeline (linked.taken_own first limit)
      (linked.waiting_of_cancelled first live limit)
  | false =>
    rw [take_of_fires linked first live]
    obtain ⟨timer, waiter, phase⟩ := rehearsal.playback.ended_rests timer.action.ending
    exact Playback.Linked.of_quiet (linked.settle_quiet first live limit) timer waiter phase

/-- The clock after a timer was taken, cancelled or not. -/
theorem take_timeline
    (linked : rehearsal.playback.Linked rehearsal.schedule)
    {timer : Timer Cue}
    {others : List (Timer Cue)}
    (first : rehearsal.schedule.timeline.queue = timer :: others)
    (limit : Timeline.Limit) :
    (rehearsal.take limit timer).schedule.timeline =
      rehearsal.schedule.timeline.taken limit timer := by
  cases live : timer.cancelled with
  | true => rw [take_of_cancelled live]
  | false =>
    rw [take_of_fires linked first live]
    rfl

theorem linked_setClock
    (linked : rehearsal.playback.Linked rehearsal.schedule)
    (now : Binary64) :
    (rehearsal.setClock now).playback.Linked (rehearsal.setClock now).schedule :=
  linked.withTimeline linked.own rfl

theorem linked_opening
    (id : String)
    (elements : List Element)
    (settings : Option AnimationSettings) :
    (opening id elements settings).playback.Linked (opening id elements settings).schedule := by
  refine Playback.Linked.of_quiet ⟨?_, rfl, ?_⟩ rfl rfl rfl
  · intro timer member
    cases member
  · intro waiter isOpen
    cases isOpen

end Rehearsal
end BroadcastGraphics
