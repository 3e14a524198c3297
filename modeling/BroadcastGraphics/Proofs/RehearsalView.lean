import BroadcastGraphics.Proofs.MovementFate
import BroadcastGraphics.Proofs.SingleTimer
import BroadcastGraphics.Proofs.WholeTime

/-!
# Views of rehearsals

What can be seen of a rehearsal are the appearance of its graphic, the answers to its commands and
the outcomes of those that it handed out.  A view keeps nothing but these and the time that is left
of the movement under way, and steps are carried out on views alone.

As long as the clock reads whole milliseconds below `2 ^ 53`, a rehearsal that shows a view answers
every step as the view does, and it shows the view after the step.  So nothing that the view does
not keep can ever be seen: timers that were cancelled, the reading of the clock, numbers of timers
and completions.
-/

namespace BroadcastGraphics

/-- What is heard of an answer at once: its outcome, or that it has none yet. -/
def Completion.heard : Completion -> Except Fault (Option Outcome)
  | .settled outcome => .ok (some outcome)
  | .waiting _ => .ok none
  | .failed fault => .error fault

namespace Playback

/-! ## Appearances -/

/-- The graphic without what it holds of its movements. -/
def appearance (playback : Playback) : Playback :=
  { playback with startedAt := none, timersStarted := 0, timer := none, waiter := none }

theorem appearance_ended
    (playback : Playback)
    (ending : Ending) :
    (playback.ended ending).appearance = playback.appearance.ended ending := by
  cases ending <;> rfl

theorem movement?_appearance
    (playback : Playback)
    (command : Command) :
    playback.appearance.movement? command = playback.movement? command := by
  cases command <;> rfl

variable (playback : Playback) (schedule : Schedule)

@[simp] theorem appearance_settings : playback.appearance.settings = playback.settings :=
  rfl

@[simp] theorem appearance_isVisible : playback.appearance.isVisible = playback.isVisible :=
  rfl

theorem appearance_posed
    (pose : Pose) :
    (playback.posed pose).appearance = playback.appearance.posed pose :=
  rfl

theorem appearance_refreshed :
    playback.refreshed.appearance = playback.appearance.refreshed := by
  unfold refreshed
  rw [appearance_isVisible]
  split <;> rfl

/-- Two results of a command look the same, and the same is heard of them. -/
def Shown (result other : (Playback × Schedule) × Completion) : Prop :=
  result.1.1.appearance = other.1.1.appearance ∧ result.2.heard = other.2.heard

theorem startMovement_shown
    {first second : Playback}
    (same : first.appearance = second.appearance)
    (duration : Int)
    (ending : Ending)
    (other : Schedule) :
    Shown (first.startMovement 0 duration ending schedule)
      (second.startMovement 0 duration ending other) := by
  unfold startMovement
  cases Binary64.nearest? duration with
  | none => exact ⟨same, rfl⟩
  | some delay => exact ⟨same, rfl⟩

theorem play_shown
    (skip : Bool) :
    Shown (playback.play 0 skip schedule) (playback.appearance.play 0 skip {}) := by
  unfold play
  by_cases disposed : playback.phase = .disposed
  · rw [if_pos disposed, if_pos (show playback.appearance.phase = .disposed from disposed)]
    exact ⟨rfl, rfl⟩
  · rw [if_neg disposed, if_neg (show ¬playback.appearance.phase = .disposed from disposed)]
    cases skip with
    | true =>
      simp only [if_true]
      refine ⟨?_, rfl⟩
      rw [appearance_posed, appearance_posed]
      congr 1
    | false =>
      simp only [Bool.false_eq_true, if_false, interrupt_settings, appearance_settings]
      refine startMovement_shown _ ?_ _ _ _
      rw [appearance_posed, appearance_posed, appearance_posed, appearance_posed]
      congr 2

theorem stop_shown
    (skip : Bool) :
    Shown (playback.stop 0 skip schedule) (playback.appearance.stop 0 skip {}) := by
  unfold stop
  by_cases disposed : playback.phase = .disposed
  · rw [if_pos disposed, if_pos (show playback.appearance.phase = .disposed from disposed)]
    exact ⟨rfl, rfl⟩
  · rw [if_neg disposed, if_neg (show ¬playback.appearance.phase = .disposed from disposed)]
    simp only [interrupt_isVisible]
    rw [appearance_isVisible]
    cases playback.isVisible with
    | false =>
      simp only [Bool.not_false, if_true]
      exact ⟨rfl, rfl⟩
    | true =>
      cases skip with
      | true =>
        simp only [Bool.not_true, Bool.false_eq_true, if_false, if_true]
        exact ⟨rfl, rfl⟩
      | false =>
        simp only [Bool.not_true, Bool.false_eq_true, if_false, interrupt_settings,
          appearance_settings]
        refine startMovement_shown _ ?_ _ _ _
        rw [appearance_posed, appearance_posed]
        congr 1

theorem update_shown
    (data : Json) :
    Shown (playback.update data schedule) (playback.appearance.update data {}) := by
  unfold update
  by_cases disposed : playback.phase = .disposed
  · rw [if_pos disposed, if_pos (show playback.appearance.phase = .disposed from disposed)]
    exact ⟨rfl, rfl⟩
  · rw [if_neg disposed, if_neg (show ¬playback.appearance.phase = .disposed from disposed)]
    have kept : playback.appearance.data = playback.data := rfl
    rw [kept]
    generalize (if data.isTruthy then Json.putMembers playback.data data
      else (playback.data, .ok ())) = written
    obtain ⟨members, written⟩ := written
    cases written with
    | error fault => exact ⟨rfl, rfl⟩
    | ok _ =>
      refine ⟨?_, rfl⟩
      change Playback.appearance (refreshed _) = Playback.appearance (refreshed _)
      rw [appearance_refreshed, appearance_refreshed]
      rfl

/-- A command does the same to a graphic and to its appearance, whatever the clock holds. -/
theorem run_shown
    (command : Command) :
    Shown (playback.run 0 schedule command) (playback.appearance.run 0 {} command) := by
  cases command with
  | load => exact ⟨rfl, rfl⟩
  | dispose => exact ⟨rfl, rfl⟩
  | play skip => exact play_shown playback schedule skip
  | stop skip => exact stop_shown playback schedule skip
  | update data => exact update_shown playback schedule data
  | replaceContent elements settings =>
    refine ⟨?_, rfl⟩
    change Playback.appearance (refreshed _) = Playback.appearance (refreshed _)
    rw [appearance_refreshed, appearance_refreshed]
    rfl
  | custom action =>
    rw [run_custom, run_custom]
    unfold custom
    split
    · exact play_shown playback schedule false
    · split
      · exact stop_shown playback schedule false
      · exact ⟨rfl, rfl⟩

end Playback

namespace Rehearsal

/-! ## Views -/

/-- A graphic with the milliseconds left of its movement and how that ends, and outcomes handed
out. -/
structure View where
  graphic : Playback
  left : Option (Int × Ending) := none
  outcomes : List (Option Outcome) := []

/-- The milliseconds that a movement takes on the clock, if the clock can measure it. -/
def countdown (movement : Int × Ending) : Option (Int × Ending) :=
  (Binary64.nearest? movement.1).bind fun delay =>
    delay.atLeastZero.whole?.map fun milliseconds => (milliseconds, movement.2)

/-- An outcome that is settled unless it was settled before. -/
def closed (outcome : Outcome) (settled : Option Outcome) : Option Outcome :=
  some (settled.getD outcome)

/-- The outcome that a command hands out. -/
def announced (command : Playback.Command) : Except Fault (Option Outcome) -> List (Option Outcome)
  | .ok outcome => if hasCompletion command then [outcome] else []
  | .error _ => []

/-- The reply to a command of which something is heard. -/
def replyTo (command : Playback.Command) (outcome : Option Outcome) : Reply :=
  if hasCompletion command then .outcome outcome else .nothing

namespace View

/-- Carry out a command. -/
def perform (view : View) (command : Playback.Command) : View × Except Fault Reply :=
  let result := view.graphic.run 0 {} command
  let outcomes :=
    if command.interrupts then view.outcomes.map (closed .superseded) else view.outcomes
  ({  graphic := result.1.1.appearance
      left := if command.interrupts then (view.graphic.movement? command).bind countdown
        else view.left
      outcomes := outcomes ++ announced command result.2.heard },
    result.2.heard.map (replyTo command))

/-- Let some milliseconds pass and count the movements that come to their end. -/
def wait (view : View) (milliseconds : Int) : View × Nat :=
  match view.left with
  | none => (view, 0)
  | some (left, ending) =>
      if left ≤ milliseconds then
        (⟨view.graphic.ended ending, none, view.outcomes.map (closed .completed)⟩, 1)
      else ({ view with left := some (left - milliseconds, ending) }, 0)

end View

/-! ## Spans of steps -/

/-- The whole milliseconds by which a step moves the clock on; a command does not move it. -/
def Step.span? : Step -> Option Nat
  | .command _ => some 0
  | .advance span =>
      match span.measured with
      | .ok measured =>
          measured.whole?.bind fun milliseconds =>
            if 0 ≤ milliseconds then some milliseconds.toNat else none
      | .error _ => none
  | .runAll => none

/-- The whole milliseconds by which the steps of a list move the clock on in all. -/
def elapsed? : List Step -> Option Nat
  | [] => some 0
  | step :: rest => step.span?.bind fun span => (elapsed? rest).map fun later => span + later

theorem exists_measured
    {given : Span}
    {span : Nat}
    (moves : (Step.advance given).span? = some span) :
    ∃ measured, given.measured = .ok measured ∧ measured.whole? = some (span : Int) := by
  unfold Step.span? at moves
  cases known : given.measured with
  | error fault =>
    simp only [known] at moves
    cases moves
  | ok measured =>
    simp only [known] at moves
    obtain ⟨milliseconds, whole, counted⟩ := Option.bind_eq_some_iff.mp moves
    refine ⟨measured, rfl, ?_⟩
    split at counted
    · rename_i onward
      cases counted
      rw [whole, Int.toNat_of_nonneg onward]
    · cases counted

/-- Carry out a step on a view. -/
def View.step (view : View) : Step -> View × Except Fault Reply
  | .command command => view.perform command
  | move => ((view.wait (move.span?.getD 0)).1, .ok (.count (view.wait (move.span?.getD 0)).2))

/-- The view after the steps of a list. -/
def View.run (view : View) : List Step -> View
  | [] => view
  | step :: rest => (view.step step).1.run rest

/-- The answers of a view to the steps of a list. -/
def View.replies (view : View) : List Step -> List (Except Fault Reply)
  | [] => []
  | step :: rest => (view.step step).2 :: (view.step step).1.replies rest

/-- The answers of a rehearsal to the steps of a list. -/
def replies (rehearsal : Rehearsal) : List Step -> List (Except Fault Reply)
  | [] => []
  | step :: rest => (rehearsal.step step).2 :: (rehearsal.step step).1.replies rest

/-! ## Rehearsals that show views -/

/-- What is left of the movement under way on a clock that reads some time. -/
def Remains (timeline : Timeline Cue) (now : Int) : Option (Int × Ending) -> Prop
  | none => timeline.waiting = []
  | some (left, ending) => ∃ timer, timeline.waiting = [timer] ∧ timer.action.ending = ending ∧
      timer.due.StandsFor (now + left)

/-- A rehearsal whose clock reads some time shows a view, as far as the commands are concerned
that come after some number of them. -/
structure Shows (passed : Nat) (now : Int) (rehearsal : Rehearsal) (view : View) : Prop where
  coherent : ∃ latest, Coherent latest rehearsal
  orderly : rehearsal.schedule.timeline.Orderly
  clock : rehearsal.schedule.timeline.now.whole? = some now
  graphic : rehearsal.playback.appearance = view.graphic
  left : Remains rehearsal.schedule.timeline now view.left
  counted : passed ≤ rehearsal.completions.length
  outcomes : rehearsal.outcomes.drop passed = view.outcomes

variable {rehearsal start after : Rehearsal} {passed : Nat} {now : Int} {view : View}

theorem Shows.linked
    (shows : Shows passed now rehearsal view) :
    rehearsal.playback.Linked rehearsal.schedule := by
  obtain ⟨_, coherent⟩ := shows.coherent
  exact coherent.linked

theorem Shows.known
    (shows : Shows passed now rehearsal view) :
    Known rehearsal.schedule rehearsal.completions := by
  obtain ⟨_, coherent⟩ := shows.coherent
  exact coherent.known

theorem Shows.coherent_step
    (shows : Shows passed now rehearsal view)
    (step : Step) :
    ∃ latest, Coherent latest (rehearsal.step step).1 := by
  obtain ⟨_, coherent⟩ := shows.coherent
  exact ⟨_, coherent.step step⟩

theorem outcome?_congr
    {schedule other : Schedule}
    (same : other.outcomes = schedule.outcomes)
    (completion : Completion) :
    completion.outcome? other = completion.outcome? schedule := by
  cases completion with
  | settled outcome => rfl
  | failed fault => rfl
  | waiting waiter =>
    change (other.outcomes[waiter]?).join = (schedule.outcomes[waiter]?).join
    rw [same]

/-- Settling the completion that the graphic waits for closes everything that was open. -/
theorem outcome?_settled
    (linked : rehearsal.playback.Linked rehearsal.schedule)
    {waiter : Nat}
    (awaited : rehearsal.playback.waiter = some waiter)
    (known : Known rehearsal.schedule rehearsal.completions)
    {outcome : Outcome}
    {later : Schedule}
    (settled : later.outcomes = (rehearsal.schedule.settle waiter outcome).outcomes)
    {completion : Completion}
    (handed : completion ∈ rehearsal.completions) :
    completion.outcome? later = closed outcome (completion.outcome? rehearsal.schedule) := by
  rcases known completion handed with ⟨answer, rfl⟩ | ⟨number, inside, rfl⟩
  · rfl
  · have found : rehearsal.schedule.outcomes[number]? =
        some rehearsal.schedule.outcomes[number] := List.getElem?_eq_getElem inside
    change (later.outcomes[number]?).join =
      closed outcome (rehearsal.schedule.outcomes[number]?).join
    rw [settled, Schedule.outcomes_settle, found]
    unfold closed
    simp only [Option.map_some, Option.join_some]
    split
    · rfl
    · rename_i other
      cases answer : rehearsal.schedule.outcomes[number] with
      | some _ => rfl
      | none =>
        rw [answer] at found
        have isOpen := (linked.opened number).mp found
        rw [awaited] at isOpen
        exact absurd (Option.some.inj isOpen) other

/-- An interruption closes everything that was open. -/
theorem outcome?_interrupt
    (linked : rehearsal.playback.Linked rehearsal.schedule)
    (known : Known rehearsal.schedule rehearsal.completions)
    {completion : Completion}
    (handed : completion ∈ rehearsal.completions) :
    completion.outcome? (rehearsal.playback.interrupt rehearsal.schedule).2 =
      closed .superseded (completion.outcome? rehearsal.schedule) := by
  obtain ⟨settles, spares⟩ := Playback.interrupt_outcomes rehearsal.playback rehearsal.schedule
  cases awaited : rehearsal.playback.waiter with
  | some waiter => exact outcome?_settled linked awaited known (settles waiter awaited) handed
  | none =>
    rcases known completion handed with ⟨answer, rfl⟩ | ⟨number, inside, rfl⟩
    · rfl
    · have found : rehearsal.schedule.outcomes[number]? =
          some rehearsal.schedule.outcomes[number] := List.getElem?_eq_getElem inside
      change ((rehearsal.playback.interrupt rehearsal.schedule).2.outcomes[number]?).join =
        closed .superseded (rehearsal.schedule.outcomes[number]?).join
      rw [spares awaited, found]
      cases answer : rehearsal.schedule.outcomes[number] with
      | some _ => rfl
      | none =>
        rw [answer] at found
        have isOpen := (linked.opened number).mp found
        rw [awaited] at isOpen
        cases isOpen

/-! ## Commands -/

/-- The completion of a movement that has just begun is open. -/
theorem outcome?_startMovement
    (playback : Playback)
    (schedule : Schedule)
    (duration : Int)
    (ending : Ending)
    {waiter : Nat}
    (waits : (playback.startMovement 0 duration ending schedule).2 = .waiting waiter) :
    (playback.startMovement 0 duration ending schedule).1.2.outcome? waiter = none := by
  unfold Playback.startMovement at waits ⊢
  cases measured : Binary64.nearest? duration with
  | none =>
    rw [measured] at waits
    cases waits
  | some delay =>
    rw [measured] at waits
    have same : schedule.outcomes.length = waiter := Completion.waiting.inj waits
    subst same
    change ((schedule.outcomes ++ [none])[schedule.outcomes.length]?).join = none
    simp

theorem outcomes_startMovement
    (playback : Playback)
    (schedule : Schedule)
    (duration : Int)
    (ending : Ending) :
    (playback.startMovement 0 duration ending schedule).1.2.outcomes =
      schedule.outcomes ++ [none] := by
  unfold Playback.startMovement
  cases Binary64.nearest? duration <;> rfl

/-- What a command leaves of the clock and of the outcomes handed out before it. -/
structure Follows (rehearsal : Rehearsal) (command : Playback.Command)
    (result : (Playback × Schedule) × Completion) : Prop where
  outcomes : ∀ completion ∈ rehearsal.completions, completion.outcome? result.1.2 =
    if command.interrupts then closed .superseded (completion.outcome? rehearsal.schedule)
    else completion.outcome? rehearsal.schedule
  isOpen : ∀ waiter, result.2 = .waiting waiter -> result.1.2.outcome? waiter = none

theorem run_follows
    (linked : rehearsal.playback.Linked rehearsal.schedule)
    (known : Known rehearsal.schedule rehearsal.completions)
    (command : Playback.Command) :
    Follows rehearsal command (rehearsal.playback.run 0 rehearsal.schedule command) := by
  cases linked.course command with
  | spares harmless _ spares =>
    constructor
    · intro completion handed
      rw [spares.schedule, harmless, if_neg Bool.false_ne_true]
    · intro waiter waits
      exact absurd waits (spares.completion waiter)
  | rests interrupting _ rests =>
    obtain ⟨outcome, settled⟩ := rests.completion
    constructor
    · intro completion handed
      rw [rests.schedule, interrupting, if_pos rfl]
      exact outcome?_interrupt linked known handed
    · intro waiter waits
      rw [settled] at waits
      cases waits
  | begins begun interrupting _ begins =>
    obtain ⟨entering, _, _, result⟩ := begins
    have knownBefore : Known (rehearsal.playback.interrupt rehearsal.schedule).2
        rehearsal.completions := by
      refine known.mono ?_
      rw [length_outcomes_interrupt]
    rw [result]
    constructor
    · intro completion handed
      rw [outcome?_grown (outcomes_startMovement _ _ _ _) knownBefore handed, interrupting,
        if_pos rfl]
      exact outcome?_interrupt linked known handed
    · intro waiter waits
      exact outcome?_startMovement _ _ _ _ waits

theorem map_outcome?_kept
    {command : Playback.Command}
    {answer : Completion}
    {schedule : Schedule}
    (isOpen : ∀ waiter, answer = .waiting waiter -> schedule.outcome? waiter = none) :
    (kept command answer).map (fun completion => completion.outcome? schedule) =
      announced command answer.heard := by
  unfold announced
  cases answer with
  | failed fault => rfl
  | settled outcome =>
    unfold kept Completion.heard
    simp only
    split <;> rfl
  | waiting waiter =>
    have unsettled : (Completion.waiting waiter).outcome? schedule = none := isOpen waiter rfl
    unfold kept Completion.heard
    simp only
    split
    · rw [List.map_singleton, unsettled]
    · rfl

/-- The outcomes handed out after a command. -/
theorem outcomes_perform
    (linked : rehearsal.playback.Linked rehearsal.schedule)
    (known : Known rehearsal.schedule rehearsal.completions)
    (command : Playback.Command) :
    (rehearsal.perform command).1.outcomes =
      (if command.interrupts then rehearsal.outcomes.map (closed .superseded)
        else rehearsal.outcomes) ++
        announced command (rehearsal.playback.run 0 rehearsal.schedule command).2.heard := by
  have follows := run_follows linked known command
  rw [perform_eq]
  unfold outcomes
  rw [List.map_append, map_outcome?_kept follows.isOpen]
  congr 1
  rw [List.map_congr_left follows.outcomes]
  split
  · rw [List.map_map]
    rfl
  · rfl

/-- The reply to a command says what is heard of the answer. -/
theorem reply_perform
    (linked : rehearsal.playback.Linked rehearsal.schedule)
    (known : Known rehearsal.schedule rehearsal.completions)
    (command : Playback.Command) :
    (rehearsal.perform command).2 =
      (rehearsal.playback.run 0 rehearsal.schedule command).2.heard.map (replyTo command) := by
  have follows := run_follows linked known command
  unfold perform
  generalize rehearsal.playback.run 0 rehearsal.schedule command = result at follows ⊢
  obtain ⟨⟨playback, schedule⟩, answer⟩ := result
  unfold replyTo
  cases answer with
  | failed fault => rfl
  | settled outcome =>
    simp only [Completion.heard, Except.map]
    split <;> rfl
  | waiting waiter =>
    have unsettled : (Completion.waiting waiter).outcome? schedule = none :=
      follows.isOpen waiter rfl
    simp only [Completion.heard, Except.map, unsettled]
    split <;> rfl

theorem startMovement_now
    (playback : Playback)
    (schedule : Schedule)
    (duration : Int)
    (ending : Ending) :
    (playback.startMovement 0 duration ending schedule).1.2.timeline.now =
      schedule.timeline.now := by
  unfold Playback.startMovement
  cases Binary64.nearest? duration <;> rfl

theorem run_now
    (linked : rehearsal.playback.Linked rehearsal.schedule)
    (command : Playback.Command) :
    (rehearsal.playback.run 0 rehearsal.schedule command).1.2.timeline.now =
      rehearsal.schedule.timeline.now := by
  have interrupted := (interrupt_clock rehearsal.playback rehearsal.schedule).1
  refine linked.run_schedule_induction
    (motive := fun schedule => schedule.timeline.now = rehearsal.schedule.timeline.now)
    rfl interrupted ?_ command
  intro entering duration ending
  exact (startMovement_now _ _ _ _).trans interrupted

theorem interrupt_orderly
    (orderly : rehearsal.schedule.timeline.Orderly) :
    (rehearsal.playback.interrupt rehearsal.schedule).2.timeline.Orderly := by
  rw [Playback.interrupt_timeline]
  split
  · exact orderly.cancel _
  · exact orderly

/-- A clock that has not failed is orderly after every command. -/
theorem run_orderly
    (linked : rehearsal.playback.Linked rehearsal.schedule)
    (orderly : rehearsal.schedule.timeline.Orderly)
    (working : rehearsal.schedule.timeline.now ≠ .nan)
    (command : Playback.Command) :
    (rehearsal.playback.run 0 rehearsal.schedule command).1.2.timeline.Orderly := by
  have interrupted := interrupt_orderly orderly
  refine linked.run_schedule_induction (motive := fun schedule => schedule.timeline.Orderly)
    orderly interrupted ?_ command
  intro entering duration ending
  unfold Playback.startMovement
  cases measured : Binary64.nearest? duration with
  | none => exact interrupted
  | some delay =>
    obtain ⟨rfl, _⟩ := Binary64.nearest?_eq_some measured
    obtain ⟨count, whole⟩ :=
      Binary64.exists_whole?_atLeastZero (Binary64.nearest?_finite measured)
    refine interrupted.later ?_ _
    unfold Timeline.dueAfter
    rw [(interrupt_clock rehearsal.playback rehearsal.schedule).1]
    exact Binary64.add_ne_nan working (Binary64.isFinite_of_whole? whole)

/-- What is left after the beginning of a movement is its duration. -/
theorem remains_startMovement
    {playback : Playback}
    {schedule : Schedule}
    (quiet : schedule.Quiet)
    (clock : schedule.timeline.now.whole? = some now)
    (notBefore : -2 ^ 53 ≤ now)
    (movement : Int × Ending) :
    Remains (playback.startMovement 0 movement.1 movement.2 schedule).1.2.timeline now
      (countdown movement) := by
  unfold Playback.startMovement countdown
  cases measured : Binary64.nearest? movement.1 with
  | none => exact quiet.still
  | some delay =>
    obtain ⟨rfl, _⟩ := Binary64.nearest?_eq_some measured
    obtain ⟨count, whole⟩ :=
      Binary64.exists_whole?_atLeastZero (Binary64.nearest?_finite measured)
    have stands : (schedule.timeline.dueAfter (Binary64.ofInt movement.1)).StandsFor
        (now + count) :=
      Binary64.standsFor_add clock whole notBefore
    have waiting := Timeline.later_waiting_perm schedule.timeline (Binary64.ofInt movement.1)
      ⟨0, schedule.outcomes.length, movement.2⟩
    rw [quiet.still] at waiting
    rw [Option.bind_some, whole, Option.map_some]
    exact ⟨_, List.perm_singleton.mp waiting, rfl, stands⟩

theorem remains_run
    (linked : rehearsal.playback.Linked rehearsal.schedule)
    {left : Option (Int × Ending)}
    (remains : Remains rehearsal.schedule.timeline now left)
    (clock : rehearsal.schedule.timeline.now.whole? = some now)
    (notBefore : -2 ^ 53 ≤ now)
    (command : Playback.Command) :
    Remains (rehearsal.playback.run 0 rehearsal.schedule command).1.2.timeline now
      (if command.interrupts then (rehearsal.playback.movement? command).bind countdown
        else left) := by
  cases linked.course command with
  | spares harmless _ spares =>
    rw [spares.schedule, harmless]
    exact remains
  | rests interrupting movement rests =>
    rw [rests.schedule, interrupting, if_pos rfl, movement, Option.bind_none]
    exact linked.interrupt.still
  | begins begun interrupting movement begins =>
    obtain ⟨entering, _, _, result⟩ := begins
    rw [result, interrupting, if_pos rfl, movement, Option.bind_some]
    refine remains_startMovement linked.interrupt ?_ notBefore begun
    rw [(interrupt_clock rehearsal.playback rehearsal.schedule).1]
    exact clock

/-- A command on a rehearsal is the command on its view. -/
theorem Shows.perform
    (shows : Shows passed now rehearsal view)
    (notBefore : -2 ^ 53 ≤ now)
    (command : Playback.Command) :
    Shows passed now (rehearsal.perform command).1 (view.perform command).1 ∧
      (rehearsal.perform command).2 = (view.perform command).2 := by
  obtain ⟨same, heard⟩ := Playback.run_shown rehearsal.playback rehearsal.schedule command
  rw [shows.graphic] at same heard
  have movement := rehearsal.playback.movement?_appearance command
  rw [shows.graphic] at movement
  have working : rehearsal.schedule.timeline.now ≠ .nan := by
    intro failed
    have clock := shows.clock
    rw [failed] at clock
    cases clock
  have outcomes := outcomes_perform shows.linked shows.known command
  have length : rehearsal.outcomes.length = rehearsal.completions.length := List.length_map _
  refine ⟨⟨shows.coherent_step (.command command), ?_, ?_, ?_, ?_, ?_, ?_⟩, ?_⟩
  · rw [perform_eq]
    exact run_orderly shows.linked shows.orderly working command
  · rw [perform_eq]
    exact (congrArg Binary64.whole? (run_now shows.linked command)).trans shows.clock
  · rw [perform_eq]
    unfold View.perform
    exact same
  · rw [perform_eq]
    unfold View.perform
    rw [movement]
    exact remains_run shows.linked shows.left shows.clock notBefore command
  · rw [perform_eq]
    exact Nat.le_trans shows.counted (List.length_append ▸ Nat.le_add_right _ _)
  · unfold View.perform
    rw [outcomes, heard, List.drop_append_of_le_length]
    · rw [← shows.outcomes]
      split
      · rw [List.map_drop]
      · rfl
    · have counted := shows.counted
      split
      · rw [List.length_map, length]
        exact counted
      · rw [length]
        exact counted
  · unfold View.perform
    rw [reply_perform shows.linked shows.known, heard]

/-! ## Moves of the clock -/

theorem count_advance
    (rehearsal : Rehearsal)
    {span : Span}
    {measured : Binary64}
    (known : span.measured = .ok measured) :
    ∃ count, (rehearsal.step (.advance span)).2 = .ok (.count count) ∧
      count + rehearsal.schedule.timeline.firings.length =
        (rehearsal.step (.advance span)).1.schedule.timeline.firings.length := by
  have silent : ∀ timer world, (Troupe.finish timer world).1.firings = world.1.firings := by
    rintro timer ⟨timeline, graphics, outcomes⟩
    unfold Troupe.finish
    simp only
    cases graphics[timer.action.graphic]? with
    | none => rfl
    | some playback =>
      unfold Playback.finish
      simp only
      split <;> rfl
  have unstopped : ∀ state, Troupe.neverStopped state = false := fun _ => rfl
  have counts := @Timeline.fireDue_count _ _ _ _
    (.upTo (rehearsal.schedule.timeline.now.add measured)) silent unstopped
    rehearsal.schedule.timeline.queue.length rehearsal.troupe.world
  rw [step_advance rehearsal known]
  refine ⟨_, ?_, counts⟩
  simp only [step, known]
  rfl

/-- A view on which nothing comes to its end within some milliseconds. -/
theorem View.wait_unmoved
    {milliseconds : Int}
    (early : ∀ left ending, view.left = some (left, ending) -> milliseconds < left) :
    view.wait milliseconds =
      ({ view with
          left := view.left.map fun movement => (movement.1 - milliseconds, movement.2) }, 0) := by
  unfold View.wait
  cases remaining : view.left with
  | none =>
    cases view
    cases remaining
    rfl
  | some movement =>
    obtain ⟨left, ending⟩ := movement
    simp only
    rw [if_neg (Int.not_le.mpr (early left ending remaining))]
    rfl

/-- A view on which a movement comes to its end within some milliseconds. -/
theorem View.wait_ended
    {milliseconds left : Int}
    {ending : Ending}
    (remaining : view.left = some (left, ending))
    (late : left ≤ milliseconds) :
    view.wait milliseconds =
      (⟨view.graphic.ended ending, none, view.outcomes.map (closed .completed)⟩, 1) := by
  unfold View.wait
  rw [remaining]
  exact if_pos late

/-- What is left of a movement gets less as time passes. -/
theorem Remains.elapse
    {timeline later : Timeline Cue}
    {left : Option (Int × Ending)}
    (remains : Remains timeline now left)
    (waiting : later.waiting = timeline.waiting)
    (milliseconds : Int) :
    Remains later (now + milliseconds)
      (left.map fun movement => (movement.1 - milliseconds, movement.2)) := by
  cases left with
  | none => exact waiting.trans remains
  | some movement =>
    obtain ⟨left, ending⟩ := movement
    obtain ⟨timer, alone, ends, due⟩ := remains
    refine ⟨timer, waiting.trans alone, ends, ?_⟩
    have sum : now + milliseconds + (left - milliseconds) = now + left := by omega
    rw [sum]
    exact due

/-- The timer that still has to fire is the one whose movement is left. -/
theorem Remains.of_waiting
    {timeline : Timeline Cue}
    {left : Option (Int × Ending)}
    (remains : Remains timeline now left)
    {timer : Timer Cue}
    (alone : timeline.waiting = [timer]) :
    ∃ milliseconds, left = some (milliseconds, timer.action.ending) ∧
      timer.due.StandsFor (now + milliseconds) := by
  cases left with
  | none =>
    have nothing : timeline.waiting = [] := remains
    rw [alone] at nothing
    cases nothing
  | some movement =>
    obtain ⟨milliseconds, ending⟩ := movement
    obtain ⟨other, found, ends, due⟩ := remains
    rw [alone] at found
    cases List.singleton_inj.mp found
    exact ⟨milliseconds, by rw [ends], due⟩

/-- Letting whole milliseconds pass on the clock is letting them pass on the view. -/
theorem Shows.advance
    (shows : Shows passed now rehearsal view)
    (notBefore : -2 ^ 53 ≤ now)
    {given : Span}
    {span : Nat}
    (moves : (Step.advance given).span? = some span)
    (small : now + span < 2 ^ 53) :
    Shows passed (now + span) (rehearsal.step (.advance given)).1 (view.wait span).1 ∧
      (rehearsal.step (.advance given)).2 = .ok (.count (view.wait span).2) := by
  obtain ⟨measured, known, whole⟩ := exists_measured moves
  have clock := Binary64.whole?_add shows.clock whole (by omega)
  obtain ⟨count, replied, counts⟩ := count_advance rehearsal known
  have coherent := shows.coherent_step (.advance given)
  have completions : (rehearsal.step (.advance given)).1.completions = rehearsal.completions := by
    rw [step_advance rehearsal known]
    rfl
  rw [replied]
  rw [step_advance rehearsal known] at counts coherent completions ⊢
  generalize target : rehearsal.schedule.timeline.now.add measured = time at *
  obtain ⟨inOrder, cases⟩ := InOrder.takeDue ⟨shows.linked, shows.orderly⟩ (.upTo time)
  generalize moved : rehearsal.takeDue (.upTo time) = after at *
  have orderly : (after.setClock time).schedule.timeline.Orderly :=
    ⟨inOrder.orderly.proper, inOrder.orderly.ordered⟩
  have handed : passed ≤ (after.setClock time).completions.length := by
    rw [completions]
    exact shows.counted
  rcases cases with ⟨unmoved, refused⟩ | ⟨timer, admitted, expired⟩
  · have early : ∀ left ending, view.left = some (left, ending) -> (span : Int) < left := by
      intro left ending remaining
      have remains := shows.left
      rw [remaining] at remains
      obtain ⟨timer, alone, _, due⟩ := remains
      have late := mt (due.le_iff clock small).mpr
        (ne_true_of_eq_false (refused timer (alone ▸ List.mem_singleton_self timer)))
      omega
    have unfired : count = 0 := by
      change count + _ = after.schedule.timeline.firings.length at counts
      rw [unmoved.firings] at counts
      omega
    rw [View.wait_unmoved early, unfired]
    refine ⟨⟨coherent, orderly, clock, ?_, ?_, handed, ?_⟩, rfl⟩
    · change after.playback.appearance = view.graphic
      rw [unmoved.playback]
      exact shows.graphic
    · exact Remains.elapse shows.left unmoved.waiting span
    · rw [← shows.outcomes]
      unfold Rehearsal.outcomes
      rw [completions]
      congr 1
      exact List.map_congr_left fun completion _ => outcome?_congr unmoved.outcomes completion
  · obtain ⟨left, remaining, due⟩ := Remains.of_waiting shows.left expired.alone
    have late := (due.le_iff clock small).mp admitted
    have fired : count = 1 := by
      change count + _ = after.schedule.timeline.firings.length at counts
      rw [expired.fired] at counts
      omega
    rw [View.wait_ended remaining (by omega), fired]
    refine ⟨⟨coherent, orderly, clock, ?_, expired.waiting, handed, ?_⟩, rfl⟩
    · change after.playback.appearance = view.graphic.ended timer.action.ending
      rw [expired.playback, Playback.appearance_ended, shows.graphic]
    · rw [← shows.outcomes]
      unfold Rehearsal.outcomes
      rw [completions, ← List.map_drop, ← List.map_drop, List.map_map]
      refine List.map_congr_left fun completion handed => ?_
      exact outcome?_settled shows.linked expired.awaited shows.known expired.outcomes
        (List.mem_of_mem_drop handed)

/-! ## Runs -/

/-- A step of a rehearsal is the step of its view. -/
theorem Shows.step
    (shows : Shows passed now rehearsal view)
    (notBefore : -2 ^ 53 ≤ now)
    {step : Step}
    {span : Nat}
    (moves : step.span? = some span)
    (small : now + span < 2 ^ 53) :
    Shows passed (now + span) (rehearsal.step step).1 (view.step step).1 ∧
      (rehearsal.step step).2 = (view.step step).2 := by
  cases step with
  | command command =>
    cases moves
    rw [Int.natCast_zero, Int.add_zero]
    exact shows.perform notBefore command
  | advance given =>
    have result := shows.advance notBefore moves small
    unfold View.step
    simp only [moves, Option.getD_some]
    exact result
  | runAll => cases moves

/-- A run of a rehearsal is the run of its view. -/
theorem Shows.run
    (shows : Shows passed now rehearsal view)
    (notBefore : -2 ^ 53 ≤ now)
    {script : List Step}
    {span : Nat}
    (moves : elapsed? script = some span)
    (small : now + span < 2 ^ 53) :
    Shows passed (now + span) (rehearsal.run script) (view.run script) ∧
      rehearsal.replies script = view.replies script := by
  induction script generalizing rehearsal view now span with
  | nil =>
    cases moves
    rw [Int.natCast_zero, Int.add_zero]
    exact ⟨shows, rfl⟩
  | cons step rest ih =>
    obtain ⟨first, firstMoves, others⟩ := Option.bind_eq_some_iff.mp moves
    obtain ⟨later, laterMoves, sum⟩ := Option.map_eq_some_iff.mp others
    subst sum
    rw [Int.natCast_add] at small ⊢
    obtain ⟨next, answered⟩ := shows.step notBefore firstMoves (by omega)
    obtain ⟨final, replies⟩ := ih next (by omega) laterMoves (by omega)
    rw [Int.add_assoc] at final
    refine ⟨final, ?_⟩
    unfold Rehearsal.replies View.replies
    rw [answered, replies]

/-! ## What is seen -/

/-- A movement is under way exactly if some of it is left. -/
theorem Shows.isMoving
    (shows : Shows passed now rehearsal view) :
    rehearsal.playback.isMoving rehearsal.schedule = view.left.isSome := by
  unfold Playback.isMoving Timeline.isPending
  have remains := shows.left
  cases held : rehearsal.playback.timer with
  | none =>
    cases remaining : view.left with
    | none => rfl
    | some movement =>
      rw [remaining] at remains
      obtain ⟨timer, alone, _⟩ := remains
      rw [shows.linked.idle held] at alone
      cases alone
  | some order =>
    obtain ⟨timer, alone, named, _⟩ := shows.linked.armed order held
    obtain ⟨left, remaining, _⟩ := Remains.of_waiting remains alone
    rw [alone, remaining]
    simp [named]

/-- What can be seen of the graphic. -/
def View.members (view : View) : Table Json :=
  [("tag", .str view.graphic.tag), ("state", .str view.graphic.phase.name),
    ("visible", .bool view.graphic.isVisible), ("transform", .str view.graphic.pose.transform),
    ("transition", .str view.graphic.pose.transition),
    ("pendingTimers", .int (if view.left.isSome then 1 else 0)),
    ("data", .obj view.graphic.data), ("html", .str view.graphic.markup)]

theorem Shows.members
    (shows : Shows passed now rehearsal view) :
    rehearsal.playback.members rehearsal.schedule = view.members := by
  unfold Playback.members View.members
  rw [shows.isMoving, ← shows.graphic]
  rfl

theorem Shows.history
    (shows : Shows passed now rehearsal view) :
    rehearsal.playback.history = view.graphic.history := by
  rw [← shows.graphic]
  rfl

end Rehearsal
end BroadcastGraphics
