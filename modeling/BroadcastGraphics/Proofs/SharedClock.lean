import BroadcastGraphics.Proofs.Movement
import BroadcastGraphics.Proofs.StageContent

/-!
# Graphics that share a clock

Every timer of a shared clock that still has to fire is the one that its graphic holds, and no graphic
has two of them.  A command for a graphic touches only its own timer, and a timer that fires ends only
the movement of its own graphic; so time that passes changes neither the data of a graphic nor whether
it is loaded or disposed of.
-/

namespace BroadcastGraphics

/-- The graphic has been loaded and not been disposed of since. -/
def Phase.isLoaded : Phase -> Bool
  | .unloaded => false
  | .disposed => false
  | _ => true

namespace Phase

variable {phase : Phase}

theorem ne_disposed_of_isLoaded
    (loaded : phase.isLoaded = true) : phase ≠ .disposed := by
  rintro rfl
  cases loaded

theorem isLoaded_of_isShown
    (shown : phase.isShown = true) : phase.isLoaded = true := by
  cases phase <;> first | rfl | cases shown

theorem isLoaded_of_isMoving
    (moving : phase.isMoving = true) : phase.isLoaded = true := by
  cases phase <;> first | rfl | cases moving

end Phase

namespace Playback

/-- What time does not change about a graphic: its data, and whether it is loaded or disposed of. -/
def standing (playback : Playback) : Table Json × Bool × Bool :=
  (playback.data, playback.phase.isLoaded, playback.phase = .disposed)

theorem standing_ended
    {playback : Playback}
    (moving : playback.phase.isMoving = true)
    (ending : Ending) : (playback.ended ending).standing = playback.standing := by
  have loaded := Phase.isLoaded_of_isMoving moving
  unfold standing
  rw [loaded, decide_eq_false (Phase.ne_disposed_of_isLoaded loaded)]
  cases ending <;> rfl

end Playback

namespace Troupe

/-- The graphics and their clock agree on what is under way. -/
structure Linked (troupe : Troupe) : Prop where
  owned : ∀ timer ∈ troupe.schedule.timeline.waiting, ∃ playback,
    troupe.graphic? timer.action.graphic = some playback ∧
      playback.timer = some timer.order ∧ playback.waiter = some timer.action.waiter
  single : (troupe.schedule.timeline.waiting.map fun timer => timer.action.graphic).Nodup
  resting : ∀ {number playback}, troupe.graphic? number = some playback ->
    playback.phase.isMoving = false -> playback.timer = none ∧ playback.waiter = none

section Linked

variable {troupe : Troupe} {number : Nat} {playback : Playback}

theorem graphic?_set
    (present : troupe.graphic? number = some playback)
    (schedule : Schedule)
    (changed : Playback)
    (other : Nat) :
    (⟨schedule, troupe.graphics.set number changed⟩ : Troupe).graphic? other =
      if number = other then some changed else troupe.graphic? other := by
  have inside : number < troupe.graphics.length := (List.getElem?_eq_some_iff.1 present).1
  unfold graphic?
  rw [List.getElem?_set, if_pos inside]

theorem graphics_change
    (present : troupe.graphic? number = some playback)
    (command : Playback -> Schedule -> (Playback × Schedule) × Completion) :
    (troupe.change number command).1 =
      ⟨(command playback troupe.schedule).1.2,
        troupe.graphics.set number (command playback troupe.schedule).1.1⟩ := by
  unfold change
  rw [present]

/-- The timers of a troupe in which a graphic has changed: those of other graphics, and those that the
changed graphic holds. -/
theorem Linked.set
    (linked : troupe.Linked)
    (present : troupe.graphic? number = some playback)
    {schedule : Schedule}
    {changed : Playback}
    (owned : ∀ timer ∈ schedule.timeline.waiting,
      (timer ∈ troupe.schedule.timeline.waiting ∧ timer.action.graphic ≠ number) ∨
        (timer.action.graphic = number ∧ changed.timer = some timer.order ∧
          changed.waiter = some timer.action.waiter))
    (single : (schedule.timeline.waiting.map fun timer => timer.action.graphic).Nodup)
    (resting : changed.phase.isMoving = false -> changed.timer = none ∧ changed.waiter = none) :
    Linked ⟨schedule, troupe.graphics.set number changed⟩ where
  owned timer waits := by
    rw [graphic?_set present]
    rcases owned timer waits with ⟨before, other⟩ | ⟨same, held⟩
    · rw [if_neg (Ne.symm other)]
      exact linked.owned timer before
    · exact ⟨changed, if_pos same.symm, held⟩
  single := single
  resting {other found} isFound rests := by
    rw [graphic?_set present] at isFound
    split at isFound
    · cases isFound
      exact resting rests
    · exact linked.resting isFound rests

/-- The timer that a graphic waits for is the one that it holds. -/
theorem Linked.held_of_waiting
    (linked : troupe.Linked)
    (present : troupe.graphic? number = some playback)
    {timer : Timer Cue}
    (waits : timer ∈ troupe.schedule.timeline.waiting)
    (own : timer.action.graphic = number) :
    playback.timer = some timer.order ∧ playback.waiter = some timer.action.waiter := by
  obtain ⟨owner, found, held⟩ := linked.owned timer waits
  rw [own, present, Option.some.injEq] at found
  exact found ▸ held

/-- Nothing waits for a graphic that does not move. -/
theorem Linked.not_waiting
    (linked : troupe.Linked)
    (present : troupe.graphic? number = some playback)
    (rests : playback.phase.isMoving = false) :
    ∀ timer ∈ troupe.schedule.timeline.waiting, timer.action.graphic ≠ number := by
  intro timer waits own
  obtain ⟨held, _⟩ := linked.held_of_waiting present waits own
  rw [(linked.resting present rests).1] at held
  cases held

theorem Linked.restsWhenDisposed
    (linked : troupe.Linked)
    (present : troupe.graphic? number = some playback) : playback.RestsWhenDisposed :=
  fun disposed => linked.resting present (by rw [disposed]; rfl)

/-! ## Commands -/

/-- An interruption leaves the timers of the other graphics. -/
theorem Linked.interrupt
    (linked : troupe.Linked)
    (present : troupe.graphic? number = some playback) :
    List.Sublist (playback.interrupt troupe.schedule).2.timeline.waiting
        troupe.schedule.timeline.waiting ∧
      ∀ timer ∈ (playback.interrupt troupe.schedule).2.timeline.waiting,
        timer.action.graphic ≠ number := by
  rw [Playback.interrupt_timeline]
  cases held : playback.timer with
  | none =>
    refine ⟨List.Sublist.refl _, fun timer waits own => ?_⟩
    rw [(linked.held_of_waiting present waits own).1] at held
    cases held
  | some order =>
    dsimp only
    rw [Timeline.cancel_waiting]
    refine ⟨List.filter_sublist, fun timer waits own => ?_⟩
    obtain ⟨before, other⟩ := List.mem_filter.1 waits
    rw [(linked.held_of_waiting present before own).1, Option.some.injEq] at held
    rw [held, bne_self_eq_false] at other
    cases other

/-- A graphic that waits for nothing once its movement was interrupted, or only for the end of a
movement without a timer. -/
theorem Linked.interrupted
    (linked : troupe.Linked)
    (present : troupe.graphic? number = some playback)
    {schedule : Schedule}
    (timeline : schedule.timeline = (playback.interrupt troupe.schedule).2.timeline)
    {changed : Playback}
    (resting : changed.phase.isMoving = false -> changed.timer = none ∧ changed.waiter = none) :
    Linked ⟨schedule, troupe.graphics.set number changed⟩ := by
  obtain ⟨fewer, others⟩ := linked.interrupt present
  rw [← timeline] at fewer others
  exact linked.set present (fun timer waits => Or.inl ⟨fewer.subset waits, others timer waits⟩)
    (linked.single.sublist (fewer.map _)) resting

/-- The timer of a movement that begins joins those of the other graphics. -/
theorem Linked.startMovement
    (linked : troupe.Linked)
    (present : troupe.graphic? number = some playback)
    {entering : Playback}
    (moving : entering.phase.isMoving = true)
    (duration : Int)
    (ending : Ending) :
    Linked
      ⟨(entering.startMovement number duration ending (playback.interrupt troupe.schedule).2).1.2,
        troupe.graphics.set number (entering.startMovement number duration ending
          (playback.interrupt troupe.schedule).2).1.1⟩ := by
  have neverRests {rested : Prop} (rests : entering.phase.isMoving = false) : rested := by
    rw [moving] at rests
    cases rests
  unfold Playback.startMovement
  cases Binary64.nearest? duration with
  | none =>
    refine linked.interrupted present ?_ neverRests
    rfl
  | some delay =>
    obtain ⟨fewer, others⟩ := linked.interrupt present
    have joined := Timeline.later_waiting_perm (playback.interrupt troupe.schedule).2.timeline delay
      ⟨number, (playback.interrupt troupe.schedule).2.outcomes.length, ending⟩
    refine linked.set present (fun timer waits => ?_) ?_ neverRests
    · rcases List.mem_cons.1 (joined.mem_iff.1 waits) with new | old
      · rw [new]
        exact Or.inr ⟨rfl, rfl, rfl⟩
      · exact Or.inl ⟨fewer.subset old, others timer old⟩
    · refine ((joined.map _).nodup_iff).2 ?_
      rw [List.map_cons, List.nodup_cons]
      refine ⟨fun again => ?_, linked.single.sublist (fewer.map _)⟩
      obtain ⟨timer, waits, own⟩ := List.mem_map.1 again
      exact others timer waits own

/-- Every command for a graphic keeps graphics and clock linked. -/
theorem Linked.run
    (linked : troupe.Linked)
    (number : Nat)
    (command : Playback.Command) :
    (troupe.change number fun playback schedule =>
      playback.run number schedule command).1.Linked := by
  cases present : troupe.graphic? number with
  | none =>
    unfold change
    rw [present]
    exact linked
  | some playback =>
    rw [graphics_change present]
    cases Playback.course_of_resting number troupe.schedule (linked.restsWhenDisposed present)
        command with
    | spares _ _ spares =>
      rw [spares.schedule]
      refine linked.set present (fun timer waits => ?_) linked.single ?_
      · by_cases own : timer.action.graphic = number
        · rw [spares.timer, spares.waiter]
          exact Or.inr ⟨own, linked.held_of_waiting present waits own⟩
        · exact Or.inl ⟨waits, own⟩
      · rw [spares.phase, spares.timer, spares.waiter]
        exact linked.resting present
    | rests _ _ rests =>
      exact linked.interrupted present (congrArg Schedule.timeline rests.schedule)
        fun _ => ⟨rests.timer, rests.waiter⟩
    | begins begun _ _ begins =>
      obtain ⟨entering, _, phase, result⟩ := begins
      rw [result]
      exact linked.startMovement present (by rw [phase, Ending.isMoving_phase]) begun.1 begun.2

/-- A graphic that comes in without timers changes nothing about what is under way. -/
theorem Linked.add
    (linked : troupe.Linked)
    {newcomer : Playback}
    (timer : newcomer.timer = none)
    (waiter : newcomer.waiter = none) : (troupe.add newcomer).Linked where
  owned entry waits := by
    obtain ⟨owner, found, held⟩ := linked.owned entry waits
    have inside := (List.getElem?_eq_some_iff.1 found).1
    exact ⟨owner, (List.getElem?_append_left inside).trans found, held⟩
  single := linked.single
  resting {number found} isFound rests := by
    rcases Nat.lt_or_ge number troupe.graphics.length with inside | outside
    · have before : troupe.graphic? number = some found :=
        (List.getElem?_append_left inside).symm.trans isFound
      exact linked.resting before rests
    · have last := (List.getElem?_append_right outside).symm.trans isFound
      rw [List.mem_singleton.1 (List.mem_of_getElem? last)]
      exact ⟨timer, waiter⟩

/-! ## Time that passes -/

/-- A timer of a linked troupe that fires ends the movement of its graphic and changes nothing about
the others. -/
theorem Linked.turn
    (linked : troupe.Linked)
    {timer : Timer Cue}
    {others : List (Timer Cue)}
    (first : troupe.schedule.timeline.queue = timer :: others)
    (limit : Timeline.Limit) :
    (ofWorld (Timeline.turn finish limit timer troupe.world)).Linked ∧
      (ofWorld (Timeline.turn finish limit timer troupe.world)).graphics.map Playback.standing =
        troupe.graphics.map Playback.standing := by
  have waiting := Timeline.taken_waiting_perm first limit
  unfold Timeline.turn
  by_cases gone : timer.cancelled = true
  · rw [if_pos gone] at waiting ⊢
    refine ⟨⟨fun entry waits => ?_, ?_, linked.resting⟩, rfl⟩
    · exact linked.owned entry (waiting.mem_iff.2 waits)
    · exact (waiting.map _).nodup_iff.1 linked.single
  · rw [if_neg gone] at waiting ⊢
    obtain ⟨playback, present, held, awaited⟩ :=
      linked.owned timer (waiting.mem_iff.2 List.mem_cons_self)
    obtain ⟨alone, single⟩ :=
      List.nodup_cons.1 ((waiting.map fun entry => entry.action.graphic).nodup_iff.1 linked.single)
    obtain ⟨free, rested, _⟩ := playback.ended_rests timer.action.ending
    have moving : playback.phase.isMoving = true := by
      refine Bool.of_not_eq_false fun rests => ?_
      rw [(linked.resting present rests).1] at held
      cases held
    have fired : ofWorld (finish timer
        (troupe.schedule.timeline.taken limit timer, troupe.graphics, troupe.schedule.outcomes)) =
        ⟨({ troupe.schedule with timeline := troupe.schedule.timeline.taken limit timer } :
            Schedule).settle timer.action.waiter .completed,
          troupe.graphics.set timer.action.graphic (playback.ended timer.action.ending)⟩ := by
      have found : troupe.graphics[timer.action.graphic]? = some playback := present
      unfold finish
      dsimp only
      rw [found]
      dsimp only
      rw [Playback.finish_eq awaited]
      rfl
    refine ⟨?_, ?_⟩
    · refine fired ▸ linked.set present (fun entry waits => Or.inl ⟨?_, fun own => alone ?_⟩) single
        fun _ => ⟨free, rested⟩
      · exact waiting.mem_iff.2 (List.mem_cons_of_mem _ waits)
      · exact List.mem_map.2 ⟨entry, waits, own⟩
    · exact fired ▸ map_set_of_same present (playback.standing_ended moving _)

theorem Linked.setClock
    (linked : troupe.Linked)
    (now : Binary64) :
    Linked { troupe with schedule := { troupe.schedule with
      timeline := { troupe.schedule.timeline with now := now } } } :=
  ⟨linked.owned, linked.single, linked.resting⟩

/-- A move of the clock keeps graphics and clock linked, and changes neither the data of a graphic nor
whether it is loaded or disposed of. -/
theorem Linked.advance
    (linked : troupe.Linked)
    (span : Binary64) :
    (troupe.advance span).1.Linked ∧
      (troupe.advance span).1.graphics.map Playback.standing =
        troupe.graphics.map Playback.standing := by
  let Holds (world : Timeline Cue × List Playback × List (Option Outcome)) : Prop :=
    (ofWorld world).Linked ∧
      (ofWorld world).graphics.map Playback.standing = troupe.graphics.map Playback.standing
  have fired : Holds (Timeline.fireDue finish neverStopped
      (.upTo (troupe.schedule.timeline.now.add span)) troupe.schedule.timeline.queue.length
      troupe.world).2 := by
    refine Timeline.fireDue_induction (fun world timer others holds first _ => ?_) _ _
      ⟨linked, rfl⟩
    obtain ⟨kept, same⟩ := holds.1.turn first _
    exact ⟨kept, same.trans holds.2⟩
  exact ⟨fired.1.setClock _, fired.2⟩

end Linked

end Troupe
end BroadcastGraphics
