import BroadcastGraphics.Proofs.ReturningRuns
import BroadcastGraphics.Proofs.TimedQueue

/-!
# Diaries of timers

A diary keeps what happens to the timers of a clock, each entry with the reading of the clock: which
timers are set and when they will be due, which are cancelled and which fire.  Callbacks set and
cancel timers of the clock that fires them, so a run over timers takes them from a queue that changes
under it.

What carries all that can be read in a diary is that every timer that still has to fire is ripe: it
was set, it was not cancelled, and all timers that have fired come before it.  Setting and cancelling
timers keep this, and so does taking the first timer of the queue.
-/

namespace BroadcastGraphics
namespace Timeline

variable {α σ : Type}

/-- What is asked of a clock: to set a timer some whole milliseconds from now, or to cancel one. -/
inductive Request (α : Type) where
  | later (delay : Int) (action : α)
  | cancel (order : Nat)

/-- What happens to a timer. -/
inductive Event where
  | set (order : Nat) (due : Binary64)
  | cancel (order : Nat)
  | fire (order : Nat) (due : Binary64)
  deriving DecidableEq

/-- The number of the timer to which something happens. -/
def Event.order : Event -> Nat
  | set order _ => order
  | cancel order => order
  | fire order _ => order

/-- What happened to a timer, with the reading of the clock. -/
structure Entry where
  time : Binary64
  event : Event
  deriving DecidableEq

/-- A clock with what lies beside it and the diary of its timers. -/
abbrev Life (α σ : Type) : Type :=
  Timeline α × σ × List Entry

/-- A callback sees its timer, the clock and what lies beside it.  It asks some things of the clock
one after another and changes what lies beside it. -/
abbrev Callback (α σ : Type) : Type :=
  Timer α -> Timeline α -> σ -> List (Request α) × σ

namespace Life

/-- The life in whose diary something has been written. -/
def write (life : Life α σ) (event : Event) : Life α σ :=
  (life.1, life.2.1, life.2.2 ++ [⟨life.1.now, event⟩])

/-- Set a timer; a delay that cannot be measured sets none. -/
def later (life : Life α σ) (action : α) : Except Fault Binary64 -> Life α σ
  | .error _ => life
  | .ok delay =>
      let told := life.write (.set life.1.nextOrder (life.1.dueAfter delay))
      (told.1.later delay action, told.2)

/-- Cancel a timer, which has to be one that was set. -/
def cancel (life : Life α σ) (order : Nat) : Life α σ :=
  if order < life.1.nextOrder then
    let told := life.write (.cancel order)
    (told.1.cancel order, told.2)
  else life

/-- Do what is asked of the clock. -/
def ask (life : Life α σ) : Request α -> Life α σ
  | .later delay action => Life.later life action (Span.integer delay).delay
  | .cancel order => Life.cancel life order

/-- Fire a timer. -/
def fire (callback : Callback α σ) (timer : Timer α) (life : Life α σ) : Life α σ :=
  let told := life.write (.fire timer.order timer.due)
  let (requests, state) := callback timer told.1 told.2.1
  requests.foldl ask (told.1, state, told.2.2)

end Life

/-- A clock that was started, of which things were asked and that was moved on, in any order.  What
lies beside it can change at any time. -/
inductive Lived (callback : Callback α σ) : Life α σ -> Prop where
  | start (state : σ) : Lived callback ({}, state, [])
  | resume {life : Life α σ} (state : σ) : Lived callback life ->
      Lived callback (life.1, state, life.2.2)
  | ask {life : Life α σ} (request : Request α) : Lived callback life ->
      Lived callback (life.ask request)
  | advance {life after : Life α σ} {milliseconds count : Nat} : Lived callback life ->
      Moves (Life.fire callback) milliseconds life count after -> Lived callback after
  | runAll {life after : Life α σ} {count : Nat} : Lived callback life ->
      RunsOut (Life.fire callback) life count after -> Lived callback after

/-! ## Diaries -/

/-- A timer can fire after what was written so far: the clock reads its due time, it was set for that
time and not cancelled, and all timers that have fired come before it, by their due times and those
due at one time as they were set. -/
structure Ripe (earlier : List Entry) (time : Binary64) (order : Nat) (due : Binary64) : Prop where
  onTime : time = due
  set : ∃ entry ∈ earlier, entry.event = .set order due
  live : ∀ entry ∈ earlier, entry.event ≠ .cancel order
  next : ∀ entry ∈ earlier, ∀ other otherDue, entry.event = .fire other otherDue ->
    other ≠ order ∧ (otherDue.lt due = true ∨ otherDue = due ∧ other < order)

/-- An entry can follow what was written so far. -/
structure Follows (earlier : List Entry) (entry : Entry) : Prop where
  onward : ∀ other ∈ earlier, other.time.le entry.time = true
  ripe : ∀ order due, entry.event = .fire order due -> Ripe earlier entry.time order due

/-- Every entry can follow those before it. -/
def Chronicle (diary : List Entry) : Prop :=
  ∀ earlier entry later, diary = earlier ++ entry :: later -> Follows earlier entry

theorem Chronicle.write
    {diary : List Entry}
    (chronicle : Chronicle diary)
    {last : Entry}
    (follows : Follows diary last) : Chronicle (diary ++ [last]) := by
  intro earlier entry later split
  rcases List.eq_nil_or_concat later with rfl | ⟨between, final, rfl⟩
  · obtain ⟨rfl, same⟩ := List.append_inj' split rfl
    cases same
    exact follows
  · rw [List.concat_eq_append, ← List.cons_append, ← List.append_assoc] at split
    exact chronicle earlier entry between (List.append_inj' split rfl).1

theorem Chronicle.onTime
    {diary : List Entry}
    (chronicle : Chronicle diary)
    {entry : Entry}
    (member : entry ∈ diary)
    {order : Nat}
    {due : Binary64}
    (fired : entry.event = .fire order due) : entry.time = due := by
  obtain ⟨earlier, later, split⟩ := List.append_of_mem member
  exact ((chronicle earlier entry later split).ripe order due fired).onTime

/-- What does not cancel a timer and fires no timer that comes after it leaves it ripe. -/
theorem Ripe.write
    {earlier : List Entry}
    {time due : Binary64}
    {order : Nat}
    (ripe : Ripe earlier time order due)
    {entry : Entry}
    (live : entry.event ≠ .cancel order)
    (next : ∀ other otherDue, entry.event = .fire other otherDue ->
      other ≠ order ∧ (otherDue.lt due = true ∨ otherDue = due ∧ other < order)) :
    Ripe (earlier ++ [entry]) time order due where
  onTime := ripe.onTime
  set := by
    obtain ⟨setting, member, event⟩ := ripe.set
    exact ⟨setting, List.mem_append_left _ member, event⟩
  live := fun other member => by
    rcases List.mem_append.mp member with old | new
    · exact ripe.live other old
    · rw [List.mem_singleton.mp new]
      exact live
  next := fun other member => by
    rcases List.mem_append.mp member with old | new
    · exact ripe.next other old
    · rw [List.mem_singleton.mp new]
      exact next

/-! ## What holds at all times -/

/-- The timer set with a number and a due time still has to fire, was cancelled or has fired. -/
def Accounted (life : Life α σ) (order : Nat) (due : Binary64) : Prop :=
  (∃ timer ∈ life.1.waiting, timer.order = order ∧ timer.due = due) ∨
    (∃ entry ∈ life.2.2, entry.event = .cancel order) ∨
      ∃ entry ∈ life.2.2, entry.event = .fire order due

/-- The clock has not passed any timer of the queue, and every timer that still has to fire is
ripe. -/
structure Steady (life : Life α σ) : Prop where
  timed : Timed life.1
  ahead : ∀ timer ∈ life.1.queue, life.1.now.place ≤ timer.due.place
  distinct : life.1.waiting.Pairwise fun first second => first.order ≠ second.order
  chronicle : Chronicle life.2.2
  past : ∀ entry ∈ life.2.2, entry.time.IsReading ∧ entry.time.place ≤ life.1.now.place
  numbered : ∀ entry ∈ life.2.2, entry.event.order < life.1.nextOrder
  ripens : ∀ timer ∈ life.1.waiting, Ripe life.2.2 timer.due timer.order timer.due
  accounted : ∀ entry ∈ life.2.2, ∀ order due, entry.event = .set order due ->
    Accounted life order due

variable {life : Life α σ}

theorem steady_start (state : σ) : Steady (({} : Timeline α), state, []) where
  timed := timed_empty
  ahead := fun _ none => nomatch none
  distinct := List.Pairwise.nil
  chronicle := fun _ _ _ split => absurd split (by simp)
  past := fun _ none => nomatch none
  numbered := fun _ none => nomatch none
  ripens := fun _ none => nomatch none
  accounted := fun _ none => nomatch none

theorem Steady.resume
    (steady : Steady life)
    (state : σ) : Steady (life.1, state, life.2.2) where
  timed := steady.timed
  ahead := steady.ahead
  distinct := steady.distinct
  chronicle := steady.chronicle
  past := steady.past
  numbered := steady.numbered
  ripens := steady.ripens
  accounted := steady.accounted

/-- What happens now or later can be written into a diary. -/
theorem Steady.write
    (steady : Steady life)
    {now : Binary64}
    (reading : now.IsReading)
    (onward : life.1.now.place ≤ now.place)
    (event : Event)
    (ripe : ∀ order due, event = .fire order due -> Ripe life.2.2 now order due) :
    Chronicle (life.2.2 ++ [⟨now, event⟩]) ∧ ∀ entry ∈ life.2.2 ++ [⟨now, event⟩],
      entry.time.IsReading ∧ entry.time.place ≤ now.place := by
  constructor
  · refine steady.chronicle.write ⟨fun other member => ?_, ripe⟩
    obtain ⟨past, before⟩ := steady.past other member
    exact (past.le_iff reading).mpr (Nat.le_trans before onward)
  · intro entry member
    rcases List.mem_append.mp member with old | new
    · obtain ⟨past, before⟩ := steady.past entry old
      exact ⟨past, Nat.le_trans before onward⟩
    · rw [List.mem_singleton.mp new]
      exact ⟨reading, Nat.le_refl _⟩

/-- A timer that fired comes before one that is due from now on and set from now on. -/
theorem Steady.fired_before
    (steady : Steady life)
    {due : Binary64}
    (reading : due.IsReading)
    (onward : life.1.now.place ≤ due.place)
    {entry : Entry}
    (member : entry ∈ life.2.2)
    {other : Nat}
    {otherDue : Binary64}
    (fired : entry.event = .fire other otherDue) :
    other ≠ life.1.nextOrder ∧
      (otherDue.lt due = true ∨ otherDue = due ∧ other < life.1.nextOrder) := by
  have numbered := steady.numbered entry member
  obtain ⟨past, before⟩ := steady.past entry member
  rw [steady.chronicle.onTime member fired] at past before
  rw [fired] at numbered
  have earlier : other < life.1.nextOrder := numbered
  refine ⟨Nat.ne_of_lt earlier, ?_⟩
  rcases Nat.lt_or_eq_of_le (Nat.le_trans before onward) with sooner | same
  · exact Or.inl ((past.lt_iff reading).mpr sooner)
  · exact Or.inr ⟨past.eq_of_place_eq reading same, earlier⟩

/-- What was accounted for stays so while no timer is lost. -/
theorem Accounted.mono
    {after : Life α σ}
    {order : Nat}
    {due : Binary64}
    (accounted : Accounted life order due)
    (written : ∀ entry ∈ life.2.2, entry ∈ after.2.2)
    (kept : ∀ timer ∈ life.1.waiting, timer ∈ after.1.waiting ∨
      (∃ entry ∈ after.2.2, entry.event = .cancel timer.order) ∨
        ∃ entry ∈ after.2.2, entry.event = .fire timer.order timer.due) :
    Accounted after order due := by
  rcases accounted with ⟨timer, member, rfl, rfl⟩ | ⟨entry, member, event⟩ | ⟨entry, member, event⟩
  · rcases kept timer member with still | gone
    · exact Or.inl ⟨timer, still, rfl, rfl⟩
    · exact Or.inr gone
  · exact Or.inr (Or.inl ⟨entry, written entry member, event⟩)
  · exact Or.inr (Or.inr ⟨entry, written entry member, event⟩)

/-! ## Steps -/

theorem Steady.later
    (steady : Steady life)
    {delay : Binary64}
    (proper : delay ≠ .nan)
    (action : α) :
    Steady (life.1.later delay action,
      (life.write (.set life.1.nextOrder (life.1.dueAfter delay))).2) := by
  obtain ⟨reading, notBefore⟩ := steady.timed.dueAfter proper
  obtain ⟨chronicle, past⟩ := steady.write steady.timed.now (Nat.le_refl _)
    (.set life.1.nextOrder (life.1.dueAfter delay)) (fun _ _ fires => nomatch fires)
  have waiting := later_waiting_perm life.1 delay action
  have setNow : (⟨life.1.now, .set life.1.nextOrder (life.1.dueAfter delay)⟩ : Entry) ∈
      life.2.2 ++ [⟨life.1.now, .set life.1.nextOrder (life.1.dueAfter delay)⟩] :=
    List.mem_append_right _ List.mem_cons_self
  refine ⟨steady.timed.later proper action, ?_, ?_, chronicle, past, ?_, ?_, ?_⟩
  · intro timer member
    rcases mem_later_queue.mp member with rfl | old
    · exact notBefore
    · exact steady.ahead timer old
  · refine (waiting.pairwise_iff Ne.symm).mpr (List.pairwise_cons.mpr ⟨?_, steady.distinct⟩)
    intro other member
    exact Nat.ne_of_gt (steady.timed.numbered other member)
  · intro entry member
    rcases List.mem_append.mp member with old | new
    · exact Nat.lt_succ_of_lt (steady.numbered entry old)
    · rw [List.mem_singleton.mp new]
      exact Nat.lt_succ_self _
  · intro timer member
    rcases List.mem_cons.mp (waiting.mem_iff.mp member) with rfl | old
    · have fresh (entry : Entry) (member : entry ∈ life.2.2) :
          entry.event ≠ .cancel life.1.nextOrder := fun cancels => by
        have numbered := steady.numbered entry member
        rw [cancels] at numbered
        exact Nat.lt_irrefl _ numbered
      refine ⟨rfl, ⟨_, setNow, rfl⟩, ?_, ?_⟩
      · intro entry member
        rcases List.mem_append.mp member with old | new
        · exact fresh entry old
        · rw [List.mem_singleton.mp new]
          exact fun cancels => nomatch cancels
      · intro entry member other otherDue fired
        rcases List.mem_append.mp member with old | new
        · exact steady.fired_before reading notBefore old fired
        · rw [List.mem_singleton.mp new] at fired
          cases fired
    · exact (steady.ripens timer old).write (fun cancels => nomatch cancels)
        (fun _ _ fires => nomatch fires)
  · intro entry member order due setting
    rcases List.mem_append.mp member with old | new
    · refine (steady.accounted entry old order due setting).mono ?_ ?_
      · exact fun entry member => List.mem_append_left _ member
      · exact fun timer member => Or.inl (waiting.mem_iff.mpr (List.mem_cons_of_mem _ member))
    · rw [List.mem_singleton.mp new] at setting
      cases setting
      exact Or.inl ⟨_, waiting.mem_iff.mpr List.mem_cons_self, rfl, rfl⟩

theorem Steady.cancel
    (steady : Steady life)
    {order : Nat}
    (given : order < life.1.nextOrder) :
    Steady (life.1.cancel order, (life.write (.cancel order)).2) := by
  obtain ⟨chronicle, past⟩ := steady.write steady.timed.now (Nat.le_refl _) (.cancel order)
    (fun _ _ fires => nomatch fires)
  refine ⟨steady.timed.cancel order, ?_, ?_, chronicle, past, ?_, ?_, ?_⟩
  · intro timer member
    obtain ⟨earlier, inside, same⟩ := exists_of_mem_cancel member
    rw [same]
    exact steady.ahead earlier inside
  · rw [cancel_waiting]
    exact steady.distinct.filter _
  · intro entry member
    rcases List.mem_append.mp member with old | new
    · exact steady.numbered entry old
    · rw [List.mem_singleton.mp new]
      exact given
  · intro timer member
    rw [cancel_waiting] at member
    obtain ⟨old, other⟩ := List.mem_filter.mp member
    refine (steady.ripens timer old).write (fun cancels => ?_) (fun _ _ fires => nomatch fires)
    cases cancels
    simp at other
  · intro entry member other due setting
    rcases List.mem_append.mp member with old | new
    · refine (steady.accounted entry old other due setting).mono ?_ ?_
      · exact fun entry member => List.mem_append_left _ member
      · intro timer member
        by_cases same : timer.order = order
        · refine Or.inr (Or.inl ⟨_, List.mem_append_right _ List.mem_cons_self, ?_⟩)
          rw [same]
        · refine Or.inl ?_
          rw [cancel_waiting]
          exact List.mem_filter.mpr ⟨member, bne_iff_ne.mpr same⟩
    · rw [List.mem_singleton.mp new] at setting
      cases setting

theorem Steady.ask
    (steady : Steady life)
    (request : Request α) : Steady (life.ask request) := by
  cases request with
  | later delay action =>
    change Steady (Life.later life action (Span.integer delay).delay)
    cases measured : (Span.integer delay).delay with
    | error fault => exact steady
    | ok delay => exact steady.later (Span.ne_nan_of_delay measured) action
  | cancel order =>
    change Steady (Life.cancel life order)
    unfold Life.cancel
    split
    · rename_i given
      exact steady.cancel given
    · exact steady

section Taking

variable {first : Timer α} {others : List (Timer α)}

/-- The clock reads the due time of every timer that is taken. -/
theorem Steady.reading_eq_due
    (steady : Steady life)
    (front : life.1.queue = first :: others)
    (limit : Limit) : (life.1.taken limit first).now = first.due := by
  have inside : first ∈ life.1.queue := front ▸ List.mem_cons_self
  cases limit with
  | upTo time => rfl
  | everything =>
    exact steady.timed.now.max_eq_right (steady.timed.dues first inside) (steady.ahead first inside)

theorem Steady.ahead_taken
    (steady : Steady life)
    (front : life.1.queue = first :: others)
    (limit : Limit) :
    ∀ timer ∈ (life.1.taken limit first).queue,
      (life.1.taken limit first).now.place ≤ timer.due.place := by
  intro timer member
  rw [steady.reading_eq_due front limit]
  exact steady.timed.first_le front (mem_queue_of_mem_taken front member)

/-- The first timer of a queue comes before any other. -/
theorem Steady.first_before
    (steady : Steady life)
    (front : life.1.queue = first :: others)
    {timer : Timer α}
    (member : timer ∈ life.1.queue)
    (other : first.order ≠ timer.order) :
    first.due.lt timer.due = true ∨ first.due = timer.due ∧ first.order < timer.order := by
  have firstDue := steady.timed.dues first (front ▸ List.mem_cons_self)
  have due := steady.timed.dues timer member
  have ordered := steady.timed.ordered
  have orders := orders_of_readings steady.timed.dues
  rw [front] at ordered orders member
  have notBefore := ordered.not_before_head orders member
  rw [before_eq_false_iff due.order?_eq firstDue.order?_eq] at notBefore
  rcases notBefore with sooner | ⟨same, lower⟩
  · exact Or.inl ((firstDue.lt_iff due).mpr (Int.ofNat_lt.mp sooner))
  · exact Or.inr ⟨firstDue.eq_of_place_eq due (Int.ofNat_inj.mp same),
      Nat.lt_of_le_of_ne lower other⟩

/-- A timer that was cancelled is taken without firing. -/
theorem Steady.dropped
    (steady : Steady life)
    (front : life.1.queue = first :: others)
    (gone : first.cancelled = true)
    (limit : Limit) : Steady (life.1.taken limit first, life.2) := by
  have waiting := taken_waiting_perm front limit
  rw [if_pos gone] at waiting
  have inside : first ∈ life.1.queue := front ▸ List.mem_cons_self
  refine ⟨steady.timed.taken front limit, steady.ahead_taken front limit, ?_, steady.chronicle, ?_,
    steady.numbered, ?_, ?_⟩
  · exact (waiting.pairwise_iff Ne.symm).mp steady.distinct
  · intro entry member
    obtain ⟨past, before⟩ := steady.past entry member
    refine ⟨past, ?_⟩
    rw [steady.reading_eq_due front limit]
    exact Nat.le_trans before (steady.ahead first inside)
  · exact fun timer member => steady.ripens timer (waiting.mem_iff.mpr member)
  · intro entry member order due setting
    refine (steady.accounted entry member order due setting).mono (fun _ still => still) ?_
    exact fun timer member => Or.inl (waiting.mem_iff.mp member)

/-- The first timer of a queue fires when it is taken. -/
theorem Steady.fired
    (steady : Steady life)
    (front : life.1.queue = first :: others)
    (live : first.cancelled = false)
    (limit : Limit) :
    Steady (Life.write (life.1.taken limit first, life.2) (.fire first.order first.due)) := by
  have inside : first ∈ life.1.queue := front ▸ List.mem_cons_self
  have waiting := taken_waiting_perm front limit
  rw [if_neg (ne_true_of_eq_false live)] at waiting
  have firstWaits : first ∈ life.1.waiting := waiting.mem_iff.mpr List.mem_cons_self
  have onTime := steady.reading_eq_due front limit
  have onward : life.1.now.place ≤ (life.1.taken limit first).now.place := by
    rw [onTime]
    exact steady.ahead first inside
  have distinct := List.pairwise_cons.mp ((waiting.pairwise_iff Ne.symm).mp steady.distinct)
  have timed := steady.timed.taken front limit
  obtain ⟨chronicle, past⟩ := steady.write timed.now onward (.fire first.order first.due)
    fun order due fires => by
      cases fires
      rw [onTime]
      exact steady.ripens first firstWaits
  refine ⟨timed, steady.ahead_taken front limit, distinct.2, chronicle, past, ?_, ?_, ?_⟩
  · intro entry member
    rcases List.mem_append.mp member with old | new
    · exact steady.numbered entry old
    · rw [List.mem_singleton.mp new]
      exact steady.timed.numbered first firstWaits
  · intro timer member
    have waits : timer ∈ life.1.waiting := waiting.mem_iff.mpr (List.mem_cons_of_mem _ member)
    have other := distinct.1 timer member
    refine (steady.ripens timer waits).write (fun cancels => nomatch cancels) ?_
    rintro _ _ ⟨⟩
    exact ⟨other, steady.first_before front (mem_queue_of_mem_waiting waits) other⟩
  · intro entry member order due setting
    rcases List.mem_append.mp member with old | new
    · refine (steady.accounted entry old order due setting).mono ?_ ?_
      · exact fun entry member => List.mem_append_left _ member
      · intro timer member
        rcases List.mem_cons.mp (waiting.mem_iff.mp member) with rfl | still
        · exact Or.inr (Or.inr ⟨_, List.mem_append_right _ List.mem_cons_self, rfl⟩)
        · exact Or.inl still
    · rw [List.mem_singleton.mp new] at setting
      cases setting

theorem Steady.requests
    (steady : Steady life)
    (requests : List (Request α)) : Steady (requests.foldl Life.ask life) := by
  induction requests generalizing life with
  | nil => exact steady
  | cons request rest ih => exact ih (steady.ask request)

theorem now_ask (life : Life α σ) (request : Request α) : (life.ask request).1.now = life.1.now := by
  cases request with
  | later delay action =>
    change (Life.later life action (Span.integer delay).delay).1.now = _
    cases (Span.integer delay).delay <;> rfl
  | cancel order =>
    change (Life.cancel life order).1.now = _
    unfold Life.cancel
    split <;> rfl

theorem now_requests
    (requests : List (Request α))
    (life : Life α σ) : (requests.foldl Life.ask life).1.now = life.1.now := by
  induction requests generalizing life with
  | nil => rfl
  | cons request rest ih => exact (ih _).trans (now_ask life request)

/-- What every callback does to timers keeps the life steady, and the clock reads the due time of the
timer that is taken. -/
theorem Steady.turn
    (callback : Callback α σ)
    (steady : Steady life)
    (front : life.1.queue = first :: others)
    (limit : Limit) :
    Steady (Timeline.turn (Life.fire callback) limit first life) ∧
      (Timeline.turn (Life.fire callback) limit first life).1.now = first.due := by
  have onTime := steady.reading_eq_due front limit
  unfold Timeline.turn
  split
  · rename_i gone
    exact ⟨steady.dropped front gone limit, onTime⟩
  · rename_i live
    have fired := steady.fired front (eq_false_of_ne_true live) limit
    unfold Life.fire
    simp only
    refine ⟨(fired.resume _).requests _, ?_⟩
    rw [now_requests]
    exact onTime

end Taking

/-! ## Runs -/

variable {after : Life α σ} {callback : Callback α σ} {count : Nat}

/-- A run over timers keeps the life steady, and it moves the clock on, but not beyond the time up to
which it goes. -/
theorem Steady.returns
    {limit : Limit}
    (steady : Steady life)
    (returns : Returns (Life.fire callback) limit life count after) :
    Steady after ∧ life.1.now.place ≤ after.1.now.place ∧
      ∀ target : Binary64, limit = .upTo target -> target.IsReading ->
        life.1.now.place ≤ target.place -> after.1.now.place ≤ target.place := by
  let Holds : Life α σ -> Prop := fun world =>
    Steady world ∧ life.1.now.place ≤ world.1.now.place ∧
      ∀ target : Binary64, limit = .upTo target -> target.IsReading ->
        life.1.now.place ≤ target.place -> world.1.now.place ≤ target.place
  have turns : ∀ world timer others, Holds world -> world.1.queue = timer :: others ->
      limit.admits timer.due = true ->
        Holds (Timeline.turn (Life.fire callback) limit timer world) := by
    rintro world timer others ⟨steady, onward, within⟩ front admitted
    have inside : timer ∈ world.1.queue := front ▸ List.mem_cons_self
    obtain ⟨steadyAfter, now⟩ := steady.turn callback front limit
    refine ⟨steadyAfter, ?_, ?_⟩
    · rw [now]
      exact Nat.le_trans onward (steady.ahead timer inside)
    · rintro target rfl reading _
      rw [now]
      exact ((steady.timed.dues timer inside).le_iff reading).mp admitted
  obtain ⟨steps, run, _⟩ := returns
  have kept : Holds (fireDue (Life.fire callback) (fun _ => false) limit steps life).2 :=
    fireDue_induction turns steps life ⟨steady, Nat.le_refl _, fun _ _ _ start => start⟩
  rw [run] at kept
  exact kept

/-- The clock can be moved on to a time before which nothing is due. -/
theorem Steady.moved
    (steady : Steady life)
    {target : Binary64}
    (reading : target.IsReading)
    (onward : life.1.now.place ≤ target.place)
    (ends : (Limit.upTo target).Ends life.1) : Steady (life.1.setNow target, life.2) := by
  refine ⟨steady.timed.moved reading ends, ?_, steady.distinct, steady.chronicle, ?_,
    steady.numbered, steady.ripens, steady.accounted⟩
  · intro timer member
    have late := mt ((steady.timed.dues timer member).le_iff reading).mpr
      (ne_true_of_eq_false (steady.timed.orderly.not_admits ends member))
    change target.place ≤ timer.due.place
    omega
  · intro entry member
    obtain ⟨past, before⟩ := steady.past entry member
    exact ⟨past, Nat.le_trans before onward⟩

theorem Steady.moves
    {milliseconds : Nat}
    (steady : Steady life)
    (moves : Moves (Life.fire callback) milliseconds life count after) :
    Steady after ∧ after.1.now = life.1.now.add (.ofInt milliseconds) ∧
      life.1.now.place ≤ after.1.now.place ∧ (Limit.upTo after.1.now).Ends after.1 := by
  obtain ⟨measured, known, advances⟩ := moves
  have span := Span.isSpan_of_measured known
  obtain ⟨rfl, _⟩ := Binary64.nearest?_eq_some (Span.nearest?_of_ofInteger known)
  obtain ⟨last, returns, rfl⟩ := advances_iff.mp advances
  obtain ⟨reading, onward⟩ := steady.timed.now.add span.1
  obtain ⟨steadyLast, _, within⟩ := steady.returns returns
  obtain ⟨_, _, ends⟩ := returns
  exact ⟨steadyLast.moved reading (within _ rfl reading onward) ends, rfl, onward, ends⟩

theorem Steady.runsOut
    (steady : Steady life)
    (runsOut : RunsOut (Life.fire callback) life count after) :
    Steady after ∧ life.1.now.place ≤ after.1.now.place ∧ after.1.queue = [] := by
  have returns : Returns (Life.fire callback) .everything life count after := runsOut
  obtain ⟨steadyAfter, onward, _⟩ := steady.returns returns
  obtain ⟨_, _, ends⟩ := returns
  refine ⟨steadyAfter, onward, ?_⟩
  cases front : after.1.queue with
  | nil => rfl
  | cons timer others => cases ends timer others front

/-- A clock is steady at all times. -/
theorem Lived.steady (lived : Lived callback life) : Steady life := by
  induction lived with
  | start state => exact steady_start state
  | resume state _ ih => exact ih.resume state
  | ask request _ ih => exact ih.ask request
  | advance _ moves ih => exact (ih.moves moves).1
  | runAll _ runsOut ih => exact (ih.runsOut runsOut).1

theorem Lived.requests
    (lived : Lived callback life)
    (requests : List (Request α)) : Lived callback (requests.foldl Life.ask life) := by
  induction requests generalizing life with
  | nil => exact lived
  | cons request rest ih => exact ih (lived.ask request)

/-- The order of timers, over the whole life of a clock and for all callbacks.  A timer fires while
the clock reads its due time, after it was set for that time and not after it was cancelled, and the
timers that have fired by then all come before it, by their due times and those due at one time as
they were set; so none fires twice.  The entries of a diary never go back in time, and no timer is
lost.  Moving the clock on sets it to the sum as it measures it, which is the exact one for whole
milliseconds up to `2 ^ 53`, and leaves no timer that is due by then; firing all timers leaves none.
Neither moves the clock back. -/
theorem timers_fire_in_order
    (lived : Lived callback life) :
    (∀ earlier entry later, life.2.2 = earlier ++ entry :: later ->
        Follows earlier entry ∧ entry.time.le life.1.now = true) ∧
      (∀ entry ∈ life.2.2, ∀ order due, entry.event = .set order due ->
        Accounted life order due) ∧
      (∀ milliseconds count (after : Life α σ),
        Moves (Life.fire callback) milliseconds life count after ->
          after.1.now = life.1.now.add (.ofInt milliseconds) ∧
            life.1.now.le after.1.now = true ∧
            (∀ now : Nat, life.1.now.whole? = some (now : Int) -> now + milliseconds ≤ 2 ^ 53 ->
              after.1.now.whole? = some (now + milliseconds : Int)) ∧
            ∀ timer ∈ after.1.queue, timer.due.le after.1.now = false) ∧
      ∀ count (after : Life α σ), RunsOut (Life.fire callback) life count after ->
        life.1.now.le after.1.now = true ∧ after.1.queue = [] := by
  have steady := lived.steady
  refine ⟨?_, steady.accounted, ?_, ?_⟩
  · intro earlier entry later split
    have member : entry ∈ life.2.2 := by
      rw [split]
      exact List.mem_append_right _ List.mem_cons_self
    obtain ⟨past, before⟩ := steady.past entry member
    exact ⟨steady.chronicle earlier entry later split,
      (past.le_iff steady.timed.now).mpr before⟩
  · intro milliseconds count after moves
    obtain ⟨steadyAfter, reading, onward, ends⟩ := steady.moves moves
    refine ⟨reading, (steady.timed.now.le_iff steadyAfter.timed.now).mpr onward, ?_, ?_⟩
    · intro now whole small
      rw [reading]
      exact Binary64.whole?_add whole (Binary64.whole?_ofInt (by omega)) (by omega)
    · exact fun timer member => steadyAfter.timed.orderly.not_admits ends member
  · intro count after runsOut
    obtain ⟨steadyAfter, onward, empty⟩ := steady.runsOut runsOut
    exact ⟨(steady.timed.now.le_iff steadyAfter.timed.now).mpr onward, empty⟩

/-- A callback whose first timer sets another one, due at once, and cancels the second. -/
def relay : Callback Unit Unit := fun timer _ _ =>
  if timer.order = 0 then ([.later (-5) (), .cancel 1], ()) else ([], ())

/-- A clock with two timers, due after 10 and 20 milliseconds. -/
def relayBegun : Life Unit Unit :=
  [Request.later 10 (), .later 20 ()].foldl Life.ask ({}, (), [])

/-- The clock after 30 milliseconds. -/
def relayEnded : Life Unit Unit :=
  (advance (Life.fire relay) (fun _ => false) 3 (.ofInt (30 : Nat)) relayBegun).2

theorem relay_fires_in_order :
    Lived relay relayBegun ∧ Moves (Life.fire relay) 30 relayBegun 2 relayEnded ∧
      relayBegun.1.now.whole? = some (0 : Nat) ∧ relayEnded.1.now.whole? = some 30 ∧
      relayEnded.2.2.map Entry.event = [.set 0 (.ofInt 10), .set 1 (.ofInt 20),
        .fire 0 (.ofInt 10), .set 2 (.ofInt 10), .cancel 1, .fire 2 (.ofInt 10)] ∧
      ∀ earlier entry later, relayEnded.2.2 = earlier ++ entry :: later -> Follows earlier entry := by
  have begun : Lived relay relayBegun := (Lived.start ()).requests _
  have fired : (advance (Life.fire relay) (fun _ => false) 3 (.ofInt (30 : Nat)) relayBegun).1 =
      2 := by
    decide +kernel
  have empty : relayEnded.1.queue = [] := List.isEmpty_iff.mp (by decide +kernel)
  have run : advance (Life.fire relay) (fun _ => false) 3 (.ofInt (30 : Nat)) relayBegun =
      (2, relayEnded) := by
    unfold relayEnded
    rw [← fired, Prod.mk.eta]
  have moves : Moves (Life.fire relay) 30 relayBegun 2 relayEnded :=
    ⟨_, Span.measured_integer (show 30 ≤ 2 ^ 53 by decide), 3, run,
      fun _ _ front => nomatch empty.symm.trans front⟩
  have whole : relayBegun.1.now.whole? = some (0 : Nat) := by decide +kernel
  obtain ⟨_, exact, _⟩ := ((timers_fire_in_order begun).2.2.1 30 2 relayEnded moves).2
  refine ⟨begun, moves, whole, exact 0 whole (by decide), by decide +kernel, ?_⟩
  exact fun earlier entry later split =>
    ((timers_fire_in_order (begun.advance moves)).1 earlier entry later split).1

/-- Beyond the whole numbers that the clock can count it is not moved on by a millisecond. -/
theorem millisecond_lost_by_clock :
    Lived relay ({ now := .ofInt (2 ^ 53) }, (), []) ∧
      Moves (Life.fire relay) 1 ({ now := .ofInt (2 ^ 53) }, (), []) 0
        ({ now := .ofInt (2 ^ 53) }, (), []) ∧
      (Binary64.ofInt (2 ^ 53)).whole? = some (2 ^ 53) := by
  have reached : Binary64.zero.add (.ofInt (2 ^ 53)) = .ofInt (2 ^ 53) := by decide +kernel
  have stays : (Binary64.ofInt (2 ^ 53)).add (.ofInt 1) = .ofInt (2 ^ 53) := by decide +kernel
  have knownStart : (Span.integer (2 ^ 53 : Nat)).measured = .ok (.ofInt (2 ^ 53)) := by
    decide +kernel
  have known : (Span.integer (1 : Nat)).measured = .ok (.ofInt 1) := by decide +kernel
  have moves : Moves (Life.fire relay) (2 ^ 53) ({}, (), []) 0
      ({ now := .ofInt (2 ^ 53) }, (), []) := by
    rw [moves_iff knownStart, advances_of_empty, reached]
    exact ⟨rfl, rfl⟩
  refine ⟨(Lived.start ()).advance moves, ?_, by decide +kernel⟩
  rw [moves_iff known, advances_of_empty, stays]
  exact ⟨rfl, rfl⟩

end Timeline
end BroadcastGraphics
