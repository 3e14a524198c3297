import BroadcastGraphics.Proofs.ClockReading
import BroadcastGraphics.Proofs.TimelineLoop

/-!
# Queues in the order of time

On a clock that is never moved back the timers of a queue are totally ordered by their due times and
numbers, so the queue is an ordered heap and its first timer is due no later than any other.  The
clock never passes a timer that still has to fire.  Setting, cancelling and taking timers keep this,
and so does moving the clock to a time before which nothing has to fire any more.
-/

namespace BroadcastGraphics
namespace Timeline

variable {α : Type}

/-! ## The order of timers -/

theorem before_iff
    {left right : Timer α}
    {leftPlace rightPlace : Int}
    (leftFound : left.due.order? = some leftPlace)
    (rightFound : right.due.order? = some rightPlace) :
    before left right = true ↔ leftPlace < rightPlace ∨
      leftPlace = rightPlace ∧ left.order < right.order := by
  unfold before
  by_cases same : left.due.sameValue right.due = true
  · rw [if_pos same]
    have places := (Binary64.sameValue_iff_of_order? leftFound rightFound).mp same
    simp [places]
  · rw [if_neg same, Binary64.lt_iff_of_order? leftFound rightFound]
    have places := mt (Binary64.sameValue_iff_of_order? leftFound rightFound).mpr same
    simp [places]

theorem before_eq_false_iff
    {left right : Timer α}
    {leftPlace rightPlace : Int}
    (leftFound : left.due.order? = some leftPlace)
    (rightFound : right.due.order? = some rightPlace) :
    before left right = false ↔ rightPlace < leftPlace ∨
      rightPlace = leftPlace ∧ right.order ≤ left.order := by
  rw [← Bool.not_eq_true, before_iff leftFound rightFound]
  omega

/-- Timers whose due times are no failed results are ordered by `before`. -/
theorem orders_of_proper
    {timers : List (Timer α)}
    (proper : ∀ timer ∈ timers, timer.due ≠ .nan) :
    Heap.Orders before timers where
  asymm := fun first firstIn second secondIn comes => by
    obtain ⟨firstPlace, firstFound⟩ := Binary64.exists_order?_eq (proper first firstIn)
    obtain ⟨secondPlace, secondFound⟩ := Binary64.exists_order?_eq (proper second secondIn)
    rw [before_iff firstFound secondFound] at comes
    rw [before_eq_false_iff secondFound firstFound]
    omega
  trans := fun first firstIn second secondIn third thirdIn lower upper => by
    obtain ⟨firstPlace, firstFound⟩ := Binary64.exists_order?_eq (proper first firstIn)
    obtain ⟨secondPlace, secondFound⟩ := Binary64.exists_order?_eq (proper second secondIn)
    obtain ⟨thirdPlace, thirdFound⟩ := Binary64.exists_order?_eq (proper third thirdIn)
    rw [before_eq_false_iff secondFound firstFound] at lower
    rw [before_eq_false_iff thirdFound secondFound] at upper
    rw [before_eq_false_iff thirdFound firstFound]
    omega

/-- Timers whose due times are readings are ordered by `before`. -/
theorem orders_of_readings
    {timers : List (Timer α)}
    (dues : ∀ timer ∈ timers, timer.due.IsReading) :
    Heap.Orders before timers :=
  orders_of_proper fun timer member => (dues timer member).ne_nan

/-- A change of the items that their order does not see keeps a heap ordered. -/
theorem isOrdered_map
    {timers : List (Timer α)}
    {change : Timer α -> Timer α}
    (blind : ∀ left right, before (change left) (change right) = before left right)
    (ordered : Heap.IsOrdered before timers) :
    Heap.IsOrdered before (timers.map change) := by
  intro place positive
  have kept := ordered place positive
  unfold Heap.isBefore at kept ⊢
  rw [List.getElem?_map, List.getElem?_map]
  cases lowerItem : timers[place]? with
  | none => rfl
  | some lower =>
    cases upperItem : timers[Heap.above place]? with
    | none => rfl
    | some upper =>
      simp only [Option.map_some, blind]
      rw [lowerItem, upperItem] at kept
      exact kept

theorem isOrdered_cancel
    {timeline : Timeline α}
    (ordered : Heap.IsOrdered before timeline.queue)
    (order : Nat) :
    Heap.IsOrdered before (timeline.cancel order).queue := by
  refine isOrdered_map ?_ ordered
  intro left right
  split <;> split <;> rfl

theorem mem_queue_of_mem_taken
    {timeline : Timeline α}
    {first : Timer α}
    {others : List (Timer α)}
    (front : timeline.queue = first :: others)
    {limit : Limit}
    {timer : Timer α}
    (member : timer ∈ (timeline.taken limit first).queue) :
    timer ∈ timeline.queue := by
  rw [front]
  exact List.mem_cons_of_mem first ((taken_queue_perm front limit).mem_iff.mp member)

/-! ## Orderly queues -/

/-- All due times are numbers, and the queue is in their order.  The clock may have been moved back
behind them or on beyond them. -/
structure Orderly (timeline : Timeline α) : Prop where
  proper : ∀ timer ∈ timeline.queue, timer.due ≠ .nan
  ordered : Heap.IsOrdered before timeline.queue

section Orderly

variable {timeline : Timeline α}

theorem orderly_empty : Orderly ({} : Timeline α) where
  proper := fun timer member => by cases member
  ordered := Heap.IsOrdered.nil

theorem Orderly.later
    (orderly : Orderly timeline)
    {delay : Binary64}
    (proper : timeline.dueAfter delay ≠ .nan)
    (action : α) :
    Orderly (timeline.later delay action) := by
  have dues : ∀ timer ∈ (⟨timeline.dueAfter delay, timeline.nextOrder, action, false⟩ : Timer α) ::
      timeline.queue, timer.due ≠ .nan := by
    intro timer member
    rcases List.mem_cons.mp member with rfl | old
    · exact proper
    · exact orderly.proper timer old
  constructor
  · intro timer member
    exact dues timer (List.mem_cons.mpr (mem_later_queue.mp member))
  · exact Heap.IsOrdered.push (orders_of_proper dues) orderly.ordered

theorem Orderly.cancel
    (orderly : Orderly timeline)
    (order : Nat) :
    Orderly (timeline.cancel order) where
  proper := fun timer member => by
    obtain ⟨earlier, inside, same⟩ := exists_of_mem_cancel member
    rw [same]
    exact orderly.proper earlier inside
  ordered := isOrdered_cancel orderly.ordered order

theorem Orderly.taken
    (orderly : Orderly timeline)
    {first : Timer α}
    {others : List (Timer α)}
    (front : timeline.queue = first :: others)
    (limit : Limit) :
    Orderly (timeline.taken limit first) where
  proper := fun timer member => orderly.proper timer (mem_queue_of_mem_taken front member)
  ordered := Heap.IsOrdered.rest (orders_of_proper orderly.proper) orderly.ordered

/-- The first timer of a queue is due no later than any other. -/
theorem Orderly.first_le
    (orderly : Orderly timeline)
    {first : Timer α}
    {others : List (Timer α)}
    (front : timeline.queue = first :: others)
    {timer : Timer α}
    (member : timer ∈ timeline.queue)
    {firstPlace place : Int}
    (firstFound : first.due.order? = some firstPlace)
    (found : timer.due.order? = some place) :
    firstPlace ≤ place := by
  obtain ⟨proper, ordered⟩ := orderly
  rw [front] at ordered proper member
  have later := ordered.not_before_head (orders_of_proper proper) member
  rw [before_eq_false_iff found firstFound] at later
  omega

/-- Nothing is due within a run over timers that has ended. -/
theorem Orderly.not_admits
    (orderly : Orderly timeline)
    {limit : Limit}
    (ended : ∀ timer others, timeline.queue = timer :: others ->
      limit.admits timer.due = false)
    {timer : Timer α}
    (member : timer ∈ timeline.queue) :
    limit.admits timer.due = false := by
  cases front : timeline.queue with
  | nil =>
    rw [front] at member
    cases member
  | cons first others =>
    have refused := ended first others front
    cases limit with
    | everything => cases refused
    | upTo time =>
      have firstIn : first ∈ timeline.queue := front ▸ List.mem_cons_self
      obtain ⟨firstPlace, firstFound⟩ := Binary64.exists_order?_eq (orderly.proper first firstIn)
      obtain ⟨place, found⟩ := Binary64.exists_order?_eq (orderly.proper timer member)
      refine eq_false_of_ne_true fun admitted => ?_
      have inRun : timer.due.le time = true := admitted
      by_cases failed : time = .nan
      · rw [failed, Binary64.le_nan] at inRun
        cases inRun
      · obtain ⟨target, targetFound⟩ := Binary64.exists_order?_eq failed
        have late := mt (Binary64.le_iff_of_order? firstFound targetFound).mpr
          (ne_true_of_eq_false refused)
        have inTime := (Binary64.le_iff_of_order? found targetFound).mp inRun
        have least := orderly.first_le front member firstFound found
        omega

end Orderly

/-! ## Timed queues -/

/-- The queue is in the order of time, and the clock has not passed a timer that still has to
fire. -/
structure Timed (timeline : Timeline α) : Prop where
  now : timeline.now.IsReading
  dues : ∀ timer ∈ timeline.queue, timer.due.IsReading
  ordered : Heap.IsOrdered before timeline.queue
  ahead : ∀ timer ∈ timeline.waiting, timeline.now.place ≤ timer.due.place
  numbered : ∀ timer ∈ timeline.waiting, timer.order < timeline.nextOrder
  fired : ∀ firing ∈ timeline.firings, firing.order < timeline.nextOrder

variable {timeline : Timeline α}

theorem mem_queue_of_mem_waiting
    {timer : Timer α}
    (member : timer ∈ timeline.waiting) :
    timer ∈ timeline.queue :=
  (List.mem_filter.mp member).1

theorem timed_empty : Timed ({} : Timeline α) where
  now := Binary64.isReading_zero
  dues := fun timer member => by cases member
  ordered := Heap.IsOrdered.nil
  ahead := fun timer member => by cases member
  numbered := fun timer member => by cases member
  fired := fun firing member => by cases member

theorem Timed.orderly (timed : Timed timeline) : Orderly timeline where
  proper := fun timer member => (timed.dues timer member).ne_nan
  ordered := timed.ordered

/-- The first timer of a queue is due no later than any other. -/
theorem Timed.first_le
    (timed : Timed timeline)
    {first : Timer α}
    {others : List (Timer α)}
    (front : timeline.queue = first :: others)
    {timer : Timer α}
    (member : timer ∈ timeline.queue) :
    first.due.place ≤ timer.due.place := by
  have firstIn : first ∈ timeline.queue := front ▸ List.mem_cons_self
  have least := timed.orderly.first_le front member (timed.dues first firstIn).order?_eq
    (timed.dues timer member).order?_eq
  omega

/-- The due time of a timer set now is a reading no earlier than now. -/
theorem Timed.dueAfter
    (timed : Timed timeline)
    {delay : Binary64}
    (proper : delay ≠ .nan) :
    (timeline.dueAfter delay).IsReading ∧
      timeline.now.place ≤ (timeline.dueAfter delay).place :=
  timed.now.add (Binary64.isSpan_atLeastZero proper)

theorem Timed.later
    (timed : Timed timeline)
    {delay : Binary64}
    (proper : delay ≠ .nan)
    (action : α) :
    Timed (timeline.later delay action) := by
  obtain ⟨reading, notBefore⟩ := timed.dueAfter proper
  have dues : ∀ timer ∈ (⟨timeline.dueAfter delay, timeline.nextOrder, action, false⟩ : Timer α) ::
      timeline.queue, timer.due.IsReading := by
    intro timer member
    rcases List.mem_cons.mp member with rfl | old
    · exact reading
    · exact timed.dues timer old
  have waiting := later_waiting_perm timeline delay action
  constructor
  · exact timed.now
  · intro timer member
    exact dues timer (List.mem_cons.mpr (mem_later_queue.mp member))
  · exact Heap.IsOrdered.push (orders_of_readings dues) timed.ordered
  · intro timer member
    rcases List.mem_cons.mp (waiting.mem_iff.mp member) with rfl | old
    · exact notBefore
    · exact timed.ahead timer old
  · intro timer member
    rcases List.mem_cons.mp (waiting.mem_iff.mp member) with rfl | old
    · exact Nat.lt_succ_self _
    · exact Nat.lt_succ_of_lt (timed.numbered timer old)
  · intro firing member
    exact Nat.lt_succ_of_lt (timed.fired firing member)

theorem Timed.cancel
    (timed : Timed timeline)
    (order : Nat) :
    Timed (timeline.cancel order) := by
  have fewer : ∀ timer ∈ (timeline.cancel order).waiting, timer ∈ timeline.waiting := by
    intro timer member
    rw [cancel_waiting] at member
    exact (List.mem_filter.mp member).1
  constructor
  · exact timed.now
  · intro timer member
    obtain ⟨earlier, inside, same⟩ := exists_of_mem_cancel member
    rw [same]
    exact timed.dues earlier inside
  · exact isOrdered_cancel timed.ordered order
  · intro timer member
    exact timed.ahead timer (fewer timer member)
  · intro timer member
    exact timed.numbered timer (fewer timer member)
  · exact timed.fired

/-- While a timer that still has to fire is taken, the clock reads its due time. -/
theorem Timed.reading_eq_due
    (timed : Timed timeline)
    {timer : Timer α}
    (member : timer ∈ timeline.waiting)
    (limit : Limit) :
    limit.reading timeline.now timer.due = timer.due := by
  cases limit with
  | upTo time => rfl
  | everything =>
    exact timed.now.max_eq_right (timed.dues timer (mem_queue_of_mem_waiting member))
      (timed.ahead timer member)

theorem Timed.taken
    (timed : Timed timeline)
    {first : Timer α}
    {others : List (Timer α)}
    (front : timeline.queue = first :: others)
    (limit : Limit) :
    Timed (timeline.taken limit first) := by
  have firstDue := timed.dues first (front ▸ List.mem_cons_self)
  have reading : (limit.reading timeline.now first.due).IsReading ∧
      (limit.reading timeline.now first.due).place ≤ max timeline.now.place first.due.place := by
    cases limit with
    | upTo time => exact ⟨firstDue, Nat.le_max_right _ _⟩
    | everything =>
      change (timeline.now.max first.due).IsReading ∧ (timeline.now.max first.due).place ≤ _
      unfold Binary64.max
      split
      · exact ⟨firstDue, Nat.le_max_right _ _⟩
      · exact ⟨timed.now, Nat.le_max_left _ _⟩
  have fewer : ∀ timer ∈ (timeline.taken limit first).waiting, timer ∈ timeline.waiting := by
    intro timer member
    obtain ⟨inside, live⟩ := List.mem_filter.mp member
    exact List.mem_filter.mpr ⟨mem_queue_of_mem_taken front inside, live⟩
  constructor
  · exact reading.1
  · intro timer member
    exact timed.dues timer (mem_queue_of_mem_taken front member)
  · exact Heap.IsOrdered.rest (orders_of_readings timed.dues) timed.ordered
  · intro timer member
    refine Nat.le_trans reading.2 (Nat.max_le.mpr ⟨timed.ahead timer (fewer timer member), ?_⟩)
    exact timed.first_le front (mem_queue_of_mem_waiting (fewer timer member))
  · intro timer member
    exact timed.numbered timer (fewer timer member)
  · intro firing member
    change firing ∈ (if first.cancelled then timeline.firings
      else timeline.firings ++ [⟨first.due, first.order, _⟩]) at member
    split at member
    · exact timed.fired firing member
    · rename_i live
      rcases List.mem_append.mp member with old | new
      · exact timed.fired firing old
      · rw [List.mem_singleton.mp new]
        refine timed.numbered first (List.mem_filter.mpr ⟨?_, by simpa using live⟩)
        rw [front]
        exact List.mem_cons_self

/-- The clock can be moved to a time before which nothing has to fire any more. -/
theorem Timed.moved
    (timed : Timed timeline)
    {target : Binary64}
    (reading : target.IsReading)
    (nothingDue : ∀ timer others, timeline.queue = timer :: others ->
      (Limit.upTo target).admits timer.due = false) :
    Timed { timeline with now := target } where
  now := reading
  dues := timed.dues
  ordered := timed.ordered
  ahead := fun timer member => by
    have inside := mem_queue_of_mem_waiting member
    cases front : timeline.queue with
    | nil =>
      have empty : timer ∈ timeline.queue := inside
      rw [front] at empty
      cases empty
    | cons first others =>
      have refused : first.due.le target = false := nothingDue first others front
      have firstDue := timed.dues first (front ▸ List.mem_cons_self)
      have late := mt (firstDue.le_iff reading).mpr (ne_true_of_eq_false refused)
      have least := timed.first_le front inside
      change target.place ≤ timer.due.place
      omega
  numbered := timed.numbered
  fired := timed.fired

end Timeline
end BroadcastGraphics
