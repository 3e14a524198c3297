import BroadcastGraphics.Proofs.HeapOrder
import BroadcastGraphics.Timeline

/-!
# The loop over due timers

A run over due timers is a number of turns, each of which takes the first timer of the queue and
fires it unless it was cancelled.  What every turn keeps, the run keeps; and if firing leaves the
queue alone and a run may take as many turns as there are timers, then no timer that belongs to the
run is at the front of the queue when it ends.

The timers that still have to fire are seen through `waiting`, which a new timer joins, a cancelled
one leaves, and the timer of a turn leaves.
-/

namespace BroadcastGraphics
namespace Timeline

variable {α σ : Type}

/-! ## Timers that still have to fire -/

theorem later_waiting_perm
    (timeline : Timeline α)
    (delay : Binary64)
    (action : α) :
    (timeline.later delay action).waiting.Perm
      (⟨timeline.dueAfter delay, timeline.nextOrder, action, false⟩ :: timeline.waiting) := by
  unfold waiting later
  exact (Heap.push_perm before timeline.queue _).filter _

theorem mem_later_queue
    {timeline : Timeline α}
    {delay : Binary64}
    {action : α}
    {timer : Timer α} :
    timer ∈ (timeline.later delay action).queue ↔
      timer = ⟨timeline.dueAfter delay, timeline.nextOrder, action, false⟩ ∨
        timer ∈ timeline.queue :=
  (Heap.push_perm before timeline.queue _).mem_iff.trans List.mem_cons

/-- Cancelling takes the timers with the number from those that still have to fire. -/
theorem cancel_waiting
    (timeline : Timeline α)
    (order : Nat) :
    (timeline.cancel order).waiting =
      timeline.waiting.filter fun timer => timer.order != order := by
  unfold waiting cancel
  simp only
  induction timeline.queue with
  | nil => rfl
  | cons timer others ih =>
    rw [List.map_cons, List.filter_cons, ih, List.filter_cons]
    by_cases same : timer.order = order
    · by_cases gone : timer.cancelled = true <;> simp [same, gone]
    · by_cases gone : timer.cancelled = true <;> simp [same, gone]

/-- Cancelling changes nothing about a timer but whether it fires. -/
theorem exists_of_mem_cancel
    {timeline : Timeline α}
    {order : Nat}
    {timer : Timer α}
    (member : timer ∈ (timeline.cancel order).queue) :
    ∃ earlier ∈ timeline.queue, timer = { earlier with cancelled := timer.cancelled } := by
  obtain ⟨earlier, inside, rfl⟩ := List.mem_map.mp member
  refine ⟨earlier, inside, ?_⟩
  split <;> rfl

theorem taken_queue_perm
    {timeline : Timeline α}
    {timer : Timer α}
    {others : List (Timer α)}
    (first : timeline.queue = timer :: others)
    (limit : Limit) :
    (timeline.taken limit timer).queue.Perm others := by
  unfold taken
  rw [first]
  exact Heap.rest_perm before timer others

theorem taken_waiting_perm
    {timeline : Timeline α}
    {timer : Timer α}
    {others : List (Timer α)}
    (first : timeline.queue = timer :: others)
    (limit : Limit) :
    timeline.waiting.Perm
      (if timer.cancelled then (timeline.taken limit timer).waiting
        else timer :: (timeline.taken limit timer).waiting) := by
  have behind := ((taken_queue_perm first limit).filter fun timer => !timer.cancelled).symm
  unfold waiting at *
  rw [first, List.filter_cons]
  by_cases gone : timer.cancelled = true
  · simpa [gone] using behind
  · simpa [gone] using behind

/-! ## Turns of the loop -/

/-- One turn of the loop: the first timer is taken, and it fires unless it was cancelled. -/
def turn
    (effect : Timer α -> Timeline α × σ -> Timeline α × σ)
    (limit : Limit)
    (timer : Timer α)
    (world : Timeline α × σ) : Timeline α × σ :=
  let next := (world.1.taken limit timer, world.2)
  if timer.cancelled then next else effect timer next

/-- What every turn keeps, the whole run keeps. -/
theorem fireDue_induction
    {effect : Timer α -> Timeline α × σ -> Timeline α × σ}
    {stopped : σ -> Bool}
    {limit : Limit}
    {Holds : Timeline α × σ -> Prop}
    (turns : ∀ world timer others, Holds world -> world.1.queue = timer :: others ->
      limit.admits timer.due = true -> Holds (turn effect limit timer world))
    (steps : Nat)
    (world : Timeline α × σ)
    (start : Holds world) :
    Holds (fireDue effect stopped limit steps world).2 := by
  induction steps generalizing world with
  | zero => exact start
  | succ steps ih =>
    obtain ⟨timeline, state⟩ := world
    unfold fireDue
    split
    · exact start
    · rename_i timer others first
      split
      · rename_i admitted
        have next := turns _ timer others start first admitted
        unfold turn at next
        by_cases gone : timer.cancelled = true
        · rw [if_pos gone] at next
          simp only [gone, if_true]
          exact ih _ next
        · rw [if_neg gone] at next
          simp only [gone, if_false, Bool.false_eq_true]
          split
          · exact next
          · exact ih _ next
      · exact start

/-- A run that may take as many turns as there are timers ends before a timer that does not belong
to it. -/
theorem fireDue_exhausts
    {effect : Timer α -> Timeline α × σ -> Timeline α × σ}
    {stopped : σ -> Bool}
    {limit : Limit}
    (quiet : ∀ timer world, (effect timer world).1.queue = world.1.queue)
    (unstopped : ∀ state, stopped state = false)
    {steps : Nat}
    {world : Timeline α × σ}
    (enough : world.1.queue.length ≤ steps)
    {timer : Timer α}
    {others : List (Timer α)}
    (first : (fireDue effect stopped limit steps world).2.1.queue = timer :: others) :
    limit.admits timer.due = false := by
  induction steps generalizing world with
  | zero =>
    have empty : world.1.queue = [] := List.length_eq_zero_iff.mp (Nat.le_zero.mp enough)
    have unchanged : world.1.queue = timer :: others := first
    rw [empty] at unchanged
    cases unchanged
  | succ steps ih =>
    obtain ⟨timeline, state⟩ := world
    unfold fireDue at first
    split at first
    · rename_i empty
      rw [empty] at first
      cases first
    · rename_i head rest front
      have shorter : (timeline.taken limit head).queue.length ≤ steps := by
        have length := (taken_queue_perm front limit).length_eq
        have enough : timeline.queue.length ≤ steps + 1 := enough
        rw [front, List.length_cons] at enough
        omega
      split at first
      · by_cases gone : head.cancelled = true
        · simp only [gone, if_true] at first
          exact ih shorter first
        · simp only [gone, if_false, Bool.false_eq_true, unstopped] at first
          refine ih ?_ first
          rw [quiet]
          exact shorter
      · rename_i refused
        rw [front] at first
        injection first with same
        subst same
        simpa using refused

/-- A run counts the firings that it adds. -/
theorem fireDue_count
    {effect : Timer α -> Timeline α × σ -> Timeline α × σ}
    {stopped : σ -> Bool}
    {limit : Limit}
    (silent : ∀ timer world, (effect timer world).1.firings = world.1.firings)
    (unstopped : ∀ state, stopped state = false)
    (steps : Nat)
    (world : Timeline α × σ) :
    (fireDue effect stopped limit steps world).1 + world.1.firings.length =
      (fireDue effect stopped limit steps world).2.1.firings.length := by
  induction steps generalizing world with
  | zero => exact Nat.zero_add _
  | succ steps ih =>
    obtain ⟨timeline, state⟩ := world
    unfold fireDue
    split
    · exact Nat.zero_add _
    · rename_i timer others first
      split
      · cases gone : timer.cancelled with
        | true =>
          have unfired : (timeline.taken limit timer).firings = timeline.firings := if_pos gone
          have later := ih (timeline.taken limit timer, state)
          simp only [unfired] at later
          exact later
        | false =>
          have fired : (timeline.taken limit timer).firings.length =
              timeline.firings.length + 1 := by
            unfold taken
            simp [gone]
          have later := ih (effect timer (timeline.taken limit timer, state))
          rw [silent, fired] at later
          simp only [Bool.false_eq_true, if_false, unstopped]
          omega
      · exact Nat.zero_add _

end Timeline
end BroadcastGraphics
