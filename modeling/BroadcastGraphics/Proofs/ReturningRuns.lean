import BroadcastGraphics.Proofs.TimelineLoop
import BroadcastGraphics.Proofs.WholeTime

/-!
# Runs over timers that return

A callback can set timers that belong to the run in which it fires, so a run need not return.  One
that does takes timers until none that belongs to it is left at the front of the queue, and then the
bound on its turns plays no part.  A run can be cut at any time between: what it does up to the time
and what it does from there on are runs of their own.
-/

namespace BroadcastGraphics
namespace Timeline

variable {α σ : Type} {effect : Timer α -> Timeline α × σ -> Timeline α × σ}

/-- No timer that belongs to a run is at the front of the queue. -/
def Limit.Ends (limit : Limit) (timeline : Timeline α) : Prop :=
  ∀ timer others, timeline.queue = timer :: others -> limit.admits timer.due = false

/-- A run over timers returns a number of firings and leaves a world behind. -/
def Returns (effect : Timer α -> Timeline α × σ -> Timeline α × σ) (limit : Limit)
    (world : Timeline α × σ) (count : Nat) (after : Timeline α × σ) : Prop :=
  ∃ steps, fireDue effect (fun _ => false) limit steps world = (count, after) ∧
    limit.Ends after.1

/-- Moving the clock on by some time returns a number of firings and leaves a world behind. -/
def Advances (effect : Timer α -> Timeline α × σ -> Timeline α × σ) (span : Binary64)
    (world : Timeline α × σ) (count : Nat) (after : Timeline α × σ) : Prop :=
  ∃ steps, advance effect (fun _ => false) steps span world = (count, after) ∧
    (Limit.upTo (world.1.now.add span)).Ends after.1

/-- Firing all timers returns a number of firings and leaves a world behind. -/
def RunsOut (effect : Timer α -> Timeline α × σ -> Timeline α × σ)
    (world : Timeline α × σ) (count : Nat) (after : Timeline α × σ) : Prop :=
  ∃ steps, runAll effect (fun _ => false) steps world = (count, after) ∧
    Limit.everything.Ends after.1

/-- The timeline with another reading of its clock. -/
def setNow (timeline : Timeline α) (now : Binary64) : Timeline α :=
  { timeline with now := now }

theorem advances_iff
    {span : Binary64}
    {world after : Timeline α × σ}
    {count : Nat} :
    Advances effect span world count after ↔
      ∃ last, Returns effect (.upTo (world.1.now.add span)) world count last ∧
        after = (last.1.setNow (world.1.now.add span), last.2) := by
  constructor
  · rintro ⟨steps, run, ends⟩
    cases run
    exact ⟨_, ⟨steps, rfl, ends⟩, rfl⟩
  · rintro ⟨last, ⟨steps, run, ends⟩, rfl⟩
    refine ⟨steps, ?_, ends⟩
    unfold advance
    dsimp only
    rw [run]
    rfl

/-! ## Turns of a run -/

section Turns

variable {limit : Limit} {world after : Timeline α × σ} {count : Nat}

theorem returns_of_ends
    (ends : limit.Ends world.1) :
    Returns effect limit world count after ↔ count = 0 ∧ after = world := by
  have stays (steps : Nat) :
      fireDue effect (fun _ => false) limit steps world = (0, world) := by
    cases steps with
    | zero => rfl
    | succ steps =>
      obtain ⟨timeline, state⟩ := world
      unfold fireDue
      split
      · rfl
      · rename_i timer others front
        rw [if_neg (ne_true_of_eq_false (ends timer others front))]
  constructor
  · rintro ⟨steps, run, _⟩
    rw [stays] at run
    cases run
    exact ⟨rfl, rfl⟩
  · rintro ⟨rfl, rfl⟩
    exact ⟨0, stays 0, ends⟩

/-- The number of firings of a turn. -/
def firingsOf (timer : Timer α) : Nat :=
  if timer.cancelled then 0 else 1

theorem fireDue_succ
    {timer : Timer α}
    {others : List (Timer α)}
    (front : world.1.queue = timer :: others)
    (admitted : limit.admits timer.due = true)
    (steps : Nat) :
    fireDue effect (fun _ => false) limit (steps + 1) world =
      ((fireDue effect (fun _ => false) limit steps (turn effect limit timer world)).1 +
          firingsOf timer,
        (fireDue effect (fun _ => false) limit steps (turn effect limit timer world)).2) := by
  obtain ⟨timeline, state⟩ := world
  have queue : timeline.queue = timer :: others := front
  rw [fireDue]
  simp only [queue, admitted, if_true]
  unfold turn firingsOf
  cases gone : timer.cancelled <;> simp

theorem returns_turn
    {timer : Timer α}
    {others : List (Timer α)}
    (front : world.1.queue = timer :: others)
    (admitted : limit.admits timer.due = true) :
    Returns effect limit world count after ↔
      ∃ rest, Returns effect limit (turn effect limit timer world) rest after ∧
        count = rest + firingsOf timer := by
  constructor
  · rintro ⟨steps, run, ends⟩
    cases steps with
    | zero =>
      cases run
      exact absurd admitted (ne_true_of_eq_false (ends timer others front))
    | succ steps =>
      rw [fireDue_succ front admitted] at run
      cases run
      exact ⟨_, ⟨steps, rfl, ends⟩, rfl⟩
  · rintro ⟨rest, ⟨steps, run, ends⟩, rfl⟩
    refine ⟨steps + 1, ?_, ends⟩
    rw [fireDue_succ front admitted, run]

/-- What holds at the end of a run and is carried back over every turn holds of the whole run. -/
theorem Returns.induction
    {motive : Timeline α × σ -> Nat -> Prop}
    (rest : limit.Ends after.1 -> motive after 0)
    (turns : ∀ world timer others count, world.1.queue = timer :: others ->
      limit.admits timer.due = true -> motive (turn effect limit timer world) count ->
        motive world (count + firingsOf timer))
    (returns : Returns effect limit world count after) : motive world count := by
  obtain ⟨steps, run, ends⟩ := returns
  induction steps generalizing world count with
  | zero =>
    cases run
    exact rest ends
  | succ steps ih =>
    cases front : world.1.queue with
    | nil =>
      have stops : limit.Ends world.1 := fun timer others more => nomatch front.symm.trans more
      obtain ⟨rfl, rfl⟩ := (returns_of_ends stops).mp ⟨steps + 1, run, ends⟩
      exact rest ends
    | cons timer others =>
      cases admitted : limit.admits timer.due with
      | false =>
        have stops : limit.Ends world.1 := by
          intro other rest more
          rw [front] at more
          cases more
          exact admitted
        obtain ⟨rfl, rfl⟩ := (returns_of_ends stops).mp ⟨steps + 1, run, ends⟩
        exact rest ends
      | true =>
        rw [fireDue_succ front admitted] at run
        cases run
        exact turns world timer others _ front admitted (ih rfl)

/-- A run returns in one way only. -/
theorem Returns.unique
    {other : Timeline α × σ}
    {otherCount : Nat}
    (returns : Returns effect limit world count after)
    (again : Returns effect limit world otherCount other) :
    otherCount = count ∧ other = after := by
  revert otherCount
  refine Returns.induction (motive := fun world count => ∀ {otherCount : Nat},
    Returns effect limit world otherCount other -> otherCount = count ∧ other = after) ?_ ?_ returns
  · intro ends otherCount again
    exact (returns_of_ends ends).mp again
  · intro world timer others count front admitted same otherCount again
    obtain ⟨rest, carriedOn, rfl⟩ := (returns_turn front admitted).mp again
    obtain ⟨rfl, rfl⟩ := same carriedOn
    exact ⟨rfl, rfl⟩

end Turns

/-! ## Runs cut in two -/

section Cut

variable {near far : Limit} {world middle after : Timeline α × σ} {first second total : Nat}
  (within : ∀ now due, near.admits due = true ->
    far.admits due = true ∧ far.reading now due = near.reading now due)
include within

theorem turn_within
    {timer : Timer α}
    (admitted : near.admits timer.due = true)
    (world : Timeline α × σ) :
    turn effect far timer world = turn effect near timer world := by
  unfold turn taken
  rw [(within world.1.now timer.due admitted).2]

/-- A run with fewer timers can be carried on. -/
theorem Returns.join
    (started : Returns effect near world first middle)
    (carriedOn : Returns effect far middle second after) :
    Returns effect far world (first + second) after := by
  refine Returns.induction (motive := fun world first =>
    Returns effect far world (first + second) after) ?_ ?_ started
  · intro _
    rwa [Nat.zero_add]
  · intro world timer others count front admitted rest
    rw [← turn_within within admitted world] at rest
    refine (returns_turn front (within .nan timer.due admitted).1).mpr ⟨_, rest, ?_⟩
    omega

/-- A run can be cut where a run with fewer timers ends, if both take those at the same times. -/
theorem returns_cut :
    Returns effect far world total after ↔
      ∃ first middle second, Returns effect near world first middle ∧
        Returns effect far middle second after ∧ total = first + second := by
  constructor
  · refine Returns.induction (motive := fun world total => ∃ first middle second,
      Returns effect near world first middle ∧ Returns effect far middle second after ∧
        total = first + second) ?_ ?_
    · intro ends
      have endsNear : near.Ends after.1 := fun timer others front =>
        eq_false_of_ne_true fun admitted =>
          absurd (within .nan timer.due admitted).1 (ne_true_of_eq_false (ends timer others front))
      exact ⟨0, after, 0, (returns_of_ends endsNear).mpr ⟨rfl, rfl⟩,
        (returns_of_ends ends).mpr ⟨rfl, rfl⟩, rfl⟩
    · rintro world timer others _ front admitted ⟨first, middle, second, started, carriedOn, rfl⟩
      cases belongs : near.admits timer.due with
      | true =>
        rw [turn_within within belongs] at started
        refine ⟨first + firingsOf timer, middle, second, ?_, carriedOn, by omega⟩
        exact (returns_turn front belongs).mpr ⟨first, started, rfl⟩
      | false =>
        have stops : near.Ends world.1 := fun other rest more => by
          cases front.symm.trans more
          exact belongs
        refine ⟨0, world, _, (returns_of_ends stops).mpr ⟨rfl, rfl⟩, ?_, (Nat.zero_add _).symm⟩
        exact (returns_turn front admitted).mpr ⟨_, started.join within carriedOn, rfl⟩
  · rintro ⟨first, middle, second, started, carriedOn, rfl⟩
    exact started.join within carriedOn

end Cut

/-- Where the clock of a run up to a time stands before its first timer makes no difference. -/
theorem Returns.setNow
    {time : Binary64}
    {world after : Timeline α × σ}
    {count : Nat}
    (now : Binary64)
    (returns : Returns effect (.upTo time) world count after) :
    ∃ later, Returns effect (.upTo time) (world.1.setNow now, world.2) count
      (after.1.setNow later, after.2) := by
  have stays (stops : (Limit.upTo time).Ends world.1) :
      ∃ later, Returns effect (.upTo time) (world.1.setNow now, world.2) count
        (after.1.setNow later, after.2) := by
    obtain ⟨rfl, rfl⟩ := (returns_of_ends stops).mp returns
    refine ⟨now, Iff.mpr (returns_of_ends ?_) ⟨rfl, rfl⟩⟩
    exact stops
  cases front : world.1.queue with
  | nil => exact stays fun timer others more => nomatch front.symm.trans more
  | cons timer others =>
    cases admitted : (Limit.upTo time).admits timer.due with
    | false =>
      refine stays fun other rest more => ?_
      cases front.symm.trans more
      exact admitted
    | true =>
      obtain ⟨rest, carriedOn, rfl⟩ := (returns_turn front admitted).mp returns
      have moved : (world.1.setNow now, world.2).1.queue = timer :: others := front
      exact ⟨after.1.now, (returns_turn moved admitted).mpr ⟨rest, carriedOn, rfl⟩⟩

/-- Moving the clock on by two spans is moving it on by their sum, if the clock measures it so. -/
theorem advances_add_iff
    {first second whole : Binary64}
    {world after : Timeline α × σ}
    {total : Nat}
    (onward : (world.1.now.add first).le ((world.1.now.add first).add second) = true)
    (same : (world.1.now.add first).add second = world.1.now.add whole) :
    Advances effect whole world total after ↔
      ∃ few middle more, Advances effect first world few middle ∧
        Advances effect second middle more after ∧ total = few + more := by
  have within : ∀ now due, (Limit.upTo (world.1.now.add first)).admits due = true ->
      (Limit.upTo (world.1.now.add whole)).admits due = true ∧
        (Limit.upTo (world.1.now.add whole)).reading now due =
          (Limit.upTo (world.1.now.add first)).reading now due := fun now due early =>
    ⟨Binary64.le_trans early (same ▸ onward), rfl⟩
  constructor
  · intro advances
    obtain ⟨last, returns, rfl⟩ := advances_iff.mp advances
    obtain ⟨few, middle, more, started, carriedOn, rfl⟩ := (returns_cut within).mp returns
    obtain ⟨later, carriedOn⟩ := carriedOn.setNow (world.1.now.add first)
    rw [← same] at carriedOn ⊢
    exact ⟨few, _, more, advances_iff.mpr ⟨middle, started, rfl⟩,
      advances_iff.mpr ⟨_, carriedOn, rfl⟩, rfl⟩
  · rintro ⟨few, middle, more, started, carriedOn, rfl⟩
    obtain ⟨last, begun, rfl⟩ := advances_iff.mp started
    obtain ⟨final, returns, rfl⟩ := advances_iff.mp carriedOn
    have target : (last.1.setNow (world.1.now.add first)).now.add second = world.1.now.add whole :=
      same
    rw [target] at returns ⊢
    obtain ⟨later, returns⟩ := returns.setNow last.1.now
    exact advances_iff.mpr ⟨_, begun.join within returns, rfl⟩

/-- Moving the clock on returns in one way only. -/
theorem Advances.unique
    {span : Binary64}
    {world after other : Timeline α × σ}
    {count otherCount : Nat}
    (advances : Advances effect span world count after)
    (again : Advances effect span world otherCount other) :
    otherCount = count ∧ other = after := by
  obtain ⟨last, returns, rfl⟩ := advances_iff.mp advances
  obtain ⟨otherLast, returnsAgain, rfl⟩ := advances_iff.mp again
  obtain ⟨rfl, rfl⟩ := returns.unique returnsAgain
  exact ⟨rfl, rfl⟩

/-! ## Whole milliseconds -/

/-- Moving the clock on by whole milliseconds returns a number of firings and leaves a world
behind. -/
def Moves (effect : Timer α -> Timeline α × σ -> Timeline α × σ) (milliseconds : Nat)
    (world : Timeline α × σ) (count : Nat) (after : Timeline α × σ) : Prop :=
  ∃ measured, (Span.integer milliseconds).measured = .ok measured ∧
    Advances effect measured world count after

theorem moves_iff
    {milliseconds : Nat}
    {measured : Binary64}
    (known : (Span.integer milliseconds).measured = .ok measured)
    {world after : Timeline α × σ}
    {count : Nat} :
    Moves effect milliseconds world count after ↔ Advances effect measured world count after := by
  constructor
  · rintro ⟨other, also, advances⟩
    cases known.symm.trans also
    exact advances
  · exact fun advances => ⟨measured, known, advances⟩

/-- A clock without timers is only moved on. -/
theorem advances_of_empty
    {now span : Binary64}
    {state : σ}
    {count : Nat}
    {after : Timeline α × σ} :
    Advances effect span (({ now := now } : Timeline α), state) count after ↔
      count = 0 ∧ after = ({ now := now.add span }, state) := by
  have ends : (Limit.upTo (now.add span)).Ends ({ now := now } : Timeline α) :=
    fun _ _ front => nomatch front
  rw [advances_iff]
  constructor
  · rintro ⟨last, returns, rfl⟩
    obtain ⟨rfl, rfl⟩ := (returns_of_ends ends).mp returns
    exact ⟨rfl, rfl⟩
  · rintro ⟨rfl, rfl⟩
    exact ⟨_, (returns_of_ends ends).mpr ⟨rfl, rfl⟩, rfl⟩

end Timeline
end BroadcastGraphics
