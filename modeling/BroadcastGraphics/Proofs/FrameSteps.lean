import BroadcastGraphics.Proofs.ClockReading
import BroadcastGraphics.Proofs.RehearsalView
import BroadcastGraphics.Proofs.ReturningRuns

/-!
# Frames

A clock can be moved on frame by frame or at once.  The clock adds in double-precision numbers, so
the two agree where it measures the sum of the frames as it measures the frames one after another,
and among whole milliseconds it does up to `2 ^ 53`.  Where it does, the same timers fire in the same
order at the same readings of the clock, whatever timers are set and cancelled while they fire.
-/

namespace BroadcastGraphics

/-- A clock is moved on by two spans of whole milliseconds, one after the other, as by their sum. -/
def Binary64.AddsUp (reading : Binary64) (first second : Nat) : Prop :=
  ∃ few more both, (Span.integer first).measured = .ok few ∧
    (Span.integer second).measured = .ok more ∧
    (Span.integer (first + second : Nat)).measured = .ok both ∧
    (reading.add few).add more = reading.add both

/-- Among the whole numbers up to `2 ^ 53` a clock adds up. -/
theorem Binary64.addsUp_of_whole?
    {reading : Binary64}
    {now : Int}
    (whole : reading.whole? = some now)
    {first second : Nat}
    (notBefore : -2 ^ 53 ≤ now)
    (small : now + first + second ≤ 2 ^ 53)
    (spans : first + second ≤ 2 ^ 53) : reading.AddsUp first second :=
  ⟨_, _, _, Span.measured_integer (by omega), Span.measured_integer (by omega),
    Span.measured_integer spans, add_ofInt_add_ofInt whole notBefore small spans⟩

/-! ## Two spans -/

namespace Timeline

variable {α σ : Type} {effect : Timer α -> Timeline α × σ -> Timeline α × σ}

theorem moves_add_iff
    {world after : Timeline α × σ}
    {total first second : Nat}
    (working : world.1.now ≠ .nan)
    (addsUp : world.1.now.AddsUp first second) :
    Moves effect (first + second) world total after ↔
      ∃ few middle more, Moves effect first world few middle ∧ Moves effect second middle more after ∧
        total = few + more := by
  obtain ⟨firstSpan, secondSpan, both, knownFirst, knownSecond, knownBoth, same⟩ := addsUp
  have between := Binary64.add_ne_nan working (Span.isSpan_of_measured knownFirst).2
  have onward := Binary64.le_add_of_isSpan between (Span.isSpan_of_measured knownSecond).1
    (Span.isSpan_of_measured knownSecond).2
  simp only [moves_iff knownFirst, moves_iff knownSecond, moves_iff knownBoth]
  exact advances_add_iff onward same

end Timeline

/-! ## Graphics that share a clock -/

namespace Troupe

theorem advance_advances (troupe : Troupe) (span : Binary64) :
    Timeline.Advances finish span troupe.world (troupe.advance span).2
      (troupe.advance span).1.world :=
  ⟨troupe.schedule.timeline.queue.length, rfl, fun _ _ front =>
    Timeline.fireDue_exhausts queue_finish (fun _ => rfl) (Nat.le_refl troupe.world.1.queue.length)
      front⟩

theorem advance_moves
    (troupe : Troupe)
    {milliseconds : Nat}
    (small : milliseconds ≤ 2 ^ 53) :
    Timeline.Moves finish milliseconds troupe.world (troupe.advance (.ofInt milliseconds)).2
      (troupe.advance (.ofInt milliseconds)).1.world :=
  ⟨_, Span.measured_integer small, troupe.advance_advances _⟩

/-- Where the clock adds up, graphics on it are moved on by two spans as by their sum. -/
theorem advance_add
    {troupe : Troupe}
    {few more both : Binary64}
    (onward : (troupe.now.add few).le ((troupe.now.add few).add more) = true)
    (same : (troupe.now.add few).add more = troupe.now.add both) :
    troupe.advance both = (((troupe.advance few).1.advance more).1,
      (troupe.advance few).2 + ((troupe.advance few).1.advance more).2) := by
  have inTwo := (Timeline.advances_add_iff onward same).mpr
    ⟨_, _, _, troupe.advance_advances few, (troupe.advance few).1.advance_advances more, rfl⟩
  obtain ⟨counts, worlds⟩ := inTwo.unique (troupe.advance_advances both)
  exact Prod.ext (congrArg ofWorld worlds) counts

theorem length_graphics_advance (troupe : Troupe) (span : Binary64) :
    (troupe.advance span).1.graphics.length = troupe.graphics.length := by
  let Same : Timeline Cue × List Playback × List (Option Outcome) -> Prop := fun world =>
    world.2.1.length = troupe.graphics.length
  have turns : ∀ world timer others, Same world -> world.1.queue = timer :: others ->
      (Timeline.Limit.upTo (troupe.now.add span)).admits timer.due = true ->
        Same (Timeline.turn finish (.upTo (troupe.now.add span)) timer world) := by
    rintro ⟨timeline, graphics, outcomes⟩ timer others same front admitted
    unfold Timeline.turn finish
    simp only
    split
    · exact same
    · split
      · exact same
      · exact (List.length_set ..).trans same
  exact Timeline.fireDue_induction turns _ troupe.world rfl

end Troupe

/-! ## Frames of a rehearsal -/

namespace Rehearsal

theorem troupe_withTroupe
    (rehearsal : Rehearsal)
    {troupe : Troupe}
    (alone : troupe.graphics.length = 1) :
    (rehearsal.withTroupe troupe).troupe = troupe := by
  obtain ⟨schedule, graphics⟩ := troupe
  obtain ⟨playback, rfl⟩ := List.length_eq_one_iff.mp alone
  rfl

theorem step_measured
    (rehearsal : Rehearsal)
    {span : Span}
    {measured : Binary64}
    (known : span.measured = .ok measured) :
    rehearsal.step (.advance span) =
      (rehearsal.withTroupe (rehearsal.troupe.advance measured).1,
        .ok (.count (rehearsal.troupe.advance measured).2)) := by
  simp only [step, known]

theorem withTroupe_withTroupe
    (rehearsal : Rehearsal)
    (troupe : Troupe)
    {other : Troupe}
    (alone : other.graphics.length = 1) :
    (rehearsal.withTroupe troupe).withTroupe other = rehearsal.withTroupe other := by
  obtain ⟨schedule, graphics⟩ := other
  obtain ⟨playback, rfl⟩ := List.length_eq_one_iff.mp alone
  rfl

/-- Where the clock adds up, a rehearsal is moved on by two spans as by their sum. -/
theorem step_advance_add
    (rehearsal : Rehearsal)
    {first second whole : Span}
    {few more both : Binary64}
    (knownFew : first.measured = .ok few)
    (knownMore : second.measured = .ok more)
    (knownBoth : whole.measured = .ok both)
    (onward : (rehearsal.troupe.now.add few).le ((rehearsal.troupe.now.add few).add more) = true)
    (same : (rehearsal.troupe.now.add few).add more = rehearsal.troupe.now.add both) :
    ∃ before after, (rehearsal.step (.advance first)).2 = .ok (.count before) ∧
      ((rehearsal.step (.advance first)).1.step (.advance second)).2 = .ok (.count after) ∧
      rehearsal.step (.advance whole) =
        (((rehearsal.step (.advance first)).1.step (.advance second)).1,
          .ok (.count (before + after))) := by
  have moved := troupe_withTroupe rehearsal (rehearsal.troupe.length_graphics_advance few)
  have alone : ((rehearsal.troupe.advance few).1.advance more).1.graphics.length = 1 := by
    rw [Troupe.length_graphics_advance, Troupe.length_graphics_advance]
    rfl
  refine ⟨(rehearsal.troupe.advance few).2, ((rehearsal.troupe.advance few).1.advance more).2,
    ?_, ?_, ?_⟩
  · rw [step_measured rehearsal knownFew]
  · rw [step_measured rehearsal knownFew, step_measured _ knownMore, moved]
  · rw [step_measured rehearsal knownFew, step_measured _ knownMore,
      step_measured rehearsal knownBoth, moved, Troupe.advance_add onward same,
      withTroupe_withTroupe _ _ alone]

/-- A step that moves the clock on by whole milliseconds. -/
def frame (milliseconds : Nat) : Step :=
  .advance (.integer milliseconds)

theorem exists_count_frame
    (rehearsal : Rehearsal)
    {milliseconds : Nat}
    (small : milliseconds ≤ 2 ^ 53) :
    ∃ after count, rehearsal.step (frame milliseconds) = (after, .ok (.count count)) := by
  unfold frame
  rw [step_measured rehearsal (Span.measured_integer small)]
  exact ⟨_, _, rfl⟩

/-- Among whole milliseconds up to `2 ^ 53` two frames are one. -/
theorem step_frame_add
    {rehearsal : Rehearsal}
    {now : Int}
    (whole : rehearsal.schedule.timeline.now.whole? = some now)
    {first second : Nat}
    (notBefore : -2 ^ 53 ≤ now)
    (small : now + first + second ≤ 2 ^ 53)
    (spans : first + second ≤ 2 ^ 53) :
    (rehearsal.step (frame first)).1.schedule.timeline.now.whole? = some (now + first) ∧
      ∃ few more, (rehearsal.step (frame first)).2 = .ok (.count few) ∧
        ((rehearsal.step (frame first)).1.step (frame second)).2 = .ok (.count more) ∧
        rehearsal.step (frame (first + second)) =
          (((rehearsal.step (frame first)).1.step (frame second)).1,
            .ok (.count (few + more))) := by
  obtain ⟨few, more, both, knownFew, knownMore, knownBoth, same⟩ :=
    Binary64.addsUp_of_whole? whole notBefore small spans
  have reached : (rehearsal.troupe.now.add few).whole? = some (now + first) := by
    cases (Span.measured_integer (by omega)).symm.trans knownFew
    exact Binary64.whole?_add whole (Binary64.whole?_ofInt (by omega)) (by omega)
  have working : rehearsal.troupe.now.add few ≠ .nan := by
    intro failed
    rw [failed] at reached
    cases reached
  have onward := Binary64.le_add_of_isSpan working (Span.isSpan_of_measured knownMore).1
    (Span.isSpan_of_measured knownMore).2
  constructor
  · unfold frame
    rw [step_advance rehearsal knownFew]
    exact reached
  · exact rehearsal.step_advance_add knownFew knownMore knownBoth onward same

/-- Among whole milliseconds up to `2 ^ 53` any number of frames are one. -/
theorem run_frames
    {rehearsal : Rehearsal}
    {now : Int}
    (whole : rehearsal.schedule.timeline.now.whole? = some now)
    {first : Nat}
    {rest : List Nat}
    (notBefore : -2 ^ 53 ≤ now)
    (small : now + (first + rest.sum : Nat) ≤ 2 ^ 53)
    (spans : first + rest.sum ≤ 2 ^ 53) :
    ∃ counts : List Nat, rehearsal.replies ((first :: rest).map frame) =
        counts.map (fun count => .ok (.count count)) ∧
      rehearsal.step (frame (first + rest.sum)) =
        (rehearsal.run ((first :: rest).map frame), .ok (.count counts.sum)) := by
  induction rest generalizing rehearsal now first with
  | nil =>
    obtain ⟨after, count, stepped⟩ := exists_count_frame rehearsal (Nat.le_of_add_right_le spans)
    refine ⟨[count], ?_, ?_⟩
    · rw [List.map_cons, List.map_nil, replies, replies, stepped]
      rfl
    · rw [List.sum_nil, Nat.add_zero, List.map_cons, List.map_nil, run_cons, run_nil,
        List.sum_singleton, stepped]
  | cons second rest ih =>
    simp only [List.sum_cons] at small spans ⊢
    obtain ⟨reached, few, more, firstCount, restCount, one⟩ :=
      @step_frame_add rehearsal now whole first (second + rest.sum) notBefore (by omega) spans
    obtain ⟨counts, replied, carriedOn⟩ := @ih _ _ reached second (by omega) (by omega) (by omega)
    rw [carriedOn] at restCount one
    cases restCount
    refine ⟨few :: counts, ?_, ?_⟩
    · rw [List.map_cons, replies, firstCount, replied, List.map_cons]
    · simpa only [List.map_cons, run_cons, List.sum_cons] using one

/-- Step size does not matter.  Where the clock adds up two spans of whole milliseconds, moving it
on by one and then by the other returns exactly if moving it on by both at once returns, and in the
same world: the same timers have fired in the same order at the same readings, the same timers are
left in the queue, and as many firings are reported in all.  The clock adds up as long as it stays
among the whole milliseconds up to `2 ^ 53`, and there a rehearsal that is moved on frame by frame is
left as one that is moved on by all of them at once, with the same count of firings. -/
theorem frames_make_no_difference :
    (∀ {α σ : Type} (effect : Timer α -> Timeline α × σ -> Timeline α × σ)
        (world after : Timeline α × σ) (total first second : Nat),
      world.1.now ≠ .nan -> world.1.now.AddsUp first second ->
        (Timeline.Moves effect (first + second) world total after ↔
          ∃ few middle more, Timeline.Moves effect first world few middle ∧
            Timeline.Moves effect second middle more after ∧ total = few + more)) ∧
      (∀ (reading : Binary64) (now : Int) (first second : Nat), reading.whole? = some now ->
        -2 ^ 53 ≤ now -> now + first + second ≤ 2 ^ 53 -> first + second ≤ 2 ^ 53 ->
          reading.AddsUp first second) ∧
      (∀ (rehearsal : Rehearsal) (now : Int) (first : Nat) (rest : List Nat),
        rehearsal.schedule.timeline.now.whole? = some now -> -2 ^ 53 ≤ now ->
        now + (first + rest.sum : Nat) ≤ 2 ^ 53 -> first + rest.sum ≤ 2 ^ 53 ->
          ∃ counts : List Nat, rehearsal.replies ((first :: rest).map frame) =
              counts.map (fun count => .ok (.count count)) ∧
            rehearsal.step (frame (first + rest.sum)) =
              (rehearsal.run ((first :: rest).map frame), .ok (.count counts.sum))) := by
  refine ⟨?_, ?_, ?_⟩
  · intro α σ effect world after total first second working addsUp
    exact Timeline.moves_add_iff working addsUp
  · intro reading now first second whole notBefore small spans
    exact Binary64.addsUp_of_whole? whole notBefore small spans
  · intro rehearsal now first rest whole notBefore small spans
    exact run_frames whole notBefore small spans

/-- A rehearsal of a graphic whose entrance, of half a second, has begun. -/
def entering : Rehearsal :=
  (opening "clock" [] none).run [.command .load, .command (.play false)]

/-- The entrance is rehearsed in two frames, the second of which ends on the time at which it is
completed. -/
theorem entrance_in_two_frames :
    entering.troupe.world.1.now ≠ .nan ∧ entering.troupe.world.1.now.AddsUp 250 250 ∧
      (∃ few middle more, Timeline.Moves Troupe.finish 250 entering.troupe.world few middle ∧
        Timeline.Moves Troupe.finish 250 middle more
            (entering.troupe.advance (.ofInt (250 + 250 : Nat))).1.world ∧ 1 = few + more) ∧
      ∃ counts : List Nat, entering.replies [frame 250, frame 250] =
          counts.map (fun count => .ok (.count count)) ∧
        entering.step (frame (250 + 250)) =
          (entering.run [frame 250, frame 250], .ok (.count counts.sum)) := by
  have whole : entering.schedule.timeline.now.whole? = some 0 := by decide +kernel
  have counted : entering.troupe.world.1.now.whole? = some 0 := by decide +kernel
  obtain ⟨cut, addsUp, frames⟩ := frames_make_no_difference
  have working : entering.troupe.world.1.now ≠ .nan := by decide +kernel
  have adds := addsUp _ 0 250 250 counted (by decide) (by decide) (by decide)
  refine ⟨working, adds, ?_, ?_⟩
  · have fired : (entering.troupe.advance (.ofInt (250 + 250 : Nat))).2 = 1 := by decide +kernel
    have once := entering.troupe.advance_moves (show 250 + 250 ≤ 2 ^ 53 by decide)
    obtain ⟨few, middle, more, one, two, total⟩ :=
      (cut Troupe.finish entering.troupe.world _ _ 250 250 working adds).mp once
    exact ⟨few, middle, more, one, two, fired.symm.trans total⟩
  · exact frames entering 0 250 [250] whole (by decide) (by decide) (by decide)

/-- Beyond the whole numbers that the clock can count step size matters: it loses a millisecond of
the first span and the second span. -/
theorem long_frames_differ :
    Timeline.Moves (fun _ world => world) (2 ^ 53 + 1 + 1) (({} : Timeline Unit), ()) 0
        ({ now := .ofInt (2 ^ 53 + 2) }, ()) ∧
      ¬∃ few middle more,
        Timeline.Moves (fun _ world => world) (2 ^ 53 + 1) (({} : Timeline Unit), ()) few middle ∧
          Timeline.Moves (fun _ world => world) 1 middle more
            ({ now := .ofInt (2 ^ 53 + 2) }, ()) ∧ 0 = few + more := by
  have knownFirst : (Span.integer (2 ^ 53 + 1 : Nat)).measured = .ok (.ofInt (2 ^ 53)) := by
    decide +kernel
  have knownSecond : (Span.integer (1 : Nat)).measured = .ok (.ofInt 1) := by
    decide +kernel
  have knownBoth : (Span.integer (2 ^ 53 + 1 + 1 : Nat)).measured = .ok (.ofInt (2 ^ 53 + 2)) := by
    decide +kernel
  have exact : Binary64.zero.add (.ofInt (2 ^ 53 + 2)) = .ofInt (2 ^ 53 + 2) := by
    decide +kernel
  have lost : (Binary64.zero.add (.ofInt (2 ^ 53))).add (.ofInt 1) ≠ .ofInt (2 ^ 53 + 2) := by
    decide +kernel
  rw [Timeline.moves_iff knownBoth, Timeline.advances_of_empty, exact]
  refine ⟨⟨rfl, rfl⟩, ?_⟩
  rintro ⟨few, middle, more, one, two, _⟩
  obtain ⟨_, rfl⟩ := Timeline.advances_of_empty.mp ((Timeline.moves_iff knownFirst).mp one)
  obtain ⟨_, same⟩ := Timeline.advances_of_empty.mp ((Timeline.moves_iff knownSecond).mp two)
  injection same with clocks
  injection clocks with reading
  exact lost reading.symm

end Rehearsal
end BroadcastGraphics
