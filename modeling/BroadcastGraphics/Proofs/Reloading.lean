import BroadcastGraphics.Proofs.RehearsalView

/-!
# Loading forgets the past

A graphic that has just been loaded shows a view that depends on nothing but its tag, its elements
and its settings, whatever was done before and whatever the clock reads.  So two rehearsals of
graphics with one id that end with the same elements and settings cannot be told apart after they
have been loaded.

The steps before the loading are arbitrary: the clock can be moved back, by fractions of
milliseconds and by spans that are no numbers.  What matters is that a clock that still reads a
number has an orderly queue.
-/

namespace BroadcastGraphics

namespace Playback

theorem tag_startMovement
    (playback : Playback)
    (schedule : Schedule)
    (duration : Int)
    (ending : Ending) :
    (playback.startMovement 0 duration ending schedule).1.1.tag = playback.tag := by
  unfold startMovement
  cases Binary64.nearest? duration <;> rfl

theorem tag_play
    (playback : Playback)
    (schedule : Schedule)
    (skip : Bool) :
    (playback.play 0 skip schedule).1.1.tag = playback.tag := by
  unfold play
  split
  · rfl
  · cases skip with
    | true =>
      simp only [if_true]
      rfl
    | false =>
      simp only [Bool.false_eq_true, if_false]
      exact tag_startMovement _ _ _ _

theorem tag_stop
    (playback : Playback)
    (schedule : Schedule)
    (skip : Bool) :
    (playback.stop 0 skip schedule).1.1.tag = playback.tag := by
  unfold stop
  split
  · rfl
  · simp only [interrupt_isVisible]
    cases playback.isVisible with
    | false =>
      simp only [Bool.not_false, if_true]
      rfl
    | true =>
      cases skip with
      | true =>
        simp only [Bool.not_true, Bool.false_eq_true, if_false, if_true]
        rfl
      | false =>
        simp only [Bool.not_true, Bool.false_eq_true, if_false]
        exact tag_startMovement _ _ _ _

theorem tag_refreshed
    (playback : Playback) :
    playback.refreshed.tag = playback.tag := by
  unfold refreshed
  split <;> rfl

theorem tag_update
    (playback : Playback)
    (schedule : Schedule)
    (data : Json) :
    (playback.update data schedule).1.1.tag = playback.tag := by
  unfold update
  split
  · rfl
  · generalize (if data.isTruthy then Json.putMembers playback.data data
      else (playback.data, .ok ())) = written
    obtain ⟨members, written⟩ := written
    cases written with
    | error fault => rfl
    | ok _ => exact tag_refreshed _

/-- No command changes the tag of a graphic. -/
theorem tag_run
    (playback : Playback)
    (schedule : Schedule)
    (command : Command) :
    (playback.run 0 schedule command).1.1.tag = playback.tag := by
  cases command with
  | load => rfl
  | dispose => rfl
  | play skip => exact tag_play playback schedule skip
  | stop skip => exact tag_stop playback schedule skip
  | update data => exact tag_update playback schedule data
  | replaceContent elements settings => exact tag_refreshed _
  | custom action =>
    rw [run_custom]
    unfold custom
    split
    · exact tag_play playback schedule false
    · split
      · exact tag_stop playback schedule false
      · rfl

end Playback

namespace Rehearsal

/-! ## Before the loading -/

/-- The rehearsal is what some steps make of a graphic with an id. -/
def Reached (id : String) (rehearsal : Rehearsal) : Prop :=
  ∃ elements settings steps, rehearsal = (opening id elements settings).run steps

/-- The graphic has a tag, it is linked to its clock, and the clock has failed. -/
structure Failed (tag : String) (rehearsal : Rehearsal) : Prop where
  linked : rehearsal.playback.Linked rehearsal.schedule
  tag : rehearsal.playback.tag = tag
  now : rehearsal.schedule.timeline.now = .nan

/-- The graphic has a tag, and its clock is in order unless it has failed. -/
def Steady (tag : String) (rehearsal : Rehearsal) : Prop :=
  Failed tag rehearsal ∨ InOrder rehearsal ∧ rehearsal.playback.tag = tag

variable {tag : String} {rehearsal : Rehearsal}

theorem tag_ended
    (playback : Playback)
    (ending : Ending) :
    (playback.ended ending).tag = playback.tag := by
  cases ending <;> rfl

/-- A run over all timers does not mend a clock that has failed. -/
theorem Failed.takeDue_everything
    (failed : Failed tag rehearsal) :
    Failed tag (rehearsal.takeDue .everything) := by
  refine takeDue_induction (fun after failed => failed.linked.own) ?_ failed
  intro after timer others failed first _
  have reading :
      Timeline.Limit.everything.reading after.schedule.timeline.now timer.due = .nan := by
    rw [failed.now]
    rfl
  refine ⟨linked_take failed.linked first .everything, ?_, ?_⟩
  · cases live : timer.cancelled with
    | true =>
      rw [take_of_cancelled live]
      exact failed.tag
    | false =>
      rw [take_of_fires failed.linked first live]
      exact (tag_ended _ _).trans failed.tag
  · rw [take_timeline failed.linked first .everything]
    exact reading

/-- No timer is due by a time that is no number. -/
theorem takeDue_nan
    (linked : rehearsal.playback.Linked rehearsal.schedule) :
    rehearsal.takeDue (.upTo .nan) = rehearsal := by
  refine takeDue_induction (motive := fun after => after = rehearsal) ?_ ?_ rfl
  · rintro after rfl
    exact linked.own
  · rintro after timer others rfl _ admitted
    have due : timer.due.le .nan = true := admitted
    rw [Binary64.le_nan] at due
    cases due

theorem InOrder.tag_takeDue
    (inOrder : InOrder rehearsal)
    (limit : Timeline.Limit) :
    (rehearsal.takeDue limit).playback.tag = rehearsal.playback.tag := by
  rcases (inOrder.takeDue limit).2 with ⟨unmoved, _⟩ | ⟨timer, _, expired⟩
  · rw [unmoved.playback]
  · rw [expired.playback, tag_ended]

theorem Steady.perform
    (steady : Steady tag rehearsal)
    (command : Playback.Command) :
    Steady tag (rehearsal.perform command).1 := by
  rw [perform_eq]
  have tags := rehearsal.playback.tag_run rehearsal.schedule command
  rcases steady with failed | ⟨inOrder, same⟩
  · exact Or.inl ⟨failed.linked.run command, tags.trans failed.tag,
      (run_now failed.linked command).trans failed.now⟩
  · by_cases failed : rehearsal.schedule.timeline.now = .nan
    · exact Or.inl ⟨inOrder.linked.run command, tags.trans same,
        (run_now inOrder.linked command).trans failed⟩
    · exact Or.inr ⟨⟨inOrder.linked.run command,
        run_orderly inOrder.linked inOrder.orderly failed command⟩, tags.trans same⟩

theorem Steady.setClock
    (inOrder : InOrder rehearsal)
    (same : rehearsal.playback.tag = tag)
    (now : Binary64) :
    Steady tag (rehearsal.setClock now) :=
  Or.inr ⟨⟨linked_setClock inOrder.linked now, inOrder.orderly.proper, inOrder.orderly.ordered⟩,
    same⟩

/-- Whatever the step, a graphic keeps its tag, and its clock is in order unless it has failed. -/
theorem Steady.step
    (steady : Steady tag rehearsal)
    (step : Step) :
    Steady tag (rehearsal.step step).1 := by
  cases step with
  | command command => exact steady.perform command
  | runAll =>
    rw [step_runAll]
    rcases steady with failed | ⟨inOrder, same⟩
    · exact Or.inl failed.takeDue_everything
    · exact Or.inr ⟨(inOrder.takeDue _).1, (inOrder.tag_takeDue _).trans same⟩
  | advance span =>
    cases known : span.measured with
    | error fault =>
      rw [step_advance_of_error rehearsal known]
      exact steady
    | ok measured =>
      rw [step_advance rehearsal known]
      rcases steady with failed | ⟨inOrder, same⟩
      · have target : rehearsal.schedule.timeline.now.add measured = .nan := by
          rw [failed.now]
          cases measured <;> rfl
        rw [target, takeDue_nan failed.linked]
        exact Or.inl ⟨linked_setClock failed.linked _, failed.tag, rfl⟩
      · exact Steady.setClock (inOrder.takeDue _).1 ((inOrder.tag_takeDue _).trans same) _

theorem steady_opening
    (id : String)
    (elements : List Element)
    (settings : Option AnimationSettings) :
    Steady (Naming.tagName id) (opening id elements settings) :=
  Or.inr ⟨⟨linked_opening id elements settings, Timeline.orderly_empty⟩, rfl⟩

theorem Reached.steady
    {id : String}
    (reached : Reached id rehearsal) :
    Steady (Naming.tagName id) rehearsal := by
  obtain ⟨elements, settings, steps, rfl⟩ := reached
  have allowed : ∀ step ∈ steps, (fun _ : Step => True) step := fun _ _ => trivial
  exact run_induction (fun _ step _ steady => steady.step step)
    (steady_opening id elements settings) allowed

theorem Reached.coherent
    {id : String}
    (reached : Reached id rehearsal) :
    ∃ latest, Coherent latest rehearsal := by
  obtain ⟨elements, settings, steps, rfl⟩ := reached
  exact ⟨_, (coherent_opening id elements settings).run steps⟩

/-! ## After the loading -/

/-- What is seen of a graphic that has just been loaded. -/
def View.loaded (tag : String) (elements : List Element) (settings : AnimationSettings) : View where
  graphic :=
    { tag := tag
      elements := elements
      settings := settings
      phase := .hidden }
  outcomes := [some .completed]

/-- Whatever was done before, a graphic that has just been loaded shows the view of its content. -/
theorem Reached.shows_loaded
    {id : String}
    (reached : Reached id rehearsal)
    {now : Int}
    (clock : rehearsal.schedule.timeline.now.whole? = some now) :
    Shows rehearsal.completions.length now (rehearsal.step (.command .load)).1
      (View.loaded (Naming.tagName id) rehearsal.playback.elements
        rehearsal.playback.settings) := by
  obtain ⟨latest, coherent⟩ := reached.coherent
  have working : rehearsal.schedule.timeline.now ≠ .nan := by
    intro failed
    rw [failed] at clock
    cases clock
  obtain ⟨inOrder, tag⟩ : InOrder rehearsal ∧ rehearsal.playback.tag = Naming.tagName id := by
    rcases reached.steady with failed | steady
    · exact absurd failed.now working
    · exact steady
  have outcomes := outcomes_perform coherent.linked coherent.known .load
  have length : rehearsal.outcomes.length = rehearsal.completions.length := List.length_map _
  refine ⟨⟨_, coherent.step (.command .load)⟩, ?_, ?_, ?_, ?_, ?_, ?_⟩
  · rw [step_command, perform_eq]
    exact run_orderly inOrder.linked inOrder.orderly working .load
  · rw [step_command, perform_eq]
    exact (congrArg Binary64.whole? (run_now inOrder.linked .load)).trans clock
  · rw [step_command, perform_eq, ← tag]
    rfl
  · rw [step_command, perform_eq]
    exact inOrder.linked.interrupt.still
  · rw [step_command, perform_eq]
    exact List.length_append ▸ Nat.le_add_right _ _
  · rw [step_command, outcomes]
    refine List.drop_left' ?_
    exact (List.length_map _).trans length

/-- Loading forgets the past.  Let two rehearsals of graphics with one id, after any steps, hold the
same elements and settings, and let their clocks read whole milliseconds.  After both have been
loaded, every script of commands and moves of the clock by whole milliseconds has the same answers
on both, as long as no clock reaches `2 ^ 53` milliseconds.  At its end, and so at every step of it,
the same is seen of both graphics, their containers have the same history, and the commands since
the loading have the same outcomes. -/
theorem loading_forgets_past
    {id : String}
    {first second : Rehearsal}
    (firstReached : Reached id first)
    (secondReached : Reached id second)
    (elements : first.playback.elements = second.playback.elements)
    (settings : first.playback.settings = second.playback.settings)
    {firstNow secondNow : Int}
    (firstClock : first.schedule.timeline.now.whole? = some firstNow)
    (secondClock : second.schedule.timeline.now.whole? = some secondNow)
    {script : List Step}
    {span : Nat}
    (moves : elapsed? script = some span)
    (firstRange : -2 ^ 53 ≤ firstNow ∧ firstNow + span < 2 ^ 53)
    (secondRange : -2 ^ 53 ≤ secondNow ∧ secondNow + span < 2 ^ 53) :
    let firstAfter := first.run (.command .load :: script)
    let secondAfter := second.run (.command .load :: script)
    first.replies (.command .load :: script) = second.replies (.command .load :: script) ∧
      firstAfter.playback.members firstAfter.schedule =
        secondAfter.playback.members secondAfter.schedule ∧
      firstAfter.playback.history = secondAfter.playback.history ∧
      firstAfter.outcomes.drop first.completions.length =
        secondAfter.outcomes.drop second.completions.length := by
  intro firstAfter secondAfter
  have secondLoaded := secondReached.shows_loaded secondClock
  rw [← elements, ← settings] at secondLoaded
  obtain ⟨firstShows, firstReplies⟩ :=
    (firstReached.shows_loaded firstClock).run firstRange.1 moves firstRange.2
  obtain ⟨secondShows, secondReplies⟩ := secondLoaded.run secondRange.1 moves secondRange.2
  refine ⟨?_, ?_, ?_, ?_⟩
  · refine List.cons_eq_cons.mpr ⟨rfl, ?_⟩
    exact firstReplies.trans secondReplies.symm
  · exact firstShows.members.trans secondShows.members.symm
  · exact firstShows.history.trans secondShows.history.symm
  · exact firstShows.outcomes.trans secondShows.outcomes.symm

/-- What was done to a graphic that was loaded, informed and left in the middle of its entrance. -/
def usedGraphic : Rehearsal :=
  (opening "clock" [] none).run [.command .load,
    .command (.update (.obj [("headline", .str "News")])), .command (.play false),
    .advance (.integer 7)]

/-- After loading a graphic that was left in the middle of its entrance enters like a new one. -/
theorem entrance_alike_after_reloading :
    usedGraphic.schedule.timeline.now.whole? = some 7 ∧
      usedGraphic.completions.length = 3 ∧
      (usedGraphic.run [.command .load, .command (.play false), .advance (.integer 499),
        .advance (.integer 1)]).outcomes.drop 3 = [some .completed, some .completed] := by
  have clock : usedGraphic.schedule.timeline.now.whole? = some 7 := by decide +kernel
  have handed : usedGraphic.completions.length = 3 := by decide +kernel
  have newClock : (opening "clock" [] none).schedule.timeline.now.whole? = some 0 := by
    decide +kernel
  have reached : Reached "clock" usedGraphic := ⟨[], none, _, rfl⟩
  have new : Reached "clock" (opening "clock" [] none) := ⟨[], none, [], rfl⟩
  have elements : usedGraphic.playback.elements = (opening "clock" [] none).playback.elements := by
    decide +kernel
  have settings : usedGraphic.playback.settings = (opening "clock" [] none).playback.settings := by
    decide +kernel
  have moves : elapsed? [.command (.play false), .advance (.integer 499),
      .advance (.integer 1)] = some 500 := by
    decide +kernel
  obtain ⟨_, _, _, outcomes⟩ := loading_forgets_past reached new elements settings clock newClock
    moves (by decide) (by decide)
  rw [handed] at outcomes
  refine ⟨clock, handed, outcomes.trans ?_⟩
  decide +kernel

/-- From `2 ^ 53` milliseconds on a clock does not count single milliseconds any more: an entrance
of one millisecond is completed at once on a clock that reads as much, and it is still open on a new
clock, though both graphics have just been loaded. -/
theorem short_entrance_tells_clocks_apart :
    let settings := some { AnimationSettings.standard with slideInDuration := 1 }
    let used := (opening "clock" [] settings).run [.advance (.integer (2 ^ 53))]
    let script : List Step := [.command .load, .command (.play false), .advance (.integer 0)]
    used.schedule.timeline.now.whole? = some (2 ^ 53) ∧
      (opening "clock" [] settings).schedule.timeline.now.whole? = some 0 ∧
      (used.run script).outcomes = [some .completed, some .completed] ∧
      ((opening "clock" [] settings).run script).outcomes = [some .completed, none] := by
  decide +kernel

end Rehearsal
end BroadcastGraphics
