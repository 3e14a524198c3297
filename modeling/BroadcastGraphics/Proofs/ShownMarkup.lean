import BroadcastGraphics.Proofs.Movement

/-!
# The markup of a shown graphic

The markup of a graphic is kept beside the elements, the data and the pose that it was rendered
from, and commands and timers change these one by one.  While the graphic is on the canvas, the
markup is nevertheless that of its present elements and pose, and its pose is the last one of its
history; otherwise the markup is empty and the container is back at its place.

The data are those of the last step that rendered.  They are the present ones as long as no update
breaks off, and an update breaks off only over data that are neither members nor nothing: a list
of pairs is written up to its first faulty pair, and what was written is not rendered.
-/

namespace BroadcastGraphics

/-- Renderings at one pose are the same only if the elements show the same. -/
theorem Markup.shown_of_preview
    {elements : List Element}
    {data other : Table Json}
    {transform transition : String}
    (same : preview elements data transform transition =
      preview elements other transform transition) :
    (elements.flatMap (elementParts data)).flatMap Part.characters =
      (elements.flatMap (elementParts other)).flatMap Part.characters := by
  have characters := String.ofList_injective same
  unfold previewParts at characters
  simp only [List.flatMap_append] at characters
  exact List.append_cancel_left (List.append_cancel_right characters)

namespace Playback

/-- The markup of the graphic for given data. -/
def markupOf (playback : Playback) (data : Table Json) : String :=
  Markup.preview playback.elements data playback.pose.transform playback.pose.transition

/-- On the canvas the graphic displays the given data at the last place of its container; off the
canvas it displays nothing. -/
structure Displays (data : Table Json) (playback : Playback) : Prop where
  markup : playback.isVisible = true -> playback.markup = playback.markupOf data
  place : playback.isVisible = true -> playback.history.getLast? = some playback.pose
  blank : playback.isVisible = false -> playback.markup = "" ∧ playback.pose = Pose.neutral

variable {playback : Playback} {data : Table Json} {schedule : Schedule} {graphic : Nat}

theorem isVisible_of_disposed
    (disposed : playback.phase = .disposed) :
    playback.isVisible = false := by
  unfold isVisible
  rw [disposed]
  rfl

/-- A graphic that is off the canvas displays any data, as it displays none. -/
theorem displays_of_gone
    (gone : playback.isVisible = false)
    (blank : playback.markup = "" ∧ playback.pose = Pose.neutral) :
    Displays data playback where
  markup := fun shown => absurd (gone.symm.trans shown) Bool.false_ne_true
  place := fun shown => absurd (gone.symm.trans shown) Bool.false_ne_true
  blank := fun _ => blank

theorem Displays.of_gone
    (displays : Displays data playback)
    (gone : playback.isVisible = false)
    (other : Table Json) :
    Displays other playback :=
  displays_of_gone gone (displays.blank gone)

/-- A graphic that was taken from the canvas displays nothing. -/
theorem displays_cleared
    (gone : playback.isVisible = false)
    (data : Table Json) :
    Displays data playback.cleared :=
  displays_of_gone gone ⟨rfl, rfl⟩

/-- What is held of a movement is not displayed. -/
theorem Displays.startMovement
    (displays : Displays data playback)
    (graphic : Nat)
    (duration : Int)
    (ending : Ending)
    (schedule : Schedule) :
    Displays data (playback.startMovement graphic duration ending schedule).1.1 := by
  unfold Playback.startMovement
  cases Binary64.nearest? duration <;> exact ⟨displays.markup, displays.place, displays.blank⟩

/-- The timer that ends a movement shows what was displayed during the movement, or hides it. -/
theorem Displays.ended
    (displays : Displays data playback)
    (shown : playback.isVisible = true)
    (ending : Ending) :
    Displays data (playback.ended ending) := by
  cases ending with
  | becomeVisible =>
    refine ⟨fun _ => displays.markup shown, fun _ => displays.place shown, fun gone => ?_⟩
    cases gone
  | hide => exact displays_cleared rfl data

/-! ## Commands -/

/-- The graphic displays its present data, or nothing. -/
def Settled (playback : Playback) : Prop :=
  Displays playback.data playback

/-- A container that was given a pose displays the present data at this pose. -/
theorem settled_posed
    (shown : playback.isVisible = true)
    (pose : Pose) :
    Settled (playback.posed pose) where
  markup := fun _ => rfl
  place := fun _ => List.getLast?_concat
  blank := fun gone => absurd (gone.symm.trans shown) Bool.false_ne_true

theorem Settled.startMovement
    (settled : Settled playback)
    (graphic : Nat)
    (duration : Int)
    (ending : Ending)
    (schedule : Schedule) :
    Settled (playback.startMovement graphic duration ending schedule).1.1 := by
  have same : (playback.startMovement graphic duration ending schedule).1.1.data =
      playback.data := by
    unfold Playback.startMovement
    cases Binary64.nearest? duration <;> rfl
  unfold Settled
  rw [same]
  exact Displays.startMovement settled graphic duration ending schedule

/-- Changed elements or data are displayed as soon as they are rendered. -/
theorem Displays.refreshed
    (displays : Displays data playback)
    (elements : List Element)
    (settings : AnimationSettings)
    (members : Table Json) :
    Settled ({ playback with elements, settings, data := members } : Playback).refreshed := by
  unfold Playback.refreshed
  split
  · rename_i shown
    exact ⟨fun _ => rfl, fun _ => displays.place shown,
      fun gone => absurd (gone.symm.trans shown) Bool.false_ne_true⟩
  · rename_i gone
    have gone : playback.isVisible = false := Bool.eq_false_iff.2 gone
    exact displays_of_gone gone (displays.blank gone)

theorem Displays.play
    (displays : Displays data playback)
    (skip : Bool) :
    Settled (playback.play graphic skip schedule).1.1 := by
  unfold Playback.play
  by_cases disposed : playback.phase = .disposed
  · rw [if_pos disposed]
    exact displays.of_gone (isVisible_of_disposed disposed) _
  · rw [if_neg disposed]
    cases skip with
    | true => exact settled_posed (by rfl) _
    | false =>
      simp only [Bool.false_eq_true, if_false]
      exact (settled_posed (by rfl) _).startMovement _ _ _ _

theorem Displays.stop
    (displays : Displays data playback)
    (skip : Bool) :
    Settled (playback.stop graphic skip schedule).1.1 := by
  unfold Playback.stop
  by_cases disposed : playback.phase = .disposed
  · rw [if_pos disposed]
    exact displays.of_gone (isVisible_of_disposed disposed) _
  · rw [if_neg disposed]
    simp only [interrupt_isVisible]
    cases visible : playback.isVisible with
    | false =>
      simp only [Bool.not_false, if_true]
      exact displays_of_gone visible (displays.blank visible)
    | true =>
      cases skip with
      | true => exact displays_cleared (by rfl) _
      | false =>
        simp only [Bool.not_true, Bool.false_eq_true, if_false]
        exact (settled_posed (by rfl) _).startMovement _ _ _ _

/-- The command renders the present data, unless the graphic is off the canvas.  An update that
breaks off renders nothing, and neither does an action that is unknown. -/
def Command.renders : Command -> Completion -> Bool
  | .update _, .failed _ => false
  | .custom action, _ => action == "slideIn" || action == "slideOut"
  | _, _ => true

/-- The data that are displayed after a command, given those that were displayed before. -/
def displayedBy (graphic : Nat) (playback : Playback) (schedule : Schedule) (data : Table Json)
    (command : Command) : Table Json :=
  if command.renders (playback.run graphic schedule command).2 then
    (playback.run graphic schedule command).1.1.data
  else data

/-- An update displays the data that it writes, or it breaks off and displays what was displayed
before. -/
theorem Displays.update
    (displays : Displays data playback)
    (schedule : Schedule)
    (given : Json) :
    (∃ outcome, (playback.update given schedule).2 = .settled outcome ∧
        Settled (playback.update given schedule).1.1) ∨
      ∃ fault, (playback.update given schedule).2 = .failed fault ∧
        Displays data (playback.update given schedule).1.1 := by
  unfold Playback.update
  by_cases disposed : playback.phase = .disposed
  · rw [if_pos disposed]
    exact Or.inl ⟨_, rfl, displays.of_gone (isVisible_of_disposed disposed) _⟩
  · rw [if_neg disposed]
    -- members that were written before a fault stay, but only a whole update is rendered
    generalize (if given.isTruthy then Json.putMembers playback.data given
      else (playback.data, .ok ())) = written
    obtain ⟨members, written⟩ := written
    cases written with
    | error fault =>
      exact Or.inr ⟨fault, rfl, displays.markup, displays.place, displays.blank⟩
    | ok _ =>
      exact Or.inl ⟨_, rfl, displays.refreshed playback.elements playback.settings members⟩

/-- Every command displays what it renders, and leaves the rest as it was. -/
theorem Displays.run
    (displays : Displays data playback)
    (command : Command) :
    Displays (playback.displayedBy graphic schedule data command)
      (playback.run graphic schedule command).1.1 := by
  cases command with
  | load => exact displays_cleared rfl _
  | dispose => exact displays_cleared rfl _
  | play skip => exact displays.play skip
  | stop skip => exact displays.stop skip
  | update given =>
    have result : playback.run graphic schedule (.update given) =
      playback.update given schedule := rfl
    unfold displayedBy
    rw [result]
    rcases displays.update schedule given with
      ⟨outcome, answer, settled⟩ | ⟨fault, answer, kept⟩
    · rw [answer]
      exact settled
    · rw [answer]
      exact kept
  | replaceContent elements settings =>
    exact displays.refreshed elements (settings.getD .standard) playback.data
  | custom action =>
    unfold displayedBy
    simp only [run_custom, Command.renders]
    unfold custom
    by_cases slidesIn : (action == "slideIn") = true
    · simp only [slidesIn, Bool.true_or, if_true]
      exact displays.play false
    · by_cases slidesOut : (action == "slideOut") = true
      · simp only [slidesIn, slidesOut, Bool.or_true, Bool.false_eq_true, if_true, if_false]
        exact displays.stop false
      · simp only [slidesIn, slidesOut, Bool.or_false, Bool.false_eq_true, if_false]
        exact displays

/-- The data that an update gives are members, or they stand for nothing. -/
def Command.givesMembers : Command -> Prop
  | .update given => given.isTruthy = true -> given.obj?.isSome = true
  | _ => True

/-- The displayed data stay the present ones under a command that gives nothing but members. -/
theorem displayedBy_data
    (schedule : Schedule)
    {command : Command}
    (members : command.givesMembers) :
    playback.displayedBy graphic schedule playback.data command =
      (playback.run graphic schedule command).1.1.data := by
  unfold displayedBy
  cases command with
  | load => rfl
  | dispose => rfl
  | play skip => rfl
  | stop skip => rfl
  | replaceContent elements settings => rfl
  | update given =>
    change (if Command.renders (.update given) (playback.update given schedule).2 then
      (playback.update given schedule).1.1.data else playback.data) =
        (playback.update given schedule).1.1.data
    unfold Playback.update
    split
    · rfl
    · cases truthy : given.isTruthy with
      | false => rfl
      | true =>
        cases given with
        | obj written => rfl
        | _ => cases members truthy
  | custom action =>
    simp only [run_custom, Command.renders]
    unfold custom
    by_cases slidesIn : (action == "slideIn") = true
    · simp only [slidesIn, Bool.true_or, if_true]
    · by_cases slidesOut : (action == "slideOut") = true
      · simp only [slidesIn, slidesOut, Bool.or_true, Bool.false_eq_true, if_true, if_false]
      · simp only [slidesIn, slidesOut, Bool.or_false, Bool.false_eq_true, if_false]

end Playback

namespace Rehearsal

/-! ## Runs -/

variable {rehearsal : Rehearsal} {data : Table Json}

/-- The data that are displayed after a step: those that its command renders, or those before. -/
def displayedBy (rehearsal : Rehearsal) (data : Table Json) (step : Step) : Table Json :=
  match step.command? with
  | some command => rehearsal.playback.displayedBy 0 rehearsal.schedule data command
  | none => data

/-- The data that are displayed after the steps of a list. -/
def displayed (rehearsal : Rehearsal) (data : Table Json) : List Step -> Table Json
  | [] => data
  | step :: rest => (rehearsal.step step).1.displayed (rehearsal.displayedBy data step) rest

/-- A graphic that is linked to its clock displays the given data. -/
structure Presents (data : Table Json) (rehearsal : Rehearsal) : Prop where
  linked : rehearsal.playback.Linked rehearsal.schedule
  displays : rehearsal.playback.Displays data

theorem presents_opening
    (id : String)
    (elements : List Element)
    (settings : Option AnimationSettings) :
    Presents [] (opening id elements settings) where
  linked := linked_opening id elements settings
  displays := by
    have gone : (Playback.make id elements settings).isVisible = false := rfl
    exact Playback.displays_cleared gone []

theorem Presents.take
    (presents : Presents data rehearsal)
    {timer : Timer Cue}
    {others : List (Timer Cue)}
    (first : rehearsal.schedule.timeline.queue = timer :: others)
    (limit : Timeline.Limit) :
    Presents data (rehearsal.take limit timer) ∧
      (rehearsal.take limit timer).playback.data = rehearsal.playback.data := by
  have linked := linked_take presents.linked first limit
  cases live : timer.cancelled with
  | true =>
    rw [take_of_cancelled live] at linked ⊢
    exact ⟨⟨linked, presents.displays⟩, rfl⟩
  | false =>
    obtain ⟨_, awaited, _⟩ := presents.linked.of_fires first live limit
    -- the graphic waits for this timer, so it is on its way in or out and can be seen
    have moving : rehearsal.playback.phase.isMoving = true := by
      rw [presents.linked.moving, awaited]
      rfl
    have shown := Phase.isShown_of_isMoving moving
    rw [take_of_fires presents.linked first live] at linked ⊢
    refine ⟨⟨linked, presents.displays.ended shown timer.action.ending⟩, ?_⟩
    cases timer.action.ending <;> rfl

/-- Moves of the clock change neither the displayed data nor the present ones. -/
theorem Presents.move
    (presents : Presents data rehearsal)
    {step : Step}
    (move : step.command? = none) :
    Presents data (rehearsal.step step).1 ∧
      (rehearsal.step step).1.playback.data = rehearsal.playback.data := by
  refine move_induction
    (motive := fun after => Presents data after ∧ after.playback.data = rehearsal.playback.data)
    (fun after held => held.1.linked.own) ?_ ?_ ⟨presents, rfl⟩ move
  · rintro after limit timer others ⟨held, same⟩ first _
    obtain ⟨taken, unchanged⟩ := held.take first limit
    exact ⟨taken, unchanged.trans same⟩
  · rintro after now ⟨held, same⟩
    exact ⟨⟨linked_setClock held.linked now, held.displays⟩, same⟩

theorem Presents.step
    (presents : Presents data rehearsal)
    (step : Step) :
    Presents (rehearsal.displayedBy data step) (rehearsal.step step).1 := by
  unfold displayedBy
  cases step with
  | advance span => exact (presents.move rfl).1
  | runAll => exact (presents.move rfl).1
  | command command =>
    rw [step_command, perform_eq]
    exact ⟨presents.linked.run command, presents.displays.run command⟩

theorem Presents.run
    (presents : Presents data rehearsal)
    (steps : List Step) :
    Presents (rehearsal.displayed data steps) (rehearsal.run steps) := by
  induction steps generalizing rehearsal data with
  | nil => exact presents
  | cons step rest ih => exact ih (presents.step step)

/-- The displayed data stay the present ones in a step that gives nothing but members. -/
theorem Presents.displayedBy_data
    (presents : Presents rehearsal.playback.data rehearsal)
    {step : Step}
    (members : ∀ command ∈ step.command?, command.givesMembers) :
    rehearsal.displayedBy rehearsal.playback.data step = (rehearsal.step step).1.playback.data := by
  cases step with
  | advance span => exact (presents.move rfl).2.symm
  | runAll => exact (presents.move rfl).2.symm
  | command command =>
    rw [step_command, perform_eq]
    exact Playback.displayedBy_data rehearsal.schedule (members command rfl)

theorem Presents.displayed_data
    (presents : Presents rehearsal.playback.data rehearsal)
    {steps : List Step}
    (members : ∀ step ∈ steps, ∀ command ∈ step.command?, command.givesMembers) :
    rehearsal.displayed rehearsal.playback.data steps = (rehearsal.run steps).playback.data := by
  induction steps generalizing rehearsal with
  | nil => rfl
  | cons step rest ih =>
    have same := presents.displayedBy_data (members step List.mem_cons_self)
    have next := presents.step step
    unfold displayed
    rw [same] at next ⊢
    exact ih next fun later member => members later (List.mem_cons_of_mem step member)

/-- After every run of commands and moves of the clock, the markup of a graphic on the canvas is
the one for its present elements and pose and for the displayed data, and the pose is the last one
of its history; off the canvas the markup is empty and the pose is neutral.  The displayed data are
the present ones if no update was given anything but members or nothing. -/
theorem displays_of_run
    (id : String)
    (elements : List Element)
    (settings : Option AnimationSettings)
    (steps : List Step) :
    ((opening id elements settings).run steps).playback.Displays
        ((opening id elements settings).displayed [] steps) ∧
      ((∀ step ∈ steps, ∀ command ∈ step.command?, command.givesMembers) ->
        (opening id elements settings).displayed [] steps =
          ((opening id elements settings).run steps).playback.data) := by
  have presents := presents_opening id elements settings
  exact ⟨(presents.run steps).displays, presents.displayed_data⟩

/-- The graphic on the canvas shows the rendering of its present data. -/
def ShowsPresentData (rehearsal : Rehearsal) : Prop :=
  rehearsal.playback.isVisible = true -> rehearsal.playback.markup = rehearsal.playback.rendered

/-- An update that breaks off leaves data behind that are not rendered. -/
theorem not_showsPresentData_of_broken_update :
    ¬ ShowsPresentData
      ((opening "stale" [{ id := "title", kind := .text, content := some "\x7b\x7ba\x7d\x7d" }]
        none).run [.command .load, .command (.play true),
          .command (.update (.arr [.arr [.str "a", .str "New"], .int 5]))]) := by
  intro shows
  have same := Markup.shown_of_preview (shows rfl)
  exact absurd same (by decide +kernel)

end Rehearsal
end BroadcastGraphics
