import BroadcastGraphics.Animation
import BroadcastGraphics.Fault
import BroadcastGraphics.Markup
import BroadcastGraphics.Naming
import BroadcastGraphics.Timeline.Span
import BroadcastGraphics.Timeline

/-!
# Playback of a graphic

A graphic is loaded, slides in, is visible, slides out and is hidden again, and it can be disposed
of at any time.  At most one movement is under way: every command that starts something new first
ends the movement before it, whose completion then reads that it was superseded, and whose end has
no effect.  While a graphic is shown, its markup is kept up to date with its elements, its data and
the place of its container.
-/

namespace BroadcastGraphics

/-- Where a graphic is in its life. -/
inductive Phase where
  | unloaded
  | hidden
  | animatingIn
  | visible
  | animatingOut
  | disposed
  deriving DecidableEq, Repr

namespace Phase

/-- The name of a phase. -/
def name : Phase -> String
  | unloaded => "unloaded"
  | hidden => "hidden"
  | animatingIn => "animatingIn"
  | visible => "visible"
  | animatingOut => "animatingOut"
  | disposed => "disposed"

/-- The graphic is on the canvas. -/
def isShown : Phase -> Bool
  | animatingIn => true
  | visible => true
  | animatingOut => true
  | _ => false

end Phase

/-- How a command came out. -/
inductive Outcome where
  | completed
  | skipped
  | superseded
  | noop
  deriving DecidableEq, Repr

/-- The name of an outcome. -/
def Outcome.name : Outcome -> String
  | completed => "completed"
  | skipped => "skipped"
  | superseded => "superseded"
  | noop => "noop"

/-- The place of the container and its way there. -/
structure Pose where
  transform : String
  transition : String
  deriving DecidableEq, Repr

namespace Pose

/-- The transform of a container at its place. -/
def neutralTransform : String := "translateX(0) translateY(0)"

/-- The transition of a container that does not move. -/
def noTransition : String := "none"

/-- At its place and not moving. -/
def neutral : Pose := ⟨neutralTransform, noTransition⟩

/-- The transform of a container that is off the canvas on one side. -/
def offsetTransform : Direction -> String
  | .left => "translateX(-100%)"
  | .right => "translateX(100%)"
  | .top => "translateY(-100%)"
  | .bottom => "translateY(100%)"

/-- The transform for a direction given as a value; what is no direction counts as the left. -/
def offsetFor (value : Json) : String :=
  offsetTransform ((value.str?.bind (Table.get? Direction.options)).getD .left)

/-- The transition that takes some milliseconds. -/
def transitionText (duration easing : String) : String :=
  "transform " ++ duration ++ "ms " ++ easing

/-- The transition of a movement. -/
def moving (duration : Int) (easing : Easing) : String :=
  transitionText (integerText duration) easing.name

end Pose

/-- What the end of a movement does. -/
inductive Ending where
  | becomeVisible
  | hide
  deriving DecidableEq, Repr

/-- The timer of a movement: the graphic it belongs to, the completion it settles, and the end. -/
structure Cue where
  graphic : Nat
  waiter : Nat
  ending : Ending
  deriving DecidableEq, Repr

/-- The clock that graphics share, and the outcomes of the movements started so far. -/
structure Schedule where
  timeline : Timeline Cue := {}
  outcomes : List (Option Outcome) := []

namespace Schedule

/-- Settle the outcome of a movement unless it is settled. -/
def settle (schedule : Schedule) (waiter : Nat) (outcome : Outcome) : Schedule :=
  { schedule with
    outcomes := schedule.outcomes.modify waiter fun settled => some (settled.getD outcome) }

/-- The outcome of a movement, if it is settled. -/
def outcome? (schedule : Schedule) (waiter : Nat) : Option Outcome :=
  (schedule.outcomes[waiter]?).join

end Schedule

/-- The answer to a command: an outcome at once, the number of the movement to wait for, or the
fault by which the command broke off after it had begun. -/
inductive Completion where
  | settled (outcome : Outcome)
  | waiting (waiter : Nat)
  | failed (fault : Fault)
  deriving DecidableEq

/-- The outcome of a command, if it is settled. -/
def Completion.outcome? (completion : Completion) (schedule : Schedule) : Option Outcome :=
  match completion with
  | settled outcome => some outcome
  | waiting waiter => schedule.outcome? waiter
  | failed _ => none

/-- A live graphic. -/
structure Playback where
  tag : String
  elements : List Element
  settings : AnimationSettings
  phase : Phase := .unloaded
  data : Table Json := []
  markup : String := ""
  pose : Pose := Pose.neutral
  history : List Pose := []
  startedAt : Option Binary64 := none
  timersStarted : Nat := 0
  timer : Option Nat := none
  waiter : Option Nat := none

namespace Playback

/-- A graphic that has not been loaded; without settings the standard ones are used. -/
def make (id : String) (elements : List Element) (settings : Option AnimationSettings) :
    Playback where
  tag := Naming.tagName id
  elements := elements
  settings := settings.getD .standard

/-- The graphic is on the canvas. -/
def isVisible (playback : Playback) : Bool :=
  playback.phase.isShown

/-- A movement of the graphic is under way. -/
def isMoving (playback : Playback) (schedule : Schedule) : Bool :=
  match playback.timer with
  | some order => schedule.timeline.isPending order
  | none => false

/-- The markup for the present elements, data and pose. -/
def rendered (playback : Playback) : String :=
  Markup.preview playback.elements playback.data playback.pose.transform playback.pose.transition

/-- Take the graphic from the canvas. -/
def cleared (playback : Playback) : Playback :=
  { playback with markup := "", pose := Pose.neutral }

/-- Give the container a pose. -/
def posed (playback : Playback) (pose : Pose) : Playback :=
  let placed := { playback with pose := pose, history := playback.history ++ [pose] }
  { placed with markup := placed.rendered }

/-- The graphic after its exit. -/
def hidden (playback : Playback) : Playback :=
  ({ playback with phase := .hidden } : Playback).cleared

/-- End the movement under way; its completion reads that it was superseded. -/
def interrupt (playback : Playback) (schedule : Schedule) : Playback × Schedule :=
  let schedule := match playback.timer with
    | some order => { schedule with timeline := schedule.timeline.cancel order }
    | none => schedule
  let schedule := match playback.waiter with
    | some waiter => schedule.settle waiter .superseded
    | none => schedule
  ({ playback with timer := none, waiter := none }, schedule)

/-- Start a movement of the graphic with a number, whose timer has a delay as the clock measures it.
A movement without such a delay begins but gets no timer. -/
def beginMovement (graphic : Nat) (ending : Ending) (playback : Playback) (schedule : Schedule) :
    Option Binary64 -> (Playback × Schedule) × Completion
  | none =>
      (({ playback with
          waiter := some schedule.outcomes.length
          startedAt := some schedule.timeline.now },
        { schedule with outcomes := schedule.outcomes ++ [none] }),
        .failed .outOfRange)
  | some delay =>
      (({ playback with
          waiter := some schedule.outcomes.length
          startedAt := some schedule.timeline.now
          timer := some schedule.timeline.nextOrder
          timersStarted := playback.timersStarted + 1 },
        { schedule with
          timeline := schedule.timeline.later delay ⟨graphic, schedule.outcomes.length, ending⟩
          outcomes := schedule.outcomes ++ [none] }),
        .waiting schedule.outcomes.length)

/-- Start a movement of the graphic with a number that takes some milliseconds. -/
def startMovement (graphic : Nat) (duration : Int) (ending : Ending) (playback : Playback)
    (schedule : Schedule) : (Playback × Schedule) × Completion :=
  playback.beginMovement graphic ending schedule (Binary64.nearest? duration)

/-- Load the graphic: it forgets its data and is hidden. -/
def load (playback : Playback) (schedule : Schedule) : (Playback × Schedule) × Completion :=
  let (playback, schedule) := playback.interrupt schedule
  (({ playback with data := [], phase := .hidden, history := [] } : Playback).cleared, schedule)
    |> (·, .settled .completed)

/-- Dispose of the graphic. -/
def dispose (playback : Playback) (schedule : Schedule) : (Playback × Schedule) × Completion :=
  let (playback, schedule) := playback.interrupt schedule
  ((({ playback with phase := .disposed } : Playback).cleared, schedule), .settled .completed)

/-- Bring the graphic in, at once or by a movement. -/
def play (graphic : Nat) (skip : Bool) (playback : Playback) (schedule : Schedule) :
    (Playback × Schedule) × Completion :=
  if playback.phase = .disposed then ((playback, schedule), .settled .noop)
  else
    let (playback, schedule) := playback.interrupt schedule
    if skip then
      ((({ playback with phase := .visible } : Playback).posed Pose.neutral, schedule),
        .settled .skipped)
    else
      let settings := playback.settings
      let entering := { playback with phase := .animatingIn }
      let offset := entering.posed
        ⟨Pose.offsetTransform settings.slideInDirection, Pose.noTransition⟩
      let moving := offset.posed
        ⟨Pose.neutralTransform, Pose.moving settings.slideInDuration settings.slideInEasing⟩
      moving.startMovement graphic settings.slideInDuration .becomeVisible schedule

/-- Take the graphic out, at once or by a movement. -/
def stop (graphic : Nat) (skip : Bool) (playback : Playback) (schedule : Schedule) :
    (Playback × Schedule) × Completion :=
  if playback.phase = .disposed then ((playback, schedule), .settled .noop)
  else
    let (playback, schedule) := playback.interrupt schedule
    if !playback.isVisible then ((playback, schedule), .settled .noop)
    else if skip then ((playback.hidden, schedule), .settled .skipped)
    else
      let settings := playback.settings
      let leaving := ({ playback with phase := .animatingOut } : Playback).posed
        ⟨Pose.offsetTransform settings.exitDirection,
          Pose.moving settings.slideOutDuration settings.slideOutEasing⟩
      leaving.startMovement graphic settings.slideOutDuration .hide schedule

/-- The graphic with its markup brought up to date if it is shown. -/
def refreshed (playback : Playback) : Playback :=
  if playback.isVisible then { playback with markup := playback.rendered } else playback

/-- Write live data over the present data; a value that stands for nothing holds none.  Data before
a fault are kept, but they are not shown yet. -/
def update (data : Json) (playback : Playback) (schedule : Schedule) :
    (Playback × Schedule) × Completion :=
  if playback.phase = .disposed then ((playback, schedule), .settled .noop)
  else
    let (members, written) :=
      if data.isTruthy then Json.putMembers playback.data data else (playback.data, .ok ())
    let informed := { playback with data := members }
    match written with
    | .ok () => ((informed.refreshed, schedule), .settled .completed)
    | .error fault => ((informed, schedule), .failed fault)

/-- Carry out a custom action: two names slide the graphic in and out, others do nothing. -/
def custom (graphic : Nat) (action : String) (playback : Playback) (schedule : Schedule) :
    (Playback × Schedule) × Completion :=
  if action == "slideIn" then playback.play graphic false schedule
  else if action == "slideOut" then playback.stop graphic false schedule
  else ((playback, schedule), .settled .noop)

/-- Take over edited elements and settings without loading again. -/
def replaceContent (elements : List Element) (settings : Option AnimationSettings)
    (playback : Playback) : Playback :=
  ({ playback with elements := elements, settings := settings.getD .standard } : Playback).refreshed

/-- The end of a movement; that of a superseded one has no effect. -/
def finish (cue : Cue) (playback : Playback) (schedule : Schedule) : Playback × Schedule :=
  if playback.waiter = some cue.waiter then
    let rested := { playback with timer := none, waiter := none }
    let ended := match cue.ending with
      | .becomeVisible => { rested with phase := .visible }
      | .hide => rested.hidden
    (ended, schedule.settle cue.waiter .completed)
  else (playback, schedule)

/-- What can be seen of a graphic. -/
def members (playback : Playback) (schedule : Schedule) : Table Json :=
  [("tag", .str playback.tag), ("state", .str playback.phase.name),
    ("visible", .bool playback.isVisible), ("transform", .str playback.pose.transform),
    ("transition", .str playback.pose.transition),
    ("pendingTimers", .int (if playback.isMoving schedule then 1 else 0)),
    ("data", .obj playback.data), ("html", .str playback.markup)]

/-- What can be seen of a graphic, as a value. -/
def toJson (playback : Playback) (schedule : Schedule) : Json :=
  .obj (playback.members schedule)

/-- The short description of a graphic. -/
def description (playback : Playback) : String :=
  "GraphicRuntime(tag=" ++ (Json.str playback.tag).quotedDisplay ++ ", state=" ++
    playback.phase.name ++ ")"

end Playback
end BroadcastGraphics
