import BroadcastGraphics.Fault
import BroadcastGraphics.Registry
import BroadcastGraphics.Template
import BroadcastGraphics.Troupe

/-!
# The preview stage

The stage shows previews: at most one graphic for each template id.  It brings commands into an
order that graphics can follow: a graphic is loaded before it plays, and it is stopped only while it
is shown.  Data sent to a preview outlives loading and disposal and is given to the graphic again
whenever it is loaded.
-/

namespace BroadcastGraphics

/-- The previews of templates. -/
structure Stage where
  troupe : Troupe := {}
  registry : Registry := []
  mounted : Table Nat := []
  previewData : Table (Table Json) := []

namespace Stage

/-- Change the graphic with a number. -/
def change (stage : Stage) (number : Nat)
    (command : Playback -> Schedule -> (Playback × Schedule) × Completion) : Stage × Completion :=
  let (troupe, completion) := stage.troupe.change number command
  ({ stage with troupe := troupe }, completion)

/-- The number of the graphic mounted for a template. -/
def number? (stage : Stage) (id : String) : Option Nat :=
  Table.get? stage.mounted id

/-- The number of the graphic mounted for a template, which has to be there. -/
def require (stage : Stage) (id : String) : Except Fault Nat :=
  match stage.number? id with
  | some number => .ok number
  | none => .error (.notMounted id)

/-- The graphic mounted for a template. -/
def playback? (stage : Stage) (id : String) : Option Playback :=
  (stage.number? id).bind stage.troupe.graphic?

/-- Dispose of the graphic mounted for a template and forget that it is mounted. -/
def withdraw (stage : Stage) (id : String) : Stage :=
  match stage.number? id with
  | some number =>
      (({ stage with mounted := Table.remove stage.mounted id } : Stage).change number
        Playback.dispose).1
  | none => stage

/-- Mount a new graphic for a template in the place of the one before; the answer is its number. -/
def mount (stage : Stage) (template : Template) : Stage × Nat :=
  let id := template.id
  let registry := (stage.registry.register (Naming.tagName id) (Naming.componentClassName id)).1
  let stage := ({ stage with registry := registry } : Stage).withdraw id
  let number := stage.troupe.graphics.length
  let playback := Playback.make id template.elements template.animation
  ({ stage with
      troupe := stage.troupe.add playback
      mounted := Table.put stage.mounted id number }, number)

/-- Give the edited content of a template to its graphic, which is mounted if it is not there. -/
def refresh (stage : Stage) (template : Template) : Stage × Nat :=
  match stage.number? template.id with
  | some number =>
      ((stage.change number fun playback schedule =>
        ((playback.replaceContent template.elements template.animation, schedule),
          .settled .completed)).1, number)
  | none => stage.mount template

/-- Take down the graphic of a template and forget the data sent to it. -/
def unmount (stage : Stage) (id : String) : Stage × Bool :=
  let known := (stage.number? id).isSome
  let stage := { stage with previewData := Table.remove stage.previewData id }
  (stage.withdraw id, known)

/-- A graphic is mounted for a template. -/
def isMounted (stage : Stage) (id : String) : Bool :=
  (stage.number? id).isSome

/-- The data sent to a preview. -/
def dataOf (stage : Stage) (id : String) : Table Json :=
  (Table.get? stage.previewData id).getD []

/-- Give the data sent to a preview to its graphic, if there is any. -/
def replay (stage : Stage) (id : String) (number : Nat) : Stage :=
  let data := stage.dataOf id
  if data.isEmpty then stage else (stage.change number (Playback.update (.obj data))).1

/-- Load a graphic that cannot play. -/
def ensureLoaded (stage : Stage) (id : String) (number : Nat) : Stage :=
  match stage.troupe.graphic? number with
  | some playback =>
      if playback.phase = .unloaded || playback.phase = .disposed then
        ((stage.change number Playback.load).1).replay id number
      else stage
  | none => stage

/-- Load the graphic of a template. -/
def load (stage : Stage) (id : String) : Except Fault (Stage × Completion) := do
  let number <- stage.require id
  let (stage, completion) := stage.change number Playback.load
  .ok (stage.replay id number, completion)

/-- Dispose of the graphic of a template, which stays mounted. -/
def dispose (stage : Stage) (id : String) : Except Fault (Stage × Completion) := do
  let number <- stage.require id
  .ok (stage.change number Playback.dispose)

/-- Bring the graphic of a template in. -/
def play (stage : Stage) (id : String) (skip : Bool) : Except Fault (Stage × Completion) := do
  let number <- stage.require id
  .ok ((stage.ensureLoaded id number).change number (Playback.play number skip))

/-- Take the graphic of a template out; nothing happens unless it is shown. -/
def stop (stage : Stage) (id : String) (skip : Bool) : Except Fault (Stage × Completion) := do
  let number <- stage.require id
  let shown := ((stage.troupe.graphic? number).map Playback.isVisible).getD false
  if shown then .ok (stage.change number (Playback.stop number skip))
  else .ok (stage, .settled .noop)

/-- Send data to the graphic of a template.  Data before a fault are kept for the next loading. -/
def update (stage : Stage) (id : String) (data : Json) : Except Fault (Stage × Completion) := do
  let number <- stage.require id
  let (sent, written) := Json.putMembers (stage.dataOf id) data
  let stage := { stage with previewData := Table.put stage.previewData id sent }
  match written with
  | .ok () => .ok (stage.change number (Playback.update data))
  | .error fault => .ok (stage, .failed fault)

/-- Carry out a custom action of the graphic of a template. -/
def custom (stage : Stage) (id action : String) : Except Fault (Stage × Completion) := do
  let number <- stage.require id
  .ok ((stage.ensureLoaded id number).change number (Playback.custom number action))

/-- Forget the data sent to a preview. -/
def clearData (stage : Stage) (id : String) : Stage :=
  { stage with previewData := Table.remove stage.previewData id }

/-- What can be seen of the graphic of a template. -/
def view (stage : Stage) (id : String) : Except Fault (Table Json) := do
  let number <- stage.require id
  match stage.troupe.graphic? number with
  | some playback => .ok (playback.members stage.troupe.schedule)
  | none => .error (.notMounted id)

/-- Move the clock on and count the timers that fire. -/
def advance (stage : Stage) (span : Binary64) : Stage × Nat :=
  let (troupe, count) := stage.troupe.advance span
  ({ stage with troupe := troupe }, count)

/-- Let time pass until a command is settled. -/
def waitFor (stage : Stage) (completion : Completion) : Stage :=
  { stage with
    troupe := stage.troupe.waitFor completion stage.troupe.schedule.timeline.queue.length }

end Stage
end BroadcastGraphics
