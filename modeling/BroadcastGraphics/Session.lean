import BroadcastGraphics.Configuration.Studio
import BroadcastGraphics.Exchange.Document
import BroadcastGraphics.Store
import BroadcastGraphics.Template.Call

/-!
# Editing sessions

A session holds templates under their ids, remembers which one is current, and writes every
announced change to its store.  Templates are numbered in the order in which the session met them
and keep their numbers when their ids change; a template that the session no longer holds can still
be edited, but the session does not follow it any more.
-/

namespace BroadcastGraphics

/-- An editing session. -/
structure Session where
  config : StudioConfig := {}
  store : Store := {}
  templates : List Template := []
  index : Table Nat := []
  current : Option String := none

namespace Session

/-- Something done in a session; what was done before a fault stays done. -/
abbrev Action (α : Type) := ExceptT Fault (StateM Session) α

/-- The template with a number. -/
def template? (session : Session) (number : Nat) : Option Template :=
  session.templates[number]?

/-- The number of the template held under an id. -/
def number? (session : Session) (id : String) : Option Nat :=
  Table.get? session.index id

/-- The template held under an id. -/
def held? (session : Session) (id : String) : Option Template :=
  (session.number? id).bind session.template?

/-- A template is held under an id. -/
def holds (session : Session) (id : String) : Bool :=
  Table.has session.index id

/-- The templates that the session holds, in order. -/
def heldTemplates (session : Session) : List Template :=
  session.index.filterMap fun entry => session.template? entry.2

/-- The id under which the template with a number is held. -/
def keyOf? (session : Session) (number : Nat) : Option String :=
  (session.index.find? fun entry => entry.2 == number).map Prod.fst

/-- The number of the template held under an id given as a value; values with parts cannot be
ids. -/
def numberOfValue (session : Session) : Json -> Except Fault (Option Nat)
  | .str id => .ok (session.number? id)
  | .arr _ => .error .wrongShape
  | .obj _ => .error .wrongShape
  | _ => .ok none

/-- Put a template in the place of the one with a number. -/
def withTemplate (session : Session) (number : Nat) (template : Template) : Session :=
  { session with templates := session.templates.set number template }

/-- Hold a new template under its id. -/
def tracked (session : Session) (template : Template) : Session :=
  { session with
    templates := session.templates ++ [template]
    index := Table.put session.index template.id session.templates.length }

/-- Hold the template of an id under another one, behind the others. -/
def rekeyed (session : Session) (old new : String) (number : Nat) : Session :=
  { session with index := Table.put (Table.remove session.index old) new number }

/-- Do something with the store. -/
def onStore {α : Type} (change : Store -> Store × Except Fault α) : Action α := do
  let session <- get
  let (store, outcome) := change session.store
  set { session with store := store }
  outcome

/-- Write the template with a number to the store. -/
def save (number : Nat) : Action Unit := do
  match (<- get).template? number with
  | some template => do
      let written <- template.written
      onStore fun store => store.save template.id written
  | none => pure ()

/-- Write the marker of the current template to the store. -/
def saveCurrent : Action Unit := do
  let session <- get
  onStore fun store => store.mark (Json.ofText? session.current)

/-- Make a template the current one. -/
def makeCurrent (id : Option String) : Action Unit := do
  modify fun session => { session with current := id }
  saveCurrent

/-- Give a template back the id under which it is held, because another template has the id that
it was given. -/
def revertId (number : Nat) (template : Template) (key : String) : Action Unit := do
  let edit := template.updateManifest (.obj [("id", .str key)])
  modify fun session => session.withTemplate number edit.template
  let _ <- edit.outcome
  if edit.announced then save number
  throw (.templateExists template.id)

/-- Hold a template under its new id. -/
def followRename (number : Nat) (old new : String) : Action Unit := do
  modify fun session => session.rekeyed old new number
  let _ <- onStore fun store => store.delete old
  if (<- get).current = some old then makeCurrent (some new)

/-- Follow an announced change of the template with a number, unless the session no longer holds
it. -/
def follow (number : Nat) : Action Unit := do
  let session <- get
  match session.keyOf? number, session.template? number with
  | some key, some template =>
      if key = template.id then save number
      else if session.holds template.id then revertId number template key
      else do
        followRename number key template.id
        save number
  | _, _ => pure ()

/-- Put what an edit leaves behind in the place of the template with a number, and follow the edit
if it announces a change. -/
def commit {α : Type} (number : Nat) (edit : Edit α) : Action α := do
  modify fun session => session.withTemplate number edit.template
  let answer <- edit.outcome
  if edit.announced then follow number
  pure answer

/-- Carry out a call on the template with a number. -/
def call (number : Nat) (call : Template.Call) : Action Template.Answer := do
  match (<- get).template? number with
  | some template => commit number (template.run call)
  | none => pure .nothing

/-- The number of the template held under an id, which has to be there, and the template. -/
def require (id : String) : Action (Nat × Template) := do
  let session <- get
  match session.number? id with
  | some number =>
      match session.template? number with
      | some template => pure (number, template)
      | none => throw (.templateNotFound id)
  | none => throw (.templateNotFound id)

/-- Edit the template held under an id, which has to be there; the answer comes with its number. -/
def edit {α : Type} (id : String) (change : Template -> Edit α) : Action (α × Nat) := do
  let (number, template) <- require id
  pure (<- commit number (change template), number)

/-- Hold a new template, write it to the store and make it current if asked to; the answer is its
number. -/
def add (template : Template) (isCurrent : Bool) : Action Nat := do
  let number := (<- get).templates.length
  modify fun session => session.tracked template
  save number
  if isCurrent then makeCurrent (some template.id)
  pure number

/-- Make a template the current one; the answer says whether it is held. -/
def select (id : String) : Action Bool := do
  if (<- get).holds id then
    makeCurrent (some id)
    pure true
  else pure false

/-- No longer hold a template; the answer says whether it was held. -/
def delete (id : String) : Action Bool := do
  if (<- get).holds id then
    modify fun session => { session with index := Table.remove session.index id }
    let _ <- onStore fun store => store.delete id
    if (<- get).current = some id then makeCurrent none
    pure true
  else pure false

/-- The further manifest members of a new template. -/
def newMembers (defaults : ManifestDefaults) : Table Json :=
  [("author", (Author.mk defaults.authorName defaults.authorEmail).toJson),
    ("version", .str defaults.version), ("main", .str defaults.main),
    ("supports_real_time", .bool defaults.supportsRealTime),
    ("supports_non_real_time", .bool defaults.supportsNonRealTime)]

/-- A new template from a preset and the configuration. -/
def newTemplate (config : StudioConfig) (kind id name description : Json) :
    Except Fault Template := do
  let kind <- PresetKind.ofJson kind
  let template <- Template.ofPreset kind id name description (newMembers config.manifest)
  if config.animation.isEmpty then .ok template
  else
    let edit := template.updateAnimation (.obj config.animation)
    let _ <- edit.outcome
    .ok edit.template

/-- Create a template from a preset and make it current; the answer is its number. -/
def create (kind id name description : Json) : Action Nat := do
  let session <- get
  match <- session.numberOfValue id, id with
  | some _, .str id => throw (.templateExists id)
  | _, id => do
      let template <- newTemplate session.config kind id name description
      add template true

/-- A copy of a template under another id and name, without its component source. -/
def renamedCopy (template : Template) (id name : Json) : Except Fault Template := do
  let _ <- template.written
  let manifest := Table.put (Table.put template.manifest.members "id" id) "name" name
  let members := Table.put (Table.put template.snapshot.members "manifest" (.obj manifest))
    "webComponent" .null
  .ok (Template.ofSnapshot (<- Snapshot.read (.obj members)))

/-- Add a copy of a template under another id and name; the answer is its number. -/
def duplicate (id : String) (newId newName : Json) : Action Nat := do
  let (_, source) <- require id
  match <- (<- get).numberOfValue newId, newId with
  | some _, .str newId => throw (.templateExists newId)
  | _, newId => do
      let copy <- renamedCopy source newId newName
      add copy false

/-- Take over what the store holds: all snapshots that can be read, and the current template if the
marker names one of them. -/
def takeOver : Action Unit := do
  let session <- get
  let snapshots <- session.store.snapshots
  modify fun session => snapshots.foldl
    (fun session entry => session.tracked (Template.ofSnapshot entry.2)) session
  let marker <- session.store.marker
  if (<- (<- get).numberOfValue marker).isSome then
    modify fun session => { session with current := marker.str? }

/-- The session that a store holds; at a fault it holds what was taken over before. -/
def opened (config : StudioConfig) (store : Store) : Except Fault Unit × Session :=
  takeOver.run.run { config, store }

end Session
end BroadcastGraphics
