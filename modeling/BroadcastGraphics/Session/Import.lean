import BroadcastGraphics.ConflictPolicy
import BroadcastGraphics.Exchange.ComponentSource
import BroadcastGraphics.Layout
import BroadcastGraphics.Session

/-!
# Imports into a session

An import first plans what is to be done, from the manifest, the rest of the template and the policy
for a taken id, and refuses anything that is not valid.  Only then is the session changed.
-/

namespace BroadcastGraphics
namespace Session

/-- What an import is made of. -/
structure ImportSource where
  manifest : Json
  component : Json := .null
  elements : Json := .null
  animation : Json := .null

/-- What an import does. -/
inductive ImportPlan where
  | keep (number : Nat)
  | add (template : Template) (replaced : Option String)

/-- The id with a number. -/
def numberedId (id : String) (number : Nat) : String :=
  id ++ "-" ++ String.ofList (decimalDigits number)

/-- The id with the first number from two on under which nothing is held. -/
def freeId (session : Session) (id : String) : String :=
  numberedId id (FreshName.firstFree (Table.names session.index) (numberedId id) 2)

/-- The members of a manifest given as a text or as a value. -/
def manifestMembers : Json -> Except Fault (Table Json)
  | .str text =>
      match Json.parse text with
      | .error (.malformed _) => .error (.badImport .unreadableManifest)
      | .error refusal => .error refusal.fault
      | .ok (.obj members) => .ok members
      | .ok _ => .error (.badImport .noIdentity)
  | value => value.toMembers

/-- The members of a manifest that has an id and a name. -/
def identifiedMembers (manifest : Json) : Except Fault (Table Json) := do
  let members <- manifestMembers manifest
  if (Json.memberOrNull members "id").isTruthy && (Json.memberOrNull members "name").isTruthy then
    .ok members
  else .error (.badImport .noIdentity)

/-- The elements of an import: those given, or a layout made from the schema. -/
def importedElements (manifest : Manifest) (elements : Json) : Checked (List Element) :=
  match elements with
  | .null => .accepted (Layout.ofSchema manifest.schema.properties manifest.name)
  | elements => (Snapshot.checkElements elements).under (.member "elements")

/-- The snapshot that an import describes. -/
def importedSnapshot (manifest : Manifest) (elements animation : Json) : Checked Snapshot :=
  (fun elements animation => ⟨manifest, elements, animation, none⟩)
    <$> importedElements manifest elements
    <*> (Check.optional AnimationSettings.check animation).under (.member "animation_settings")

/-- The manifest that an import describes; all names in it have to be texts. -/
def importedManifest (members : Table Json) : Checked Manifest :=
  (fun manifest _ => manifest) <$> Manifest.ofMembers members <*>
    Check.textNames [] .notTextName members

/-- The template that an import describes, for a manifest with an id of its own.  Component source
is kept if it looks like a component and the template has kept the id that the source was written
for. -/
def importedTemplate (source : ImportSource) (members : Table Json) (givenId : Json) :
    Except Fault Template := do
  let manifest <- (importedManifest members).orInvalid Manifest.recordName
  let snapshot <- (importedSnapshot manifest source.elements source.animation).orInvalid
    Snapshot.recordName
  let template := Template.ofSnapshot snapshot
  match ComponentSource.ofJson? source.component with
  | some component =>
      if givenId = .str manifest.id then
        .ok { template with component := some (ComponentSource.cleaned component) }
      else .ok template
  | none => .ok template

/-- Plan an import. -/
def plan (session : Session) (source : ImportSource) (policy : Json) :
    Except Fault ImportPlan := do
  let policy <- ConflictPolicy.ofJson policy
  let members <- identifiedMembers source.manifest
  let givenId := Json.memberOrNull members "id"
  match <- session.numberOfValue givenId, policy, givenId with
  | some number, .skip, _ => .ok (.keep number)
  | some _, .rename, .str id => do
      let members := Table.put members "id" (.str (session.freeId id))
      .ok (.add (<- importedTemplate source members givenId) none)
  | some _, _, .str id => do
      .ok (.add (<- importedTemplate source members givenId) (some id))
  | _, _, _ => do
      .ok (.add (<- importedTemplate source members givenId) none)

/-- Carry out a plan; the answer is the number of the template. -/
def carryOut : ImportPlan -> Action Nat
  | .keep number => pure number
  | .add template replaced => do
      if let some id := replaced then
        let _ <- delete id
      add template true

/-- Import a template; the answer is its number. -/
def importTemplate (source : ImportSource) (policy : Json) : Action Nat := do
  carryOut (<- (<- get).plan source policy)

/-- What an import is made of when an editor template is imported. -/
def editorSource : Json -> Except Fault ImportSource
  | .obj members =>
      match Table.get? members "manifest" with
      | some manifest => .ok
          { manifest
            component := Json.memberOrNull members "webComponent"
            elements := Json.memberOrNull members "elements"
            animation := Json.memberOrNull members "animationSettings" }
      | none => .error (.badImport .noManifest)
  | _ => .error (.badImport .noManifest)

/-- Import an editor template. -/
def importEditor (template policy : Json) : Action Nat := do
  importTemplate (<- editorSource template) policy

/-- The fault lies in one entry of a bundle and does not keep the others from being imported. -/
def isEntryFault : Fault -> Bool
  | .badImport _ => true
  | fault => fault.isContent

/-- Import the entry of a bundle; the answer is its number unless the entry is left out. -/
def importEntry (template policy : Json) : Action (Option Nat) :=
  tryCatch (some <$> importEditor template policy) fun fault =>
    if isEntryFault fault then pure none else throw fault

/-- Import the entries of a bundle one after the other, leaving out those that are not valid. -/
def importEntries (policy : Json) : Table Json -> Action (List Nat)
  | [] => pure []
  | (id, template) :: rest => do
      let known <- ConflictPolicy.ofJson policy
      if known = .skip && (<- get).holds id then importEntries policy rest
      else do
        let number? <- importEntry template policy
        let numbers <- importEntries policy rest
        pure (number?.toList ++ numbers)

/-- Import a bundle of several templates. -/
def importMany (templates policy : Json) : Action (List Nat) :=
  match templates with
  | .obj templates => importEntries policy templates
  | _ => throw (.badImport .malformedBundle)

/-- Import a document of any kind; the answer is the numbers of the templates. -/
def importDocument (document policy : Json) : Action (List Nat) := do
  let members := document.obj?.getD []
  match <- Exchange.kindOf document with
  | .multiBundle => importMany (Json.memberOrNull members "templates") policy
  | .editorTemplate => pure [<- importEditor (Json.memberOrNull members "template") policy]
  | .exportBundle => do
      let (manifest, component) <- Exchange.splitBundle document
      pure [<- importTemplate { manifest, component } policy]
  | .rawManifest =>
      pure [<- importTemplate { manifest := .obj (Exchange.normalizedManifest members) } policy]

end Session
end BroadcastGraphics
