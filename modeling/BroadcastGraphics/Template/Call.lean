import BroadcastGraphics.Template

/-!
# Calls on templates

Everything that can be asked of a template, edits and questions alike, as values, so that runs of
calls can be recorded, replayed and reasoned about.
-/

namespace BroadcastGraphics
namespace Template

/-- A call on a template. -/
inductive Call where
  | addElement (spec : Json)
  | addValidElement (spec : Json)
  | removeElement (id : String)
  | updateElement (id : String) (updates : Json)
  | updateStyle (id : String) (style : Json)
  | addProperty (name : String) (kind title default : Json)
  | removeProperty (name : String)
  | updateManifest (updates : Json)
  | updateAnimation (updates : Json)
  | setComponent (source : Option String)
  | readComponent
  | getElement (id : String)
  | whole
  | effectiveAnimation
  | description
  | audit
  | reload
  deriving DecidableEq

/-- The answer to a call. -/
inductive Answer where
  | nothing
  | flag (value : Bool)
  | text (value : String)
  | element (element : Element)
  | property (property : SchemaProperty)
  | manifest (manifest : Manifest)
  | animation (settings : AnimationSettings)
  | report (report : Audit.Report)
  | json (value : Json)
  deriving DecidableEq

/-- An answer as a value. -/
def Answer.toJson : Answer -> Json
  | nothing => .null
  | flag answer => .bool answer
  | text answer => .str answer
  | element answer => answer.toJson
  | property answer => answer.toJson
  | manifest answer => answer.toJson
  | animation answer => answer.toJson
  | report answer => answer.toJson
  | json answer => answer

/-- Add an element given as a value. -/
def addSpec (template : Template) : Json -> Edit Element
  | .obj spec => template.addElement spec
  | _ => .refused template .noMembers

/-- Add an element given as a value that has to be an element in itself. -/
def addValidSpec (template : Template) (spec : Json) : Edit Element :=
  match (Element.check spec).orInvalid Element.recordName with
  | .error fault => .refused template fault
  | .ok element => template.addElement element.members

/-- What a template becomes when it is written out and read back: whether the two written forms
agree, whether their components agree, and the written form. -/
def reloaded (template : Template) : Except Fault Json := do
  let written <- template.written
  let again := ofSnapshot (<- Snapshot.read written)
  let same := again.toJson.sameValue written
  let component := template.copy.readComponent.outcome.toOption
  let sameComponent := again.readComponent.outcome.toOption == component
  .ok (.obj [("same", .bool same), ("same_artifact", .bool sameComponent), ("data", written)])

/-- Carry out a call. -/
def run (template : Template) : Call -> Edit Answer
  | .addElement spec => (template.addSpec spec).map .element
  | .addValidElement spec => (template.addValidSpec spec).map .element
  | .removeElement id => (template.removeElement id).map .flag
  | .updateElement id updates => (template.updateElement id updates).map .flag
  | .updateStyle id style => (template.updateStyle id style).map .flag
  | .addProperty name kind title default =>
      (template.addProperty name kind title default).map .property
  | .removeProperty name => (template.removeProperty name).map .flag
  | .updateManifest updates => (template.updateManifest updates).map .manifest
  | .updateAnimation updates => (template.updateAnimation updates).map .animation
  | .setComponent source => (template.setComponent source).map fun _ => .nothing
  | .readComponent => template.readComponent.map .text
  | .getElement id =>
      .quiet template ((template.element? id).elim .nothing .element)
  | .whole =>
      match template.written with
      | .ok written => .quiet template (.json written)
      | .error fault => .refused template fault
  | .effectiveAnimation => .quiet template (.animation template.effectiveAnimation)
  | .description => .quiet template (.text template.description)
  | .audit =>
      match Audit.report template.snapshot with
      | .ok report => .quiet template (.report report)
      | .error fault => .refused template fault
  | .reload =>
      match template.reloaded with
      | .ok value => .quiet template (.json value)
      | .error fault => .refused template fault

end Template
end BroadcastGraphics
