import BroadcastGraphics.Audit
import BroadcastGraphics.Component
import BroadcastGraphics.FreshName
import BroadcastGraphics.Preset
import BroadcastGraphics.Snapshot

/-!
# Templates under editing

A template holds a manifest, elements and animation settings, and it keeps the component source made
from them until an edit changes one of them.  An edit either is refused, and then the template keeps
its content, or it is carried out; carrying out an edit that changes nothing is not announced.
Numbers for the ids of new elements only ever go up, also when an addition is refused.
-/

namespace BroadcastGraphics

/-- A template under editing. -/
structure Template where
  manifest : Manifest
  elements : List Element
  animation : Option AnimationSettings
  component : Option String
  nextNumber : Nat := 1
  deriving DecidableEq

/-- What an edit leaves behind: the template, the answer, and whether a change is announced. -/
structure Edit (α : Type) where
  template : Template
  outcome : Except Fault α
  announced : Bool

namespace Edit

/-- The template as it was, and a fault. -/
def refused {α : Type} (template : Template) (fault : Fault) : Edit α :=
  ⟨template, .error fault, false⟩

/-- The template without a change to announce, and an answer. -/
def quiet {α : Type} (template : Template) (answer : α) : Edit α :=
  ⟨template, .ok answer, false⟩

/-- A changed template, whose component source no longer holds, and an answer. -/
def changed {α : Type} (template : Template) (answer : α) : Edit α :=
  ⟨{ template with component := none }, .ok answer, true⟩

/-- The same edit with another form of its answer. -/
def map {α β : Type} (change : α -> β) (edit : Edit α) : Edit β :=
  ⟨edit.template, edit.outcome.map change, edit.announced⟩

end Edit

namespace Template

/-- The id of a template. -/
def id (template : Template) : String :=
  template.manifest.id

/-- A template read from a snapshot. -/
def ofSnapshot (snapshot : Snapshot) : Template :=
  ⟨snapshot.manifest, snapshot.elements, snapshot.animation, snapshot.component, 1⟩

/-- The snapshot of a template. -/
def snapshot (template : Template) : Snapshot :=
  ⟨template.manifest, template.elements, template.animation, template.component⟩

/-- A template as it is stored and exchanged. -/
def toJson (template : Template) : Json :=
  template.snapshot.toJson

/-- A template as it is written. -/
def written (template : Template) : Except Fault Json :=
  template.snapshot.written

/-- A copy, whose numbers start again. -/
def copy (template : Template) : Template :=
  ofSnapshot template.snapshot

/-- Names that a new template takes from elsewhere than its further manifest members. -/
def reservedNames : List String :=
  ["kind", "cls", "template_id", "id", "name", "description", "schema", "custom_actions"]

/-- A template made from a preset, with further members for its manifest. -/
def ofPreset (kind : PresetKind) (id name description : Json) (fields : Table Json) :
    Except Fault Template :=
  let preset := Preset.ofKind kind
  let author := Json.memberOrNull fields "author"
  let author := if author.isTruthy then author else Author.toJson {}
  let schema := GraphicSchema.members ⟨"object", preset.properties, []⟩
  let given : Table Json := [("id", id), ("name", name), ("description", description),
    ("author", author), ("schema", .obj schema),
    ("custom_actions", .arr (preset.actions.map CustomAction.toJson)), ("step_count", .int 1)]
  if reservedNames.any (Table.has fields) then .error .wrongShape
  else do
    let members := Table.merge given (Table.remove fields "author")
    let manifest <- (Manifest.ofMembers members).orInvalid Manifest.recordName
    .ok ⟨manifest, preset.elements, none, none, 1⟩

/-- The component source made from the present content. -/
def generated (template : Template) : String :=
  Component.source template.manifest template.elements template.animation

/-- The settings in force. -/
def effectiveAnimation (template : Template) : AnimationSettings :=
  template.animation.getD .standard

/-- The element with an id. -/
def element? (template : Template) (id : String) : Option Element :=
  template.elements.find? fun element => element.id == id

/-- The id with a number. -/
def numberedId (number : Nat) : String :=
  "element_" ++ String.ofList (decimalDigits number)

/-- The first number from the next one on whose id is free. -/
def freeNumber (template : Template) : Nat :=
  FreshName.firstFree (template.elements.map Element.id) numberedId template.nextNumber

/-- Append an element with the given members under a new id. -/
def append (template : Template) (members : Table Json) : Edit Element :=
  let number := template.freeNumber
  let numbered := { template with nextNumber := number + 1 }
  match (Element.ofMembers (("id", .str (numberedId number)) :: members)).orInvalid
      Element.recordName with
  | .error fault => .refused numbered fault
  | .ok element => .changed { numbered with elements := template.elements ++ [element] } element

/-- Add an element; what the members leave open takes the starting value of its kind, and an id
among them is passed over. -/
def addElement (template : Template) (spec : Table Json) : Edit Element :=
  let spec := Table.remove spec "id"
  match Table.get? spec "type" with
  | none => .refused template (.misuse .specWithoutKind)
  | some kind =>
      match ElementKind.ofJson kind with
      | .error fault => .refused template fault
      | .ok kind => template.append (Table.merge kind.startingMembers spec)

/-- Remove the elements with an id; the answer says whether there was one. -/
def removeElement (template : Template) (id : String) : Edit Bool :=
  let kept := template.elements.filter fun element => element.id != id
  if kept.length == template.elements.length then .quiet template false
  else .changed { template with elements := kept } true

/-- Put an element in the place of the first one with an id. -/
def replaceElement (id : String) (replacement : Element) : List Element -> List Element
  | [] => []
  | element :: rest =>
      if element.id == id then replacement :: rest
      else element :: replaceElement id replacement rest

/-- The id asked for is another one and belongs to an element. -/
def isTaken (template : Template) (current : String) : Json -> Bool
  | .str id => id != current && (template.element? id).isSome
  | _ => false

/-- Write members over those of the element with an id; the answer says whether there is one. -/
def updateElement (template : Template) (id : String) (updates : Json) : Edit Bool :=
  match template.element? id with
  | none => .quiet template false
  | some current =>
      match updates.toMembers with
      | .error fault => .refused template fault
      | .ok updates =>
          let merged := Table.merge current.members updates
          let newId := Json.memberOrNull merged "id"
          if template.isTaken id newId then .refused template (.misuse (.elementIdTaken newId))
          else match (Element.ofMembers merged).orInvalid Element.recordName with
            | .error fault => .refused template fault
            | .ok element =>
                if element.sameValue current then .quiet template true
                else .changed
                  { template with elements := replaceElement id element template.elements } true

/-- A style with some properties written over it; a property without a value is taken out. -/
def mergedStyle (style : Table Json) (updates : Table Json) : Table Json :=
  updates.foldl (fun style (name, value) =>
    if value.isNull then Table.remove style name else Table.put style name value) style

/-- Write style properties over those of the element with an id. -/
def updateStyle (template : Template) (id : String) (updates : Json) : Edit Bool :=
  match template.element? id with
  | none => .quiet template false
  | some current =>
      match updates with
      | .obj updates =>
          let style := mergedStyle (Table.mapEntries Json.str current.style) updates
          template.updateElement id (.obj [("style", .obj style)])
      | _ => .refused template .noMembers

/-- The kinds of data that the editor makes. -/
def propertyKinds : List String :=
  ["string", "number", "boolean"]

/-- The kind of data that a value names. -/
def propertyKind (value : Json) : Except Fault String :=
  match value with
  | .str kind =>
      if kind ∈ propertyKinds then .ok kind
      else .error (.misuse (.unknownOption value .propertyKind))
  | _ => .error (.misuse (.unknownOption value .propertyKind))

/-- The manifest with its properties changed. -/
def withProperties (template : Template) (properties : Table SchemaProperty) : Template :=
  { template with
    manifest := { template.manifest with
      schema := { template.manifest.schema with properties := properties } } }

/-- The properties of a template. -/
def properties (template : Template) : Table SchemaProperty :=
  template.manifest.schema.properties

/-- Add a property or put it in the place of the one with its name; without a title the name is
the title. -/
def addProperty (template : Template) (name : String) (kind title default : Json) :
    Edit SchemaProperty :=
  match propertyKind kind with
  | .error fault => .refused template fault
  | .ok kind =>
      let title := if title.isTruthy then title else .str name
      match (SchemaProperty.ofMembers [("type", .str kind), ("title", title),
          ("default", default)]).orInvalid "SchemaProperty" with
      | .error fault => .refused template fault
      | .ok property =>
          .changed (template.withProperties (Table.put template.properties name property)) property

/-- Remove a property; the answer says whether there was one. -/
def removeProperty (template : Template) (name : String) : Edit Bool :=
  if Table.has template.properties name then
    .changed (template.withProperties (Table.remove template.properties name)) true
  else .quiet template false

/-- Write members over those of the manifest.  Failed results of texts are all one; others differ
from any that were there before. -/
def updateManifest (template : Template) (updates : Json) (fromText : Bool := false) :
    Edit Manifest :=
  match updates with
  | .obj updates =>
      match (template.manifest.edited updates).orInvalid Manifest.recordName with
      | .error fault => .refused template fault
      | .ok manifest =>
          let isSame := manifest.sameValue template.manifest
          if isSame && (fromText || !manifest.takesFailed updates) then
            .quiet template template.manifest
          else .changed { template with manifest := manifest } manifest
  | _ => .refused template .noMembers

/-- Write members over the animation settings in force. -/
def updateAnimation (template : Template) (updates : Json) : Edit AnimationSettings :=
  match updates with
  | .obj updates =>
      match (template.effectiveAnimation.edited updates).orInvalid AnimationSettings.recordName with
      | .error fault => .refused template fault
      | .ok settings =>
          if template.animation = some settings then .quiet template settings
          else .changed { template with animation := some settings } settings
  | _ => .refused template .noMembers

/-- Install component source from outside, or drop the present one. -/
def setComponent (template : Template) (source : Option String) : Edit Unit :=
  .quiet { template with component := source } ()

/-- Read the component source, made now if none is kept. -/
def readComponent (template : Template) : Edit String :=
  match template.component with
  | some source => .quiet template source
  | none => .quiet { template with component := some template.generated } template.generated

/-- Component source is kept. -/
def isCached (template : Template) : Bool :=
  template.component.isSome

/-- The short description of a template. -/
def description (template : Template) : String :=
  "GraphicTemplate(id=" ++ (Json.str template.id).quotedDisplay ++ ", elements=" ++
    String.ofList (decimalDigits template.elements.length) ++ ")"

end Template
end BroadcastGraphics
