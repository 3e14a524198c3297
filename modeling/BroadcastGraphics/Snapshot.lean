import BroadcastGraphics.Animation
import BroadcastGraphics.Element
import BroadcastGraphics.Fault
import BroadcastGraphics.Json.Printer
import BroadcastGraphics.Json.Reader
import BroadcastGraphics.Manifest

/-!
# Snapshots

A snapshot is a template as it is stored and exchanged: manifest, elements, animation settings and
component source.  Element ids are distinct.
-/

namespace BroadcastGraphics

/-- A template as it is stored and exchanged. -/
structure Snapshot where
  manifest : Manifest
  elements : List Element := []
  animation : Option AnimationSettings := none
  component : Option String := none
  deriving DecidableEq

namespace Snapshot

/-- The name of the record in faults. -/
def recordName : String := "TemplateSnapshot"

/-- The settings of the movements. -/
def animationField : Field := ⟨"animationSettings", "animation_settings"⟩

/-- The component source. -/
def componentField : Field := ⟨"webComponent", "web_component"⟩

/-- The first id that an earlier element has as well. -/
def duplicateId? (seen : List String) : List Element -> Option String
  | [] => none
  | element :: rest =>
      if element.id ∈ seen then some element.id else duplicateId? (seen ++ [element.id]) rest

/-- A list of elements with distinct ids. -/
def checkElements (value : Json) : Checked (List Element) :=
  (Check.list Element.check value).andThen fun elements =>
    match duplicateId? [] elements with
    | some id => .refuse (.refused (.duplicateElement id))
    | none => .accepted elements

/-- Read a snapshot from members. -/
def ofMembers (members : Table Json) : Checked Snapshot :=
  Snapshot.mk
    <$> (Field.plain "manifest").required Manifest.check members
    <*> (Field.plain "elements").withDefault [] checkElements members
    <*> animationField.withDefault none (Check.optional AnimationSettings.check) members
    <*> componentField.withDefault none (Check.optional Check.text) members

/-- Read a snapshot from a value. -/
def check : Json -> Checked Snapshot :=
  Check.record recordName ofMembers

/-- Read a snapshot from a value, a refusal being a fault. -/
def read (value : Json) : Except Fault Snapshot :=
  (check value).orInvalid recordName

/-- The settings as a value, nothing when absent. -/
def animationJson (animation : Option AnimationSettings) : Json :=
  match animation with
  | some settings => settings.toJson
  | none => .null

/-- The members of the snapshot, all four always present. -/
def members (snapshot : Snapshot) : Table Json :=
  [("manifest", snapshot.manifest.toJson),
    ("elements", .arr (snapshot.elements.map Element.toJson)),
    ("animationSettings", animationJson snapshot.animation),
    ("webComponent", Json.ofText? snapshot.component)]

/-- The snapshot as a value. -/
def toJson (snapshot : Snapshot) : Json :=
  .obj snapshot.members

/-- The snapshot as it is written. -/
def written (snapshot : Snapshot) : Except Fault Json :=
  Json.written snapshot.manifest.freeValues snapshot.toJson

/-- The text of a snapshot file. -/
def fileText (snapshot : Snapshot) : String :=
  snapshot.toJson.documentText (some 2)

/-- Read a snapshot from the text of a file. -/
def ofFileText (text : String) : Except Fault Snapshot := do
  read (<- Json.ofText text)

end Snapshot
end BroadcastGraphics
