import BroadcastGraphics.Validation.Record

/-!
# Animation settings

A graphic slides in and out as a whole.  The settings give the duration, the easing and the
direction of both movements; without a direction of its own the exit uses the direction of the
entrance.
-/

namespace BroadcastGraphics

/-- The pace of a movement. -/
inductive Easing where
  | easeOut
  | easeIn
  | easeInOut
  | linear
  deriving DecidableEq, Repr

namespace Easing

/-- The easings under their names. -/
def options : Table Easing :=
  [("ease-out", easeOut), ("ease-in", easeIn), ("ease-in-out", easeInOut), ("linear", linear)]

/-- The name of an easing. -/
def name : Easing -> String
  | easeOut => "ease-out"
  | easeIn => "ease-in"
  | easeInOut => "ease-in-out"
  | linear => "linear"

@[simp] theorem get?_options_name (easing : Easing) :
    Table.get? options easing.name = some easing := by
  cases easing <;> rfl

end Easing

/-- The side of the canvas that a movement starts or ends at. -/
inductive Direction where
  | left
  | right
  | top
  | bottom
  deriving DecidableEq, Repr

namespace Direction

/-- The directions under their names. -/
def options : Table Direction :=
  [("left", left), ("right", right), ("top", top), ("bottom", bottom)]

/-- The name of a direction. -/
def name : Direction -> String
  | left => "left"
  | right => "right"
  | top => "top"
  | bottom => "bottom"

@[simp] theorem get?_options_name (direction : Direction) :
    Table.get? options direction.name = some direction := by
  cases direction <;> rfl

end Direction

/-- How a graphic moves; durations are in milliseconds. -/
structure AnimationSettings where
  slideInDuration : Int
  slideOutDuration : Int
  slideInEasing : Easing
  slideOutEasing : Easing
  slideInDirection : Direction
  slideOutDirection : Option Direction
  deriving DecidableEq, Repr

namespace AnimationSettings

/-- The settings of a graphic that has none of its own. -/
def standard : AnimationSettings :=
  ⟨500, 500, .easeOut, .easeIn, .left, some .left⟩

/-- The direction of the exit. -/
def exitDirection (settings : AnimationSettings) : Direction :=
  settings.slideOutDirection.getD settings.slideInDirection

/-- The duration of the entrance. -/
def slideInDurationField : Field := ⟨"slideInDuration", "slide_in_duration"⟩

/-- The duration of the exit. -/
def slideOutDurationField : Field := ⟨"slideOutDuration", "slide_out_duration"⟩

/-- The easing of the entrance. -/
def slideInEasingField : Field := ⟨"slideInType", "slide_in_type"⟩

/-- The easing of the exit. -/
def slideOutEasingField : Field := ⟨"slideOutType", "slide_out_type"⟩

/-- The side from which the entrance comes. -/
def slideInDirectionField : Field := ⟨"slideInDirection", "slide_in_direction"⟩

/-- The side to which the exit goes. -/
def slideOutDirectionField : Field := ⟨"slideOutDirection", "slide_out_direction"⟩

/-- The fields of the settings in their order. -/
def fields : List Field :=
  [slideInDurationField, slideOutDurationField, slideInEasingField, slideOutEasingField,
    slideInDirectionField, slideOutDirectionField]

/-- Read settings from members; what is absent has its standard value. -/
def ofMembers (members : Table Json) : Checked AnimationSettings :=
  AnimationSettings.mk
    <$> slideInDurationField.withDefault standard.slideInDuration Check.positiveInteger members
    <*> slideOutDurationField.withDefault standard.slideOutDuration Check.positiveInteger members
    <*> slideInEasingField.withDefault standard.slideInEasing (Check.choice Easing.options) members
    <*> slideOutEasingField.withDefault standard.slideOutEasing (Check.choice Easing.options)
      members
    <*> slideInDirectionField.withDefault standard.slideInDirection
      (Check.choice Direction.options) members
    <*> slideOutDirectionField.withDefault standard.slideOutDirection
      (Check.optional (Check.choice Direction.options)) members

/-- The name of the record in faults. -/
def recordName : String := "AnimationSettings"

/-- Read settings from a value. -/
def check : Json -> Checked AnimationSettings :=
  Check.record recordName ofMembers

/-- The values of the fields in their order. -/
def values (settings : AnimationSettings) : List Json :=
  [.int settings.slideInDuration, .int settings.slideOutDuration,
    .str settings.slideInEasing.name, .str settings.slideOutEasing.name,
    .str settings.slideInDirection.name,
    Json.ofText? (settings.slideOutDirection.map Direction.name)]

/-- The members under the written names.  An absent exit direction is written as nothing, so that
reading the text back keeps it absent. -/
def members (settings : AnimationSettings) : Table Json :=
  (fields.map Field.writtenName).zip settings.values

/-- The settings as a value. -/
def toJson (settings : AnimationSettings) : Json :=
  .obj settings.members

/-- The members under the given names, over which an edit is written. -/
def givenMembers (settings : AnimationSettings) : Table Json :=
  (fields.map Field.givenName).zip settings.values

/-- The settings after an edit given under either name of each field. -/
def edited (settings : AnimationSettings) (updates : Table Json) : Checked AnimationSettings :=
  ofMembers (Table.merge settings.givenMembers (Field.byGivenName fields updates))

end AnimationSettings
end BroadcastGraphics
