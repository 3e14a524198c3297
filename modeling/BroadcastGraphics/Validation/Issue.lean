import BroadcastGraphics.Number.Decimal

/-!
# Issues found in incoming values

An issue names the place inside a value at which something is wrong and the cause.  Every cause has
a short kind, by which programs tell causes apart, and a message for people.
-/

namespace BroadcastGraphics

/-- One step from a value to a part of it. -/
inductive Step where
  | member (name : String)
  | item (index : Nat)
  deriving DecidableEq, Repr

/-- The text of a step in a place. -/
def Step.text : Step -> String
  | member name => name
  | item index => String.ofList (decimalDigits index)

/-- What a rule of the domain refuses although the kind of the value is right. -/
inductive Refusal where
  | templateId
  | elementId
  | stepCount
  | styleShape
  | duplicateElement (id : String)
  deriving DecidableEq, Repr

/-- The message of a refusal. -/
def Refusal.message : Refusal -> String
  | templateId => "id must use lowercase letters, numbers, hyphens and underscores only"
  | elementId =>
      "element id must start with a letter or underscore and use letters, " ++
        "numbers, hyphens and underscores only"
  | stepCount => "stepCount must not be negative"
  | styleShape => "style must be a mapping of property name to value"
  | duplicateElement id => "Duplicate element id: " ++ id

/-- Why a value or a part of it is not accepted. -/
inductive Cause where
  | notText
  | emptyText
  | notInteger
  | fractional
  | unreadableInteger
  | oversizedInteger
  | notFinite
  | notPositive
  | notNumber
  | unreadableNumber
  | notTruth
  | unclearTruth
  | notChoice (options : List String)
  | notList
  | notMapping
  | notRecord (name : String)
  | notBody
  | missing
  | notPermitted
  | refused (refusal : Refusal)
  | malformedText
  | notTextName
  | brokenText
  deriving DecidableEq, Repr

/-- Options in quotes, the last two joined by "or". -/
def joinedOptions : List String -> String
  | [] => ""
  | [only] => "'" ++ only ++ "'"
  | [first, last] => "'" ++ first ++ "' or '" ++ last ++ "'"
  | first :: rest => "'" ++ first ++ "', " ++ joinedOptions rest

namespace Cause

/-- The short name of a cause. -/
def kind : Cause -> String
  | notText => "string_type"
  | emptyText => "string_too_short"
  | notInteger => "int_type"
  | fractional => "int_from_float"
  | unreadableInteger => "int_parsing"
  | oversizedInteger => "int_parsing_size"
  | notFinite => "finite_number"
  | notPositive => "greater_than"
  | notNumber => "float_type"
  | unreadableNumber => "float_parsing"
  | notTruth => "bool_type"
  | unclearTruth => "bool_parsing"
  | notChoice _ => "enum"
  | notList => "list_type"
  | notMapping => "dict_type"
  | notRecord _ => "model_type"
  | notBody => "model_attributes_type"
  | missing => "missing"
  | notPermitted => "extra_forbidden"
  | refused _ => "value_error"
  | malformedText => "json_invalid"
  | notTextName => "invalid_key"
  | brokenText => "string_unicode"

/-- The message of a cause. -/
def message : Cause -> String
  | notText => "Input should be a valid string"
  | emptyText => "String should have at least 1 character"
  | notInteger => "Input should be a valid integer"
  | fractional => "Input should be a valid integer, got a number with a fractional part"
  | unreadableInteger =>
      "Input should be a valid integer, unable to parse string as an integer"
  | oversizedInteger => "Unable to parse input string as an integer, exceeded maximum size"
  | notFinite => "Input should be a finite number"
  | notPositive => "Input should be greater than 0"
  | notNumber => "Input should be a valid number"
  | unreadableNumber => "Input should be a valid number, unable to parse string as a number"
  | notTruth => "Input should be a valid boolean"
  | unclearTruth => "Input should be a valid boolean, unable to interpret input"
  | notChoice options => "Input should be " ++ joinedOptions options
  | notList => "Input should be a valid list"
  | notMapping => "Input should be a valid dictionary"
  | notRecord name => "Input should be a valid dictionary or instance of " ++ name
  | notBody => "Input should be a valid dictionary or object to extract fields from"
  | missing => "Field required"
  | notPermitted => "Extra inputs are not permitted"
  | refused refusal => "Value error, " ++ refusal.message
  | malformedText => "JSON decode error"
  | notTextName => "Keys should be strings"
  | brokenText =>
      "Input should be a valid string, unable to parse raw data as a unicode string"

end Cause

/-- A cause at a place. -/
structure Issue where
  path : List Step
  cause : Cause
  deriving DecidableEq, Repr

/-- The place of an issue as a text, steps joined by points. -/
def Issue.place (issue : Issue) : String :=
  String.intercalate "." (issue.path.map Step.text)

/-- The same issue seen from one step further out. -/
def Issue.under (step : Step) (issue : Issue) : Issue :=
  { issue with path := step :: issue.path }

end BroadcastGraphics
