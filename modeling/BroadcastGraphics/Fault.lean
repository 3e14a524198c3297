import BroadcastGraphics.Json.Display
import BroadcastGraphics.Json.Name
import BroadcastGraphics.Json.Reader
import BroadcastGraphics.Validation.Checked

/-!
# Faults

A fault says why an operation was given up.  Faults of the domain have a message; the others come
from values of a shape that an operation cannot work on, from stored texts that cannot be read and
from stores that fail.
-/

namespace BroadcastGraphics

/-- Why a document cannot be imported. -/
inductive ImportProblem where
  | notAnObject
  | unknownFormat
  | noManifestFile
  | malformedBundle
  | noManifest
  | unreadableManifest
  | noIdentity
  | nothingGiven
  deriving DecidableEq, Repr

/-- The message of an import problem. -/
def ImportProblem.message : ImportProblem -> String
  | notAnObject => "Import document must be a JSON object"
  | unknownFormat => "Unrecognised template document format"
  | noManifestFile => "No manifest file found in bundle"
  | malformedBundle => "Invalid bundle format"
  | noManifest => "Editor template is missing its manifest"
  | unreadableManifest => "Invalid manifest JSON"
  | noIdentity => "Invalid manifest: missing required fields (id, name)"
  | nothingGiven => "Provide either a document or a manifest"

/-- A set of options that a value may have to come from. -/
inductive OptionSet where
  | elementKind
  | propertyKind
  | conflictPolicy
  deriving DecidableEq, Repr

/-- The name of an option set in messages. -/
def OptionSet.name : OptionSet -> String
  | elementKind => "ElementType"
  | propertyKind => "PropertyType"
  | conflictPolicy => "ConflictPolicy"

/-- What of a date or a time lies outside of the calendar or of the day. -/
inductive CalendarProblem where
  | year
  | month
  | day
  | hour
  | minute
  | second
  deriving DecidableEq, Repr

/-- The message of a date or a time that there is not. -/
def CalendarProblem.message : CalendarProblem -> String
  | year => "year 0 is out of range"
  | month => "month must be in 1..12"
  | day => "day is out of range for month"
  | hour => "hour must be in 0..23"
  | minute => "minute must be in 0..59"
  | second => "second must be in 0..59"

/-- A value of the wrong content for an operation. -/
inductive Misuse where
  | unknownOption (value : Json) (set : OptionSet)
  | specWithoutKind
  | elementIdTaken (id : Json)
  | actionWithoutName
  | pairLength (index length : Nat)
  | embeddedNull
  | notFinite
  | longInteger (digits : Nat)
  | longIntegerShown
  | tooDeepToWrite
  | notCharacter
  | notNumeral (base : Nat) (text : String)
  | notDecimal (text : String)
  | offCalendar (problem : CalendarProblem)
  deriving DecidableEq

/-- The message of a misuse. -/
def Misuse.message : Misuse -> String
  | unknownOption value set => value.quotedDisplay ++ " is not a valid " ++ set.name
  | specWithoutKind => "Element spec requires a type"
  | elementIdTaken id => "Element id already in use: " ++ id.display
  | actionWithoutName => "custom preview action requires a name"
  | pairLength index length =>
      "dictionary update sequence element #" ++ String.ofList (decimalDigits index) ++
        " has length " ++ String.ofList (decimalDigits length) ++ "; 2 is required"
  | embeddedNull => "embedded null byte"
  | notFinite => "Out of range float values are not JSON compliant"
  | longInteger digits =>
      "Exceeds the limit (4300 digits) for integer string conversion: value has " ++
        String.ofList (decimalDigits digits) ++
        " digits; use sys.set_int_max_str_digits() to increase the limit"
  | longIntegerShown =>
      "Exceeds the limit (4300 digits) for integer string conversion; " ++
        "use sys.set_int_max_str_digits() to increase the limit"
  | tooDeepToWrite => "Maximum serialization depth exceeded"
  | notCharacter => "chr() arg not in range(0x110000)"
  | notNumeral base text =>
      "invalid literal for int() with base " ++ String.ofList (decimalDigits base) ++ ": " ++
        (Json.str text).quotedDisplay
  | notDecimal text => "could not convert string to float: " ++ (Json.str text).quotedDisplay
  | offCalendar problem => problem.message

/-- Why a file or a directory cannot be used. -/
inductive FileProblem where
  | failed
  | missing
  | present
  | isDirectory
  | notDirectory
  deriving DecidableEq, Repr

/-- At what settings cannot be read: their characters, a token, the order of tokens, a reference or
a second document, or a value. -/
inductive SettingsProblem where
  | character
  | token
  | order
  | reference
  | value
  deriving DecidableEq, Repr

/-- Why an operation was given up. -/
inductive Fault where
  | invalid (record : String) (issues : List Issue)
  | templateNotFound (id : String)
  | templateExists (id : String)
  | badImport (problem : ImportProblem)
  | notMounted (id : String)
  | misuse (reason : Misuse)
  | unreadableText
  | wrongShape
  | noMembers
  | noSuchMember
  | noSuchPlace
  | file (problem : FileProblem)
  | nameless
  | notStorable
  | outOfRange
  | tooDeep
  | unreadableSettings (problem : SettingsProblem)
  | unencodable (run : Text.HalfPair.Run)
  deriving DecidableEq

namespace Fault

/-- The message of a fault of the domain. -/
def message? : Fault -> Option String
  | templateNotFound id => some ("Template with id \"" ++ id ++ "\" not found")
  | templateExists id => some ("Template with id \"" ++ id ++ "\" already exists")
  | badImport problem => some problem.message
  | notMounted id => some ("No component mounted for template " ++ id)
  | misuse reason => some reason.message
  | unencodable run => some run.message
  | _ => none

/-- The fault lies in the content of a value and not in its shape: an invalid record, a value of
the wrong content, or a text that cannot be read or written. -/
def isContent : Fault -> Bool
  | invalid _ _ => true
  | misuse _ => true
  | unreadableText => true
  | unencodable _ => true
  | _ => false

/-- The fault lies in a file or a directory. -/
def isOfFiles : Fault -> Bool
  | file _ => true
  | _ => false

end Fault

/-- The accepted value of a check, or the fault that names the record that was refused. -/
def Checked.orInvalid {α : Type} (record : String) : Checked α -> Except Fault α
  | accepted value => .ok value
  | refused issues => .error (.invalid record issues)

@[simp] theorem Checked.orInvalid_eq_ok {α : Type} (record : String) (result : Checked α)
    (value : α) : result.orInvalid record = .ok value ↔ result = .accepted value := by
  cases result <;> simp [Checked.orInvalid]

namespace Json

/-- The fault of a text that is refused. -/
def Unreadable.fault : Unreadable -> Fault
  | malformed _ => .unreadableText
  | longInteger digits => .misuse (.longInteger digits)
  | tooDeep => .tooDeep

/-- The value of a text, or the fault that keeps it from being read. -/
def ofText (text : String) : Except Fault Json :=
  (parse text).mapError Unreadable.fault

/-- The most levels that a free value inside of a record may have when it is written. -/
def mostLevels : Nat := 254

/-- A record as it is written, unless one of the free values in it has too many levels. -/
def written (free : List Json) (record : Json) : Except Fault Json :=
  if free.all fun value => value.levels ≤ mostLevels then .ok record
  else .error (.misuse .tooDeepToWrite)

/-- A pair read from a list of two items or a text of two characters. -/
def pairAt (index : Nat) : Json -> Except Fault (Json × Json)
  | arr [first, second] => .ok (first, second)
  | arr items => .error (.misuse (.pairLength index items.length))
  | str text =>
      match text.toList with
      | [first, second] => .ok (str (String.singleton first), str (String.singleton second))
      | characters => .error (.misuse (.pairLength index characters.length))
  | obj [(first, _), (second, _)] => .ok (Name.toJson first, Name.toJson second)
  | obj members => .error (.misuse (.pairLength index members.length))
  | _ => .error .wrongShape

/-- Write one pair over members; only a scalar can be a name. -/
def putPair (before : Table Json) (index : Nat) (item : Json) : Except Fault (Table Json) := do
  let (name, value) <- pairAt index item
  if name.isScalar then .ok (Name.put before name value) else .error .wrongShape

/-- Write the pairs of a list over members, up to the first that is none; the pairs before it stay
written. -/
def putPairs (before : Table Json) (index : Nat) : List Json -> Table Json × Except Fault Unit
  | [] => (before, .ok ())
  | item :: rest =>
      match putPair before index item with
      | .ok after => putPairs after (index + 1) rest
      | .error fault => (before, .error fault)

/-- Write the members of an object, or of a list of pairs, over others.  Those before a fault stay
written. -/
def putMembers (before : Table Json) : Json -> Table Json × Except Fault Unit
  | obj members => (Table.merge before members, .ok ())
  | arr items => putPairs before 0 items
  | str text =>
      putPairs before 0 (text.toList.map fun character => str (String.singleton character))
  | _ => (before, .error .wrongShape)

/-- The members of an object, or of a list of pairs. -/
def toMembers : Json -> Except Fault (Table Json)
  | obj members => .ok members
  | value =>
      match putMembers [] value with
      | (members, .ok ()) => .ok members
      | (_, .error fault) => .error fault

end Json
end BroadcastGraphics
