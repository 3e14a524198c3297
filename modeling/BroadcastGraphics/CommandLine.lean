import BroadcastGraphics.Audit
import BroadcastGraphics.Exchange.Document
import BroadcastGraphics.FileTree
import BroadcastGraphics.Json.Reader

/-!
# The audit command

The command `ograf-validate` audits one file.  It prints a report and ends with the status 0 if the
template passes and 1 if it does not or cannot be read; wrong arguments end it with the status 2.
-/

namespace BroadcastGraphics
namespace CommandLine

/-- The arguments of the command, and whether some belong to no option. -/
structure Arguments where
  file : Option String := none
  verbose : Bool := false
  hasSurplus : Bool := false
  deriving DecidableEq, Repr

/-- What the arguments ask for. -/
inductive Request where
  | audit (file : String) (verbose : Bool)
  | help
  | refused
  deriving DecidableEq, Repr

/-- An option of the command. -/
inductive CommandOption where
  | file
  | verbose
  | help
  deriving DecidableEq, Repr

/-- The options under their long names. -/
def longOptions : Table CommandOption :=
  [("--help", .help), ("--in", .file), ("--verbose", .verbose)]

/-- What a single argument is. -/
inductive Word where
  | value (text : String)
  | option (option : CommandOption) (inner : Option String)
  | shortOptions (letters : List Char)
  | unknown
  | ambiguous
  deriving DecidableEq, Repr

/-- The digits of a negative number, possibly with a point that a digit follows. -/
def isNegativeNumber : List Char -> Bool
  | '-' :: rest =>
      let afterWhole := rest.dropWhile Text.isDecimalDigit
      match afterWhole with
      | [] => !rest.isEmpty
      | '.' :: fraction => !fraction.isEmpty && fraction.all Text.isDecimalDigit
      | _ => false
  | _ => false

/-- The long options that a name can stand for: its own or those that begin with it. -/
def longOptionsFor (name : String) : List CommandOption :=
  match Table.get? longOptions name with
  | some option => [option]
  | none => (longOptions.filter fun option => name.toList.isPrefixOf option.1.toList).map Prod.snd

/-- The name of a long option and the value after an equals sign. -/
def splitAtEquals (characters : List Char) : String × Option String :=
  let name := String.ofList (characters.takeWhile (· != '='))
  match characters.dropWhile (· != '=') with
  | _ :: inner => (name, some (String.ofList inner))
  | [] => (name, none)

/-- The letters of short options after the first one; an equals sign before more of them is passed
over. -/
def furtherLetters : List Char -> List Char
  | '=' :: next :: rest => next :: rest
  | letters => letters

/-- Classify an argument. -/
def wordOf (argument : String) : Word :=
  let characters := argument.toList
  match characters with
  | '-' :: '-' :: _ :: _ =>
      let (name, inner) := splitAtEquals characters
      match longOptionsFor name with
      | [option] => .option option inner
      | [] => if characters.contains ' ' then .value argument else .unknown
      | _ => .ambiguous
  | '-' :: letter :: letters =>
      if letter == 'v' || letter == 'h' then .shortOptions (letter :: furtherLetters letters)
      else if isNegativeNumber characters || characters.contains ' ' then .value argument
      else .unknown
  | _ => .value argument

/-- Classify arguments; all arguments after a bare pair of dashes are values. -/
def wordsOf : List String -> List Word
  | [] => []
  | "--" :: rest => .unknown :: rest.map .value
  | argument :: rest => wordOf argument :: wordsOf rest

/-- The letters all name short options. -/
def areKnown (letters : List Char) : Bool :=
  letters.all fun letter => letter == 'v' || letter == 'h'

/-- Read the arguments after those read before.  What is neither an option nor the value of one is
refused at the end. -/
def readWords (before : Arguments) : List Word -> Request
  | [] =>
      match before.file with
      | some file => if before.hasSurplus then .refused else .audit file before.verbose
      | none => .refused
  | .option .help none :: _ => .help
  | .option .verbose none :: rest => readWords { before with verbose := true } rest
  | .option .file (some file) :: rest => readWords { before with file := some file } rest
  | .option .file none :: .value file :: rest => readWords { before with file := some file } rest
  | .option _ _ :: _ => .refused
  | .shortOptions letters :: rest =>
      if !areKnown letters then .refused
      else if letters.contains 'h' then .help
      else readWords { before with verbose := true } rest
  | .ambiguous :: _ => .refused
  | _ :: rest => readWords { before with hasSurplus := true } rest

/-- Read the arguments; an ambiguous one is refused whatever stands before it. -/
def readArguments (arguments : List String) : Request :=
  let words := wordsOf arguments
  if words.contains .ambiguous then .refused else readWords {} words

/-- What stands under a path. -/
inductive Source where
  | missing
  | unusable (problem : FileProblem)
  | text (content : String)
  deriving DecidableEq, Repr

/-- What stands under a path of a file tree. -/
def Source.within (tree : FileTree) (path : String) : Source :=
  match tree.find? path with
  | .ok (some (_, .file content)) => .text content
  | .ok (some (_, .directory)) => .unusable .isDirectory
  | .error (.file problem) => .unusable problem
  | _ => .missing

/-- The end of a run of the command. -/
structure Ending where
  status : Nat
  output : String
  deriving DecidableEq, Repr

/-- Lines, each with its end. -/
def printed (lines : List String) : String :=
  String.join (lines.map (· ++ "\n"))

/-- The help of the command. -/
def helpText : String :=
  printed [
    "usage: ograf-validate [-h] --in INPUT_FILE [--verbose]",
    "",
    "Validate OGraf editor templates",
    "",
    "options:",
    "  -h, --help       show this help message and exit",
    "  --in INPUT_FILE  Template JSON (editor export or snapshot)",
    "  --verbose, -v    Verbose output"]

/-- The template inside an editor document, or the value itself. -/
def templateOf : Json -> Json
  | .obj members =>
      if Json.memberOrNull members "format" = .str Exchange.templateFormat then
        Json.memberOrNull members "template"
      else .obj members
  | value => value

/-- The details of a template that has passed. -/
def details (template : Json) : List String :=
  let members := Audit.membersOrNone template
  let manifest := Audit.membersOrNone (Json.memberOrNull members "manifest")
  let properties := Audit.membersOrNone (Json.memberOrNull
    (Audit.membersOrNone (Json.memberOrNull manifest "schema")) "properties")
  let elements := ((Json.memberOrNull members "elements").arr?).getD []
  ["", "Template details:",
    "  Id: " ++ (Json.memberOrNull manifest "id").display,
    "  Name: " ++ (Json.memberOrNull manifest "name").display,
    "  Elements: " ++ Audit.indexText elements.length,
    "  Properties: " ++ (if properties.isEmpty || Table.names properties == [""] then "-"
      else String.intercalate ", " (Table.names properties))]

/-- Audit a value read from a file. -/
def auditValue (path : String) (value : Json) (verbose : Bool) : Except Fault Ending := do
  let template := templateOf value
  let opening := "Validating template: " ++ path
  let findings <- Audit.findings template true
  if findings.isEmpty then
    let warnings <- Audit.warnings template
    .ok ⟨0, printed ([opening, "", "Validation passed"] ++ warnings.map ("  ! " ++ ·) ++
      (if verbose then details template else []))⟩
  else
    .ok ⟨1, printed ([opening, "",
      "Validation failed with " ++ Audit.indexText findings.length ++ " errors:"] ++
      findings.map ("  - " ++ ·))⟩

/-- Audit what stands under a path. -/
def auditSource (path : String) (source : Source) (verbose : Bool) : Except Fault Ending :=
  match source with
  | .missing => .ok ⟨1, printed ["Error: Input file not found: " ++ path]⟩
  | .unusable problem => .error (.file problem)
  | .text content =>
      match Json.parse content with
      | .ok value => auditValue path value verbose
      | .error (.longInteger digits) => .error (.misuse (.longInteger digits))
      | .error .tooDeep => .error .tooDeep
      | .error (.malformed _) => .ok ⟨1, printed ["Error: Invalid JSON in " ++ path]⟩

/-- Run the command on what the paths stand for. -/
def run (arguments : List String) (sourceAt : String -> Source) : Except Fault Ending :=
  match readArguments arguments with
  | .refused => .ok ⟨2, ""⟩
  | .help => .ok ⟨0, helpText⟩
  | .audit file verbose =>
      let path := Path.normalized file
      auditSource path (sourceAt path) verbose

end CommandLine
end BroadcastGraphics
