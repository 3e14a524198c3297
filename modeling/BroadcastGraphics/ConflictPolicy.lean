import BroadcastGraphics.Fault
import BroadcastGraphics.Table

/-!
# Conflict policies

A conflict policy says what an import does when the id of the template is taken.
-/

namespace BroadcastGraphics

/-- What an import does when the id is taken. -/
inductive ConflictPolicy where
  | replace
  | skip
  | rename
  deriving DecidableEq, Repr

namespace ConflictPolicy

/-- The policies under their names. -/
def options : Table ConflictPolicy :=
  [("replace", replace), ("skip", skip), ("rename", rename)]

/-- The name of a policy. -/
def name : ConflictPolicy -> String
  | replace => "replace"
  | skip => "skip"
  | rename => "rename"

/-- The policy that a value names. -/
def ofJson? (value : Json) : Option ConflictPolicy :=
  value.str?.bind (Table.get? options)

/-- The policy that a value names. -/
def ofJson (value : Json) : Except Fault ConflictPolicy :=
  match ofJson? value with
  | some policy => .ok policy
  | none => .error (.misuse (.unknownOption value .conflictPolicy))

end ConflictPolicy
end BroadcastGraphics
