import BroadcastGraphics.Fault
import BroadcastGraphics.Json.Printer
import BroadcastGraphics.Json.Reader
import BroadcastGraphics.Table

/-!
# Stores in memory

A store in memory keeps the text of every snapshot under its id, in the order in which the ids first
came, and a marker for the current template.
-/

namespace BroadcastGraphics

namespace Json

/-- The value of a stored text, if there is one. -/
def ofStoredText? : Option String -> Except Fault (Option Json)
  | none => .ok none
  | some text => (ofText text).map some

end Json

namespace Store

/-- A store in memory. -/
structure Memory where
  texts : Table String := []
  marker : Json := .null
  deriving DecidableEq

namespace Memory

/-- Keep a snapshot under an id. -/
def save (memory : Memory) (id : String) (snapshot : Json) : Memory :=
  { memory with texts := Table.put memory.texts id (snapshot.literal none) }

/-- The snapshot under an id. -/
def load (memory : Memory) (id : String) : Except Fault (Option Json) :=
  Json.ofStoredText? (Table.get? memory.texts id)

/-- Forget the snapshot under an id. -/
def delete (memory : Memory) (id : String) : Memory :=
  { memory with texts := Table.remove memory.texts id }

/-- There is a text under an id. -/
def holds (memory : Memory) (id : String) : Bool :=
  Table.has memory.texts id

/-- The ids of the stored snapshots. -/
def ids (memory : Memory) : List String :=
  Table.names memory.texts

/-- Set the marker. -/
def mark (memory : Memory) (marker : Json) : Memory :=
  { memory with marker := marker }

/-- Put a text of any kind under an id. -/
def plant (memory : Memory) (id text : String) : Memory :=
  { memory with texts := Table.put memory.texts id text }

end Memory
end Store
end BroadcastGraphics
