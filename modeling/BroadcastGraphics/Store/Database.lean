import BroadcastGraphics.Json.Display
import BroadcastGraphics.Moment
import BroadcastGraphics.Store.Memory

/-!
# Stores in a database

A database has a row for every snapshot, with the name in its manifest and the moments at which the
row was made and last written.  Rows are listed by the moment at which they were made.
-/

namespace BroadcastGraphics
namespace Store

/-- The row of a stored snapshot. -/
structure Row where
  id : String
  name : String
  text : String
  made : Moment
  written : Moment
  deriving DecidableEq, Repr

/-- A store in a database. -/
structure Database where
  rows : List Row := []
  marker : Option String := none
  deriving DecidableEq, Repr

namespace Row

/-- The order in which rows are listed: by the moment at which they were made, then by id. -/
def before (left right : Row) : Bool :=
  left.made < right.made || (left.made == right.made && decide (left.id ≤ right.id))

/-- What a listing tells about a row. -/
def summary (row : Row) : Json :=
  .obj [("id", .str row.id), ("name", .str row.name), ("created_at", .str row.made.text),
    ("updated_at", .str row.written.text)]

end Row

namespace Database

/-- The row with an id. -/
def row? (database : Database) (id : String) : Option Row :=
  database.rows.find? fun row => row.id == id

/-- The name that a snapshot has in its manifest, nothing if there is none. -/
def manifestName (snapshot : Json) : Except Fault Json :=
  match snapshot with
  | .obj members =>
      match Json.memberOrNull members "manifest" with
      | .obj manifest => .ok ((Table.get? manifest "name").getD (.str ""))
      | manifest => if manifest.isTruthy then .error .noMembers else .ok (.str "")
  | _ => .error .noMembers

/-- The notation of numbers in a column. -/
def columnForm : Binary64.DigitForm := ⟨15, true⟩

/-- The number of significant digits that are kept in a column. -/
def columnDigits : Nat := 15

/-- A number as the text of a column: a failed result is nothing, and zero has no sign. -/
def columnNumber? : Binary64 -> Option String
  | .finite negative rank =>
      let digits := (Binary64.rounded columnDigits rank).text columnForm
      some (String.ofList (if negative && rank.val != 0 then '-' :: digits else digits))
  | .infinite negative => some (if negative then "-Inf" else "Inf")
  | .nan => none

/-- A text that can be bound to a statement. -/
def bindable (text : String) : Except Fault String :=
  match Text.HalfPair.firstRun? text.toList with
  | some run => .error (.unencodable run)
  | none => .ok text

/-- A value as the text of a column.  An integer has at most 64 bits, and a value with parts cannot
be stored. -/
def columnText? : Json -> Except Fault (Option String)
  | .null => .ok none
  | .bool value => .ok (some (if value then "1" else "0"))
  | .int value =>
      if -0x8000000000000000 ≤ value && value < 0x8000000000000000 then .ok (some (integerText value))
      else .error .outOfRange
  | .float value => .ok (columnNumber? value)
  | .str text => (bindable text).map some
  | _ => .error .notStorable

/-- The name of the row that a snapshot is kept in under an id. -/
def rowName (id : String) (snapshot : Json) : Except Fault String := do
  let name <- manifestName snapshot
  let _ <- bindable id
  match <- columnText? name with
  | some name => .ok name
  | none => .error .nameless

/-- Write a row over the one with its id, which keeps the moment at which it was made, or append
it. -/
def upsert (row : Row) : List Row -> List Row
  | [] => [row]
  | old :: rest =>
      if old.id == row.id then { row with made := old.made } :: rest else old :: upsert row rest

/-- Keep a snapshot under an id. -/
def save (database : Database) (now : Moment) (id : String) (snapshot : Json) :
    Database × Except Fault Unit :=
  match rowName id snapshot with
  | .error fault => (database, .error fault)
  | .ok name =>
      ({ database with rows := upsert ⟨id, name, snapshot.literal none, now, now⟩ database.rows },
        .ok ())

/-- The snapshot under an id. -/
def load (database : Database) (id : String) : Except Fault (Option Json) :=
  (bindable id).bind fun id => Json.ofStoredText? ((database.row? id).map Row.text)

/-- The rows without the one with an id. -/
def without (id : String) (rows : List Row) : List Row :=
  rows.filter fun row => row.id != id

/-- Forget the snapshot under an id. -/
def delete (database : Database) (id : String) : Database :=
  { database with rows := without id database.rows }

/-- There is a row with an id. -/
def holds (database : Database) (id : String) : Bool :=
  (database.row? id).isSome

/-- The rows in the order in which they are listed. -/
def listed (database : Database) : List Row :=
  database.rows.mergeSort Row.before

/-- The ids of the stored snapshots. -/
def ids (database : Database) : List String :=
  database.listed.map Row.id

/-- What is told about every row. -/
def summaries (database : Database) : List Json :=
  database.listed.map Row.summary

/-- Set the marker. -/
def mark (database : Database) (marker : Json) : Except Fault Database := do
  .ok { database with marker := <- columnText? marker }

/-- Put a text of any kind under an id, in a new row without a name. -/
def plant (database : Database) (now : Moment) (id text : String) : Database :=
  { database with rows := without id database.rows ++ [⟨id, "", text, now, now⟩] }

end Database
end Store
end BroadcastGraphics
