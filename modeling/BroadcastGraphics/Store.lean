import BroadcastGraphics.Store.Database
import BroadcastGraphics.Store.Directory

/-!
# Stores

A store keeps the snapshots of templates under their ids and a marker for the current template.  It
lies in memory, in a directory or in a database, and it can be made to fail.
-/

namespace BroadcastGraphics

/-- Where a store keeps its snapshots. -/
inductive Backend where
  | memory (memory : Store.Memory)
  | directory (directory : Store.Directory)
  | database (database : Store.Database)
  deriving DecidableEq

/-- A store with its clock, which moves on by a second at each reading. -/
structure Store where
  backend : Backend := .memory {}
  clock : Moment := Moment.beginning
  failsToSave : Bool := false
  failsToMark : Bool := false
  deriving DecidableEq

namespace Store

/-- The clock has been read. -/
def afterReading (store : Store) : Store :=
  { store with clock := store.clock + Moment.second }

/-- Keep a snapshot under an id. -/
def save (store : Store) (id : String) (snapshot : Json) : Store × Except Fault Unit :=
  if store.failsToSave then (store, .error (.file .failed))
  else match store.backend with
    | .memory memory => ({ store with backend := .memory (memory.save id snapshot) }, .ok ())
    | .directory directory =>
        let (directory, outcome) := directory.save id snapshot
        ({ store with backend := .directory directory }, outcome)
    | .database database =>
        let (database, outcome) := database.save store.clock id snapshot
        ({ store with backend := .database database }.afterReading, outcome)

/-- The snapshot under an id. -/
def load (store : Store) (id : String) : Except Fault (Option Json) :=
  match store.backend with
  | .memory memory => memory.load id
  | .directory directory => directory.load id
  | .database database => database.load id

/-- Forget the snapshot under an id; the answer says whether there was one. -/
def delete (store : Store) (id : String) : Store × Except Fault Bool :=
  match store.backend with
  | .memory memory => ({ store with backend := .memory (memory.delete id) }, .ok (memory.holds id))
  | .directory directory =>
      let (directory, outcome) := directory.delete id
      ({ store with backend := .directory directory }, outcome)
  | .database database =>
      match Database.bindable id with
      | .error fault => (store, .error fault)
      | .ok id =>
          ({ store with backend := .database (database.delete id) }, .ok (database.holds id))

/-- The ids of the stored snapshots. -/
def ids (store : Store) : List String :=
  match store.backend with
  | .memory memory => memory.ids
  | .directory directory => directory.ids
  | .database database => database.ids

/-- Set the marker of the current template. -/
def mark (store : Store) (marker : Json) : Store × Except Fault Unit :=
  if store.failsToMark then (store, .error (.file .failed))
  else match store.backend with
    | .memory memory => ({ store with backend := .memory (memory.mark marker) }, .ok ())
    | .directory directory =>
        let (directory, outcome) := directory.mark marker
        ({ store with backend := .directory directory }, outcome)
    | .database database =>
        match database.mark marker with
        | .error fault => (store, .error fault)
        | .ok database => ({ store with backend := .database database }, .ok ())

/-- The marker of the current template. -/
def marker (store : Store) : Except Fault Json :=
  match store.backend with
  | .memory memory => .ok memory.marker
  | .directory directory => directory.marker
  | .database database => .ok (Json.ofText? database.marker)

/-- The snapshot under an id, if it can be read and is one.  What keeps it from being read is passed
over unless it lies deeper than in its content or in a file. -/
def snapshot? (store : Store) (id : String) : Except Fault (Option Snapshot) :=
  match store.load id with
  | .ok none => .ok none
  | .ok (some value) => .ok (Snapshot.read value).toOption
  | .error fault => if fault.isContent || fault.isOfFiles then .ok none else .error fault

/-- All snapshots that can be read, under the ids at which they are stored. -/
def snapshots (store : Store) : Except Fault (Table Snapshot) :=
  store.ids.foldlM (fun read id => do
    match <- store.snapshot? id with
    | some snapshot => .ok (Table.put read id snapshot)
    | none => .ok read) []

/-- A store without content, as it is at the beginning. -/
def empty (backend : Backend) : Store :=
  { backend := backend }

/-- Put a text of any kind under an id. -/
def plant (store : Store) (id text : String) : Store × Except Fault Unit :=
  match store.backend with
  | .memory memory => ({ store with backend := .memory (memory.plant id text) }, .ok ())
  | .directory directory =>
      let (directory, outcome) := directory.plant id text
      ({ store with backend := .directory directory }, outcome)
  | .database database =>
      ({ store with backend := .database (database.plant store.clock id text) }.afterReading,
        .ok ())

/-- The text of a file of a store in a directory. -/
def file (store : Store) (name : String) : Except Fault String :=
  match store.backend with
  | .directory directory => directory.file name
  | _ => .error (.file .missing)

/-- Put a text of any kind into a file of a store in a directory. -/
def writeFile (store : Store) (name text : String) : Store × Except Fault Unit :=
  match store.backend with
  | .directory directory =>
      let (directory, outcome) := directory.writeFile (Directory.pathIn name) text
      ({ store with backend := .directory directory }, outcome)
  | _ => (store, .ok ())

/-- What a store in a database tells about every row. -/
def summaries (store : Store) : List Json :=
  match store.backend with
  | .database database => database.summaries
  | _ => []

end Store
end BroadcastGraphics
