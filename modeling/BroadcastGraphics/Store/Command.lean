import BroadcastGraphics.Store

/-!
# Commands of a store

Everything that can be asked of a store as values, so that runs of commands on different stores can
be compared.  A command names a snapshot by a value of any kind, and what id that is depends on
where the store lies.
-/

namespace BroadcastGraphics
namespace Store

/-- A command of a store. -/
inductive Command where
  | save (id snapshot : Json)
  | load (id : Json)
  | delete (id : Json)
  | ids
  | mark (marker : Json)
  | marker
  | snapshots
  | plant (id : Json) (text : String)
  | file (name : String)
  | writeFile (name text : String)
  | summaries

/-- The id that a value is.  Memory finds no values with parts, a directory takes the text of a
value, and a database what a column keeps of it. -/
def idOf (store : Store) (value : Json) : Except Fault String :=
  match store.backend, value with
  | _, .str id => .ok id
  | .memory _, .arr _ => .error .wrongShape
  | .memory _, .obj _ => .error .wrongShape
  | .database _, value => (Database.columnText? value).map fun text => text.getD ""
  | _, value => .ok value.display

/-- Do with the id that a value is; the store stays as it is where the value is none. -/
def withId (store : Store) (value : Json) (act : String -> Store × Except Fault Json) :
    Store × Except Fault Json :=
  match store.idOf value with
  | .ok id => act id
  | .error fault => (store, .error fault)

/-- Carry out a command; the answer is a value. -/
def perform (store : Store) : Command -> Store × Except Fault Json
  | .save id snapshot => store.withId id fun id =>
      let (store, outcome) := store.save id snapshot
      (store, outcome.map fun _ => .null)
  | .load id => store.withId id fun id =>
      (store, (store.load id).map fun snapshot => snapshot.getD .null)
  | .delete id => store.withId id fun id =>
      let (store, outcome) := store.delete id
      (store, outcome.map Json.bool)
  | .ids => (store, .ok (.ofStrings store.ids))
  | .mark marker =>
      let (store, outcome) := store.mark marker
      (store, outcome.map fun _ => .null)
  | .marker => (store, store.marker)
  | .snapshots => (store, do
      let found <- store.snapshots
      .ok (.obj (<- found.mapM fun (id, snapshot) => do return (id, <- snapshot.written))))
  | .plant id text => store.withId id fun id =>
      let (store, outcome) := store.plant id text
      (store, outcome.map fun _ => .null)
  | .file name => (store, (store.file name).map Json.str)
  | .writeFile name text =>
      let (store, outcome) := store.writeFile name text
      (store, outcome.map fun _ => .null)
  | .summaries => (store, .ok (.arr store.summaries))

end Store
end BroadcastGraphics
