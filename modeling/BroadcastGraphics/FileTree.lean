import BroadcastGraphics.Fault
import BroadcastGraphics.Path

/-!
# Files and directories

A file tree holds directories and files with their contents.  A path is followed name by name from
the root or from the working directory, and everything on the way has to be a directory that is
there.  The working directory, the root and the directories outside the working directory are
always there.
-/

namespace BroadcastGraphics

/-- The place that a path leads to: the names on the way from the root or from the working
directory, which go up only at their beginning. -/
structure Place where
  isAbsolute : Bool
  names : List String
  deriving DecidableEq, Repr

namespace Place

/-- The name that leads from a directory to the one that holds it. -/
def up : String := ".."

/-- Where the following of a path begins. -/
def start (path : String) : Place :=
  ⟨path.toList.head? == some '/', []⟩

/-- The place of the directory that holds a place. -/
def parent (place : Place) : Place :=
  match place.names.getLast? with
  | none => if place.isAbsolute then place else ⟨false, [up]⟩
  | some last =>
      if last == up then { place with names := place.names ++ [up] }
      else { place with names := place.names.dropLast }

/-- The place of a name inside a directory. -/
def child (place : Place) (name : String) : Place :=
  { place with names := place.names ++ [name] }

/-- The place is there whatever a tree holds. -/
def isGiven (place : Place) : Bool :=
  place.names.all (· == up)

/-- The path of a place. -/
def text (place : Place) : String :=
  let inner := String.intercalate "/" place.names
  if place.isAbsolute then "/" ++ inner else inner

end Place

namespace FileTree

/-- What stands at a place. -/
inductive Entry where
  | directory
  | file (content : String)
  deriving DecidableEq, Repr

end FileTree

/-- Directories and files, by the paths of their places. -/
structure FileTree where
  entries : Table FileTree.Entry := []
  deriving DecidableEq, Repr

namespace FileTree

/-- What stands at a place, if anything does. -/
def at? (tree : FileTree) (place : Place) : Option Entry :=
  if place.isGiven then some .directory else Table.get? tree.entries place.text

/-- Put something at a place. -/
def put (tree : FileTree) (place : Place) (entry : Entry) : FileTree :=
  { tree with entries := Table.put tree.entries place.text entry }

/-- The longest name, in bytes. -/
def longestName : Nat := 255

/-- The longest path, in bytes. -/
def longestPath : Nat := 4095

/-- Follow one name of a path. -/
def step (tree : FileTree) (place : Place) (name : String) : Except Fault Place :=
  match tree.at? place with
  | none => .error (.file .missing)
  | some (.file _) => .error (.file .notDirectory)
  | some .directory =>
      if longestName < name.utf8ByteSize then .error (.file .failed)
      else if name == Place.up then .ok place.parent
      else .ok (place.child name)

/-- Why a path leads nowhere, whatever a tree holds. -/
def refusal? (path : String) : Option Fault :=
  if path.toList.contains '\x00' then some (.misuse .embeddedNull)
  else if path.isEmpty then some (.file .missing)
  else match Text.HalfPair.firstRun? path.toList with
    | some run => some (.unencodable run)
    | none => if longestPath < path.utf8ByteSize then some (.file .failed) else none

/-- The place that a path leads to, whether or not something stands there. -/
def locate (tree : FileTree) (path : String) : Except Fault Place :=
  match refusal? path with
  | some fault => .error fault
  | none => (Path.names path).foldlM tree.step (Place.start path)

/-- The way to an entry ends before it: something on it is missing or no directory. -/
def endsBefore : Fault -> Bool
  | .file .missing => true
  | .file .notDirectory => true
  | .misuse .embeddedNull => true
  | .unencodable _ => true
  | _ => false

/-- The place at the end of a path and what stands there, nothing if the way ends before it. -/
def find? (tree : FileTree) (path : String) : Except Fault (Option (Place × Entry)) :=
  match tree.locate path with
  | .ok place => .ok ((tree.at? place).map fun entry => (place, entry))
  | .error fault => if endsBefore fault then .ok none else .error fault

/-- The content of the file at a path. -/
def read (tree : FileTree) (path : String) : Except Fault String := do
  match tree.at? (<- tree.locate path) with
  | some (.file content) => .ok content
  | some .directory => .error (.file .isDirectory)
  | none => .error (.file .missing)

/-- Write a file at a path, over the file that stands there. -/
def write (tree : FileTree) (path content : String) : Except Fault FileTree := do
  let place <- tree.locate path
  if tree.at? place = some .directory then .error (.file .isDirectory)
  else .ok (tree.put place (.file content))

/-- Remove the file at a place. -/
def remove (tree : FileTree) (place : Place) : FileTree :=
  { tree with entries := Table.remove tree.entries place.text }

/-- Make the directory at a place unless it is there. -/
def withDirectory (tree : FileTree) (place : Place) : Except Fault FileTree :=
  match tree.at? place with
  | none => .ok (tree.put place .directory)
  | some .directory => .ok tree
  | some (.file _) => .error (.file .present)

/-- Follow names and make the directories that are missing on the way.  Those made before a fault
stay. -/
def makeAlong (tree : FileTree) (place : Place) : List String -> FileTree × Except Fault Unit
  | [] => (tree, .ok ())
  | name :: rest =>
      match tree.step place name with
      | .error fault => (tree, .error fault)
      | .ok next =>
          if rest.isEmpty || tree.at? next = none then
            match tree.withDirectory next with
            | .error fault => (tree, .error fault)
            | .ok tree => makeAlong tree next rest
          else makeAlong tree next rest

/-- Make the directory at a path, with those on the way to it. -/
def makeDirectories (tree : FileTree) (path : String) : FileTree × Except Fault Unit :=
  match refusal? path with
  | some fault => (tree, .error fault)
  | none => makeAlong tree (Place.start path) (Path.names path)

/-- The names of what stands in the directory at a place. -/
def namesIn (tree : FileTree) (place : Place) : List String :=
  tree.entries.filterMap fun entry =>
    let name := Path.baseName entry.1
    if (place.child name).text == entry.1 then some name else none

/-- The files, by their paths. -/
def files (tree : FileTree) : Table String :=
  tree.entries.filterMap fun (path, entry) =>
    match entry with
    | .file content => some (path, content)
    | .directory => none

/-- A tree of files, with the directories on the way to them. -/
def ofFiles (files : Table String) : FileTree :=
  files.foldl (fun tree (path, content) =>
    let (tree, _) := tree.makeDirectories (Path.parent path)
    ((tree.write path content).toOption).getD tree) {}

end FileTree
end BroadcastGraphics
