import BroadcastGraphics.FileTree
import BroadcastGraphics.Snapshot
import BroadcastGraphics.Store.Memory

/-!
# Stores in a directory

A store in a directory has one file for every snapshot, named for the id, and one more file that
marks the current template.  Snapshots are checked when they are written and when they are read.  An
id with slashes names a file in a directory below, which is made for it.
-/

namespace BroadcastGraphics
namespace Store

/-- The name of the directory of a store. -/
def Directory.home : String := "store"

/-- A store in a directory: the file tree that the directory is in. -/
structure Directory where
  tree : FileTree := ⟨[(Directory.home, .directory)]⟩
  deriving DecidableEq

namespace Directory

/-- What the names of files end in. -/
def suffix : String := ".json"

/-- The name of the file that marks the current template. -/
def markerFile : String := "_current.json"

/-- The path of a file in the directory. -/
def pathIn (name : String) : String :=
  Path.join home name

/-- The path of the snapshot with an id. -/
def pathOf (id : String) : String :=
  Path.normalized (pathIn (id ++ suffix))

/-- The part of a text that is written before the piece with a run of halves in it: a piece is a
string literal with what stands before it in a list. -/
def beforePiece (text : String) (run : Text.HalfPair.Run) : String :=
  let whole := text.toList.takeWhile fun character => !Text.HalfPair.isHalf character
  String.ofList (whole.take (whole.length - run.start))

/-- Write a snapshot at a path.  If it cannot be written the file stays empty, and if a text in it
cannot be written the file ends before it. -/
def writeSnapshot (tree : FileTree) (path : String) (snapshot : Snapshot) :
    FileTree × Except Fault Unit :=
  let text := snapshot.fileText
  let (content, outcome) := match snapshot.written, snapshot.toJson.halvesInPiece? 2 0 with
    | .error fault, _ => ("", .error fault)
    | .ok _, some run => (beforePiece text run, .error (.unencodable run))
    | .ok _, none => (text, .ok ())
  match tree.write path content with
  | .ok tree => (tree, outcome)
  | .error fault => (tree, .error fault)

/-- Check a snapshot and write it to its file. -/
def save (directory : Directory) (id : String) (snapshot : Json) : Directory × Except Fault Unit :=
  match Snapshot.read snapshot with
  | .error fault => (directory, .error fault)
  | .ok snapshot =>
      let path := pathOf id
      match directory.tree.makeDirectories (Path.parent path) with
      | (tree, .error fault) => (⟨tree⟩, .error fault)
      | (tree, .ok ()) =>
          let (tree, outcome) := writeSnapshot tree path snapshot
          (⟨tree⟩, outcome)

/-- Read and check the snapshot with an id. -/
def load (directory : Directory) (id : String) : Except Fault (Option Json) := do
  match <- directory.tree.find? (pathOf id) with
  | none => .ok none
  | some (_, .directory) => .error (.file .isDirectory)
  | some (_, .file text) => do .ok (some (<- (<- Snapshot.ofFileText text).written))

/-- Remove the file of the snapshot with an id. -/
def delete (directory : Directory) (id : String) : Directory × Except Fault Bool :=
  match directory.tree.find? (pathOf id) with
  | .ok none => (directory, .ok false)
  | .ok (some (place, .file _)) => (⟨directory.tree.remove place⟩, .ok true)
  | .ok (some (_, .directory)) => (directory, .error (.file .isDirectory))
  | .error fault => (directory, .error fault)

/-- The name of a file without its suffix; a name that is nothing but the suffix stays. -/
def stem (file : String) : String :=
  if file == suffix then file else String.ofList (file.toList.take (file.length - suffix.length))

/-- A name in the directory is that of a snapshot. -/
def isSnapshotName (name : String) : Bool :=
  Text.endsIn name suffix && name != markerFile

/-- The ids of the stored snapshots, in the order of their characters. -/
def ids (directory : Directory) : List String :=
  (((directory.tree.namesIn ⟨false, [home]⟩).filter isSnapshotName).map stem).mergeSort
    fun left right => decide (left ≤ right)

/-- Write a text to a file, whatever it holds. -/
def writeFile (directory : Directory) (path text : String) : Directory × Except Fault Unit :=
  match directory.tree.write path text with
  | .ok tree => (⟨tree⟩, .ok ())
  | .error fault => (directory, .error fault)

/-- Write the marker to its file. -/
def mark (directory : Directory) (marker : Json) : Directory × Except Fault Unit :=
  directory.writeFile (pathIn markerFile) ((Json.obj [("current", marker)]).literal none)

/-- The marker in a text; a text that cannot be read has none. -/
def markerIn (text : String) : Except Fault Json :=
  match Json.parse text with
  | .error .tooDeep => .error .tooDeep
  | .error _ => .ok .null
  | .ok (.obj members) => .ok (Json.memberOrNull members "current")
  | .ok _ => .error .noMembers

/-- The marker in its file. -/
def marker (directory : Directory) : Except Fault Json :=
  match directory.tree.find? (pathIn markerFile) with
  | .ok (some (_, .file text)) => markerIn text
  | _ => .ok .null

/-- Put a text of any kind into the file of an id. -/
def plant (directory : Directory) (id text : String) : Directory × Except Fault Unit :=
  directory.writeFile (pathIn (id ++ suffix)) text

/-- The text of a file, every end of a line being one character. -/
def file (directory : Directory) (name : String) : Except Fault String :=
  (directory.tree.read (pathIn name)).map Text.withPlainLineEnds

end Directory
end Store
end BroadcastGraphics
