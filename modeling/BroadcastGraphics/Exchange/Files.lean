import BroadcastGraphics.FileTree

/-!
# Files written by exports

Every file of a set is written into one directory under the last part of its name, whatever path
the name holds.  Names that are those of directories cannot be written.
-/

namespace BroadcastGraphics
namespace Exchange

/-- What a file holds after a value has been written to it.  A value that is no text cannot be
written, and neither can a text with halves of pairs: the file stays empty. -/
def contentOf : Json -> String × Except Fault Unit
  | .str text =>
      match Text.HalfPair.firstRun? text.toList with
      | some run => ("", .error (.unencodable run))
      | none => (text, .ok ())
  | _ => ("", .error .wrongShape)

-- irreducible, so that the equations of what follows do not evaluate paths
/-- Write one file. -/
@[irreducible]
def writeOne (tree : FileTree) (path : String) (content : Json) : FileTree × Except Fault Unit :=
  let (text, outcome) := contentOf content
  match tree.write path text with
  | .ok tree => (tree, outcome)
  | .error fault => (tree, .error fault)

/-- Write the files of a set one after the other, up to the first that cannot be written, and
report the paths. -/
def writeEach (directory : String) :
    Table Json -> FileTree -> FileTree × Except Fault (List String)
  | [], tree => (tree, .ok [])
  | (name, content) :: rest, tree =>
      let path := Path.join directory (Path.baseName name)
      match writeOne tree path content with
      | (tree, .error fault) => (tree, .error fault)
      | (tree, .ok ()) =>
          let (tree, written) := writeEach directory rest tree
          (tree, written.map (path :: ·))

/-- Write a set of files into a directory, which is made if it is not there. -/
def writeFiles (files : Table Json) (directory : String) (tree : FileTree) :
    FileTree × Except Fault (List String) :=
  match tree.makeDirectories directory with
  | (tree, .error fault) => (tree, .error fault)
  | (tree, .ok ()) => writeEach directory files tree

/-- Write the files that a value names into the directory that a value names. -/
def writeValues (files directory : Json) (tree : FileTree) :
    FileTree × Except Fault (List String) :=
  match directory, files with
  | .str directory, .obj files => writeFiles files directory tree
  | .str directory, _ =>
      match tree.makeDirectories directory with
      | (tree, .error fault) => (tree, .error fault)
      | (tree, .ok ()) => (tree, .error .noMembers)
  | _, _ => (tree, .error .wrongShape)

end Exchange
end BroadcastGraphics
