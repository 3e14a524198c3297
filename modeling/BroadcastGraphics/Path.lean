import BroadcastGraphics.Text.Search

/-!
# Paths

A path is a text with names between slashes.
-/

namespace BroadcastGraphics
namespace Path

/-- The part of a path after its last slash. -/
def baseName (path : String) : String :=
  String.ofList (((path.toList.reverse).takeWhile (· != '/')).reverse)

/-- A path inside a directory; an absolute path stays as it is. -/
def join (directory path : String) : String :=
  if path.toList.head? == some '/' then path
  else if directory.isEmpty || directory.toList.getLast? == some '/' then directory ++ path
  else directory ++ "/" ++ path

/-- The names of a path, without empty names and the name of the directory itself. -/
def names (path : String) : List String :=
  (Text.split '/' path).filter fun name => !name.isEmpty && name != "."

/-- The slashes at the beginning of a path that are kept: two slashes are not the same as one, but
more than two are. -/
def root (path : String) : String :=
  match (path.toList.takeWhile (· == '/')).length with
  | 0 => ""
  | 2 => "//"
  | _ => "/"

/-- A path of names after a root; no names and no root is the directory itself. -/
def ofNames (root : String) (names : List String) : String :=
  let path := root ++ String.intercalate "/" names
  if path.isEmpty then "." else path

/-- A path without empty names and names of the directory itself. -/
def normalized (path : String) : String :=
  ofNames (root path) (names path)

/-- The path of the directory that the last name of a path is in. -/
def parent (path : String) : String :=
  ofNames (root path) (names path).dropLast

/-- The last part of a path contains no slash. -/
theorem slash_not_mem_baseName (path : String) : '/' ∉ (baseName path).toList := by
  simp only [baseName, String.toList_ofList, List.mem_reverse]
  intro member
  have free := List.all_takeWhile (p := (· != '/')) (l := path.toList.reverse)
  simpa using List.all_eq_true.1 free _ member

end Path
end BroadcastGraphics
