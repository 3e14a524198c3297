import BroadcastGraphics.FileTree

/-!
# Files are read as they were written

Writing a file changes what stands at one place, and no directory becomes a file by it.  So every
path that was followed through directories before is followed in the same way afterwards, and the
content that was written at a path is what is read at it.
-/

namespace BroadcastGraphics
namespace FileTree

variable {tree : FileTree} {place other : Place} {entry : Entry}

@[simp] theorem at?_put
    (tree : FileTree)
    (place other : Place)
    (entry : Entry) :
    (tree.put place entry).at? other =
      if other.isGiven then some .directory
      else if place.text = other.text then some entry
      else tree.at? other := by
  cases given : other.isGiven <;> simp [at?, put, given, Table.get?_put]

/-- A directory stays one when something is put where none is. -/
theorem at?_put_of_directory
    (noDirectory : tree.at? place ≠ some .directory)
    (directory : tree.at? other = some .directory) :
    (tree.put place entry).at? other = some .directory := by
  rw [at?_put]
  cases given : other.isGiven with
  | true => rfl
  | false =>
    have apart : place.text ≠ other.text := by
      intro same
      apply noDirectory
      simp only [at?, given, Bool.false_eq_true, if_false] at directory
      simp [at?, same, directory]
    simp [apart, directory]

/-- A name that was followed is followed afterwards. -/
theorem step_put
    (noDirectory : tree.at? place ≠ some .directory)
    {name : String}
    {next : Place}
    (followed : tree.step other name = .ok next) :
    (tree.put place entry).step other name = .ok next := by
  unfold step at followed
  split at followed
  · cases followed
  · cases followed
  · rename_i directory
    unfold step
    rw [at?_put_of_directory noDirectory directory]
    exact followed

/-- So is a path. -/
theorem foldlM_step_put
    (noDirectory : tree.at? place ≠ some .directory)
    {names : List String}
    {start last : Place}
    (followed : names.foldlM tree.step start = .ok last) :
    names.foldlM (tree.put place entry).step start = .ok last := by
  induction names generalizing start with
  | nil => exact followed
  | cons name rest ih =>
    rw [List.foldlM_cons] at followed ⊢
    cases stepped : tree.step start name with
    | error fault =>
      rw [stepped] at followed
      cases followed
    | ok next =>
      rw [stepped] at followed
      rw [step_put noDirectory stepped]
      exact ih followed

theorem locate_put
    (noDirectory : tree.at? place ≠ some .directory)
    {path : String}
    {last : Place}
    (located : tree.locate path = .ok last) :
    (tree.put place entry).locate path = .ok last := by
  unfold locate at located ⊢
  split at located
  · cases located
  · exact foldlM_step_put noDirectory located

/-- The content that was written at a path is read at it. -/
theorem read_write
    {path content : String}
    {after : FileTree}
    (written : tree.write path content = .ok after) :
    after.read path = .ok content := by
  unfold write at written
  cases located : tree.locate path with
  | error fault =>
    rw [located] at written
    cases written
  | ok place =>
    rw [located] at written
    simp only [bind, Except.bind] at written
    split at written
    · cases written
    rename_i isFile
    cases written
    have notGiven : place.isGiven = false := by
      cases given : place.isGiven with
      | false => rfl
      | true => exact absurd (by simp [at?, given]) isFile
    unfold read
    rw [locate_put isFile located]
    simp [bind, Except.bind, notGiven]

end FileTree
end BroadcastGraphics
