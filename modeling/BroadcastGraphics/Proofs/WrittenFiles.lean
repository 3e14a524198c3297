import BroadcastGraphics.Exchange.Files
import BroadcastGraphics.Proofs.DirectoryTree

/-!
# Written files

Writing a set of files puts each of them directly into the directory, under the last part of its name,
and changes nothing else, whatever paths the names are.  A name that ends like that of a directory is
not written and ends the writing.  When all files have been written, each is there unless a later one
has the same last part.
-/

namespace BroadcastGraphics

namespace FileTree

variable {tree after : FileTree} {path content : String}

/-- A path that was followed is followed in the same way after a file has been written. -/
theorem locate_write
    (written : tree.write path content = .ok after)
    {other : String}
    {place : Place}
    (located : tree.locate other = .ok place) : after.locate other = .ok place := by
  obtain ⟨_, _, isFile, rfl⟩ := exists_of_write written
  exact locate_put isFile located

/-- A directory with those on the way to it stays when a file has been written. -/
theorem Stands.write
    (written : tree.write path content = .ok after)
    {place : Place}
    (stands : Stands tree place) : Stands after place := by
  obtain ⟨_, _, isFile, rfl⟩ := exists_of_write written
  exact stands.mono fun _ => at?_put_of_directory isFile

end FileTree

namespace Exchange

variable {tree after : FileTree} {directory : String}

/-! ## One file after the other -/

/-- A file is not written at all, or what can be written of its content is. -/
theorem writeOne_cases
    (tree : FileTree)
    (path : String)
    (content : Json) :
    (∃ fault, writeOne tree path content = (tree, .error fault)) ∨
      ∃ after, tree.write path (contentOf content).1 = .ok after ∧
        writeOne tree path content = (after, (contentOf content).2) := by
  unfold writeOne
  obtain ⟨text, outcome⟩ := contentOf content
  dsimp only
  cases tree.write path text with
  | error fault => exact Or.inl ⟨fault, rfl⟩
  | ok after => exact Or.inr ⟨after, rfl, rfl⟩

/-- The path of a file of a set. -/
def pathOf (directory : String) (file : String × Json) : String :=
  Path.join directory (Path.baseName file.1)

theorem writeEach_cons
    (file : String × Json)
    (rest : Table Json)
    (tree : FileTree) :
    writeEach directory (file :: rest) tree =
      match writeOne tree (pathOf directory file) file.2 with
      | (after, .error fault) => (after, .error fault)
      | (after, .ok _) => ((writeEach directory rest after).1,
          (writeEach directory rest after).2.map (pathOf directory file :: ·)) := by
  obtain ⟨name, content⟩ := file
  rw [writeEach]
  unfold pathOf
  rcases writeOne tree (Path.join directory (Path.baseName name)) content with ⟨after, fault | _⟩
  · rfl
  · rfl

/-- What writing one file keeps is kept by writing any number of them. -/
theorem keeps_writeEach
    {Holds : FileTree -> Prop}
    (keeps : ∀ tree after path content,
      tree.write path content = .ok after -> Holds tree -> Holds after)
    (files : Table Json)
    (holds : Holds tree) : Holds (writeEach directory files tree).1 := by
  induction files generalizing tree with
  | nil => exact holds
  | cons file rest ih =>
    rw [writeEach_cons]
    rcases writeOne_cases tree (pathOf directory file) file.2 with
      ⟨fault, failed⟩ | ⟨after, written, wrote⟩
    · rw [failed]
      exact holds
    · rw [wrote]
      have held := keeps _ _ _ _ written holds
      cases (contentOf file.2).2 with
      | error fault => exact held
      | ok _ => exact ih held

theorem locate_writeEach
    (files : Table Json)
    {path : String}
    {place : Place}
    (located : tree.locate path = .ok place) :
    (writeEach directory files tree).1.locate path = .ok place :=
  keeps_writeEach (fun _ _ _ _ written located => FileTree.locate_write written located) files located

theorem stands_writeEach
    (files : Table Json)
    {place : Place}
    (stands : FileTree.Stands tree place) :
    FileTree.Stands (writeEach directory files tree).1 place :=
  keeps_writeEach (fun _ _ _ _ written stands => FileTree.Stands.write written stands) files stands

/-- Files in front of others are written first, and the others only if all of them could be. -/
theorem writeEach_append
    (first second : Table Json)
    (tree : FileTree) :
    writeEach directory (first ++ second) tree =
      match writeEach directory first tree with
      | (after, .error fault) => (after, .error fault)
      | (after, .ok paths) => ((writeEach directory second after).1,
          (writeEach directory second after).2.map (paths ++ ·)) := by
  induction first generalizing tree with
  | nil =>
    rw [List.nil_append, writeEach]
    refine Prod.ext rfl ?_
    dsimp only
    cases (writeEach directory second tree).2 <;> rfl
  | cons file rest ih =>
    rw [List.cons_append, writeEach_cons, writeEach_cons]
    rcases writeOne tree (pathOf directory file) file.2 with ⟨after, fault | _⟩
    · rfl
    · dsimp only
      rw [ih after]
      rcases writeEach directory rest after with ⟨later, fault | paths⟩
      · rfl
      · dsimp only [Except.map]
        cases (writeEach directory second later).2 <;> rfl

/-! ## What files are written -/

/-- At the path there is a file of the set: it is directly in the directory, under the last part of its
name, which is no name of a directory, and what can be written of its content has been written. -/
def IsWritten (files : Table Json) (directory : String) (tree : FileTree) (path : String) : Prop :=
  ∃ home, tree.locate directory = .ok home ∧ ∃ file ∈ files,
    Path.IsFileName (Path.baseName file.1) ∧
    tree.locate (pathOf directory file) = .ok (home.child (Path.baseName file.1)) ∧
    path = (home.child (Path.baseName file.1)).text ∧
    Table.get? tree.entries path = some (.file (contentOf file.2).1)

section Located

variable {home : Place} (located : tree.locate directory = .ok home)
  (stands : FileTree.Stands tree home)
include located stands

/-- A file that is written stands in the directory under the last part of its name. -/
theorem writeOne_written
    {file : String × Json}
    (written : tree.write (pathOf directory file) (contentOf file.2).1 = .ok after) :
    Path.IsFileName (Path.baseName file.1) ∧
      after.locate (pathOf directory file) = .ok (home.child (Path.baseName file.1)) ∧
      ∀ path, Table.get? after.entries path =
        if (home.child (Path.baseName file.1)).text = path then some (.file (contentOf file.2).1)
        else Table.get? tree.entries path := by
  have noSlash := Path.slash_not_mem_baseName file.1
  obtain ⟨isName, led, isFile, rfl⟩ := FileTree.write_join noSlash located stands written
  refine ⟨isName, FileTree.locate_write written led, fun path => ?_⟩
  exact Table.get?_put _ _ _ _

/-- Whether or not all files could be written, nothing but files of the set has been. -/
theorem confined_writeEach
    (files : Table Json)
    (path : String) :
    Table.get? (writeEach directory files tree).1.entries path = Table.get? tree.entries path ∨
      IsWritten files directory (writeEach directory files tree).1 path := by
  induction files generalizing tree with
  | nil => exact Or.inl rfl
  | cons file rest ih =>
    rw [writeEach_cons]
    rcases writeOne_cases tree (pathOf directory file) file.2 with
      ⟨fault, failed⟩ | ⟨after, written, wrote⟩
    · rw [failed]
      exact Or.inl rfl
    · rw [wrote]
      obtain ⟨isName, led, stored⟩ := writeOne_written located stands written
      have locatedAfter := FileTree.locate_write written located
      -- the file stays as long as no other file of the set is written over it
      have first (last : FileTree) (same : Table.get? last.entries path = Table.get? after.entries path)
          (lastLocated : last.locate directory = .ok home)
          (lastLed : last.locate (pathOf directory file) =
            .ok (home.child (Path.baseName file.1))) :
          Table.get? last.entries path = Table.get? tree.entries path ∨
            IsWritten (file :: rest) directory last path := by
        rw [stored] at same
        split at same
        · rename_i here
          exact Or.inr ⟨home, lastLocated, file, List.mem_cons_self, isName, lastLed, here.symm, same⟩
        · exact Or.inl same
      cases (contentOf file.2).2 with
      | error fault => exact first after rfl locatedAfter led
      | ok _ =>
        rcases ih locatedAfter (stands.write written) with same | ⟨home, lastLocated, other, member, rest⟩
        · exact first _ same (locate_writeEach _ locatedAfter) (locate_writeEach _ led)
        · exact Or.inr ⟨home, lastLocated, other, List.mem_cons_of_mem _ member, rest⟩

/-- A file whose name ends like that of a directory is not written. -/
theorem writeOne_of_not_isFileName
    {file : String × Json}
    (noName : ¬ Path.IsFileName (Path.baseName file.1)) :
    ∃ fault, writeOne tree (pathOf directory file) file.2 = (tree, .error fault) := by
  rcases writeOne_cases tree (pathOf directory file) file.2 with failed | ⟨after, written, _⟩
  · exact failed
  · exact absurd (writeOne_written located stands written).1 noName

/-- When all files have been written, a file is there unless a later one has the same last part. -/
theorem written_of_ok
    {before rest : Table Json}
    {file : String × Json}
    {paths : List String}
    (wrote : writeEach directory (before ++ file :: rest) tree = (after, .ok paths))
    (noLater : ∀ later ∈ rest, Path.baseName later.1 ≠ Path.baseName file.1) :
    Path.IsFileName (Path.baseName file.1) ∧ (contentOf file.2).2 = .ok () ∧
      after.locate (pathOf directory file) = .ok (home.child (Path.baseName file.1)) ∧
      Table.get? after.entries (home.child (Path.baseName file.1)).text =
        some (.file (contentOf file.2).1) := by
  have locatedBefore : (writeEach directory before tree).1.locate directory = .ok home :=
    locate_writeEach before located
  have standsBefore : FileTree.Stands (writeEach directory before tree).1 home :=
    stands_writeEach before stands
  rw [writeEach_append] at wrote
  rcases earlier : writeEach directory before tree with ⟨middle, fault | earlierPaths⟩
  · rw [earlier] at wrote
    cases wrote
  rw [earlier] at wrote locatedBefore standsBefore
  dsimp only at wrote locatedBefore standsBefore
  obtain ⟨wrote, allWell⟩ := Prod.mk.inj wrote
  rw [writeEach_cons] at wrote allWell
  rcases writeOne_cases middle (pathOf directory file) file.2 with
    ⟨fault, failed⟩ | ⟨next, written, one⟩
  · rw [failed] at allWell
    cases allWell
  rw [one] at wrote allWell
  obtain ⟨isName, led, stored⟩ := writeOne_written locatedBefore standsBefore written
  have locatedNext := FileTree.locate_write written locatedBefore
  cases outcome : (contentOf file.2).2 with
  | error fault =>
    rw [outcome] at allWell
    cases allWell
  | ok _ =>
    rw [outcome] at wrote
    dsimp only at wrote
    subst wrote
    refine ⟨isName, rfl, locate_writeEach rest led, ?_⟩
    rcases confined_writeEach locatedNext (standsBefore.write written) rest
      (home.child (Path.baseName file.1)).text with same | other
    · rw [same, stored, if_pos rfl]
    · -- what is written later is written under another name
      obtain ⟨otherHome, otherLocated, later, member, _, _, here, _⟩ := other
      have sameHome : otherHome = home := by
        have both := otherLocated.symm.trans (locate_writeEach rest locatedNext)
        exact Except.ok.inj both
      rw [sameHome, Place.text_child_inj] at here
      exact absurd here.symm (noLater later member)

end Located

/-! ## Sets of files -/

/-- Between two trees, directories have been made where nothing was, and files of the set have been
written directly into the directory.  Everything else is as it was. -/
def Confined (files : Table Json) (directory : String) (before after : FileTree) : Prop :=
  ∀ path, Table.get? after.entries path = Table.get? before.entries path ∨
    (Table.get? before.entries path = none ∧ Table.get? after.entries path = some .directory) ∨
    IsWritten files directory after path

theorem confined_writeFiles
    (files : Table Json)
    (directory : String)
    (tree : FileTree) : Confined files directory tree (writeFiles files directory tree).1 := by
  intro path
  have grows := FileTree.grows_makeDirectories tree directory path
  unfold writeFiles
  rcases made : tree.makeDirectories directory with ⟨middle, fault | _⟩
  · rw [made] at grows
    exact grows.imp_right Or.inl
  · rw [made] at grows
    obtain ⟨home, located, stands⟩ := FileTree.makeDirectories_ok made
    dsimp only at grows ⊢
    rcases confined_writeEach located stands files path with same | written
    · rw [same]
      exact grows.imp_right Or.inl
    · exact Or.inr (Or.inr written)

/-- When a set of files has been written, each is there unless a later one has the same last part. -/
theorem at?_writeFiles_of_ok
    {files : Table Json}
    {paths : List String}
    (wrote : writeFiles files directory tree = (after, .ok paths)) :
    ∃ home, after.locate directory = .ok home ∧ ∀ before file rest, files = before ++ file :: rest ->
      (∀ later ∈ rest, Path.baseName later.1 ≠ Path.baseName file.1) ->
        (contentOf file.2).2 = .ok () ∧
          after.locate (pathOf directory file) = .ok (home.child (Path.baseName file.1)) ∧
          after.at? (home.child (Path.baseName file.1)) = some (.file (contentOf file.2).1) := by
  unfold writeFiles at wrote
  rcases made : tree.makeDirectories directory with ⟨middle, fault | _⟩
  · rw [made] at wrote
    cases wrote
  rw [made] at wrote
  dsimp only at wrote
  obtain ⟨home, located, stands⟩ := FileTree.makeDirectories_ok made
  refine ⟨home, ?_, ?_⟩
  · have stays := @locate_writeEach middle directory files directory home located
    rwa [wrote] at stays
  · rintro before file rest rfl noLater
    obtain ⟨isName, written, led, stored⟩ := written_of_ok located stands wrote noLater
    refine ⟨written, led, ?_⟩
    unfold FileTree.at?
    rw [Place.isGiven_child isName.notUp, if_neg Bool.false_ne_true]
    exact stored

/-- A file whose name ends like that of a directory ends the writing with a fault; only the files in
front of it have been written. -/
theorem writeFiles_of_not_isFileName
    {before rest : Table Json}
    {file : String × Json}
    (noName : ¬ Path.IsFileName (Path.baseName file.1))
    (directory : String)
    (tree : FileTree) :
    ∃ fault, writeFiles (before ++ file :: rest) directory tree =
      ((writeFiles before directory tree).1, .error fault) := by
  unfold writeFiles
  rcases made : tree.makeDirectories directory with ⟨middle, fault | _⟩
  · exact ⟨fault, rfl⟩
  · obtain ⟨home, located, stands⟩ := FileTree.makeDirectories_ok made
    have locatedBefore : (writeEach directory before middle).1.locate directory = .ok home :=
      locate_writeEach before located
    have standsBefore : FileTree.Stands (writeEach directory before middle).1 home :=
      stands_writeEach before stands
    obtain ⟨fault, failed⟩ := writeOne_of_not_isFileName locatedBefore standsBefore noName
    dsimp only
    rw [writeEach_append]
    rcases wrote : writeEach directory before middle with ⟨last, earlier | paths⟩
    · exact ⟨earlier, rfl⟩
    · rw [wrote] at failed
      refine ⟨fault, ?_⟩
      dsimp only at failed ⊢
      rw [writeEach_cons, failed]
      rfl

end Exchange
end BroadcastGraphics
