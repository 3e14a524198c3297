import BroadcastGraphics.Proofs.FlatDirectory

/-!
# Directories on the way

A path to a name inside a directory leads through the place of the directory.  Making a directory makes
what is missing on the way to it and changes nothing else; afterwards the path leads to a place where a
directory stands, and so does one at every place on the way.  What goes up from there goes up to a
directory.
-/

namespace BroadcastGraphics

/-! ## Paths inside a directory -/

namespace Path

/-- A name that can be that of a file in a directory. -/
structure IsFileName (name : String) : Prop where
  nonempty : name ≠ ""
  noSlash : '/' ∉ name.toList
  notHere : name ≠ "."
  notUp : name ≠ Place.up

variable {directory name : String}

/-- A path inside a directory is the path of the directory with a slash, unless it has one, and then
the name. -/
theorem exists_join
    (nonempty : directory ≠ "")
    (noSlash : '/' ∉ name.toList) :
    ∃ before, (directory = before ∨ directory = before ++ "/") ∧
      join directory name = before ++ "/" ++ name := by
  have relative : name.toList.head? ≠ some '/' := fun isHead =>
    noSlash (List.mem_of_mem_head? isHead)
  unfold join
  rw [if_neg (by simpa using relative)]
  by_cases ended : directory.toList.getLast? = some '/'
  · refine ⟨String.ofList directory.toList.dropLast, Or.inr ?_, ?_⟩
    all_goals
      have whole : directory = String.ofList directory.toList.dropLast ++ "/" := by
        apply String.toList_injective
        rw [String.toList_append, String.toList_ofList]
        exact (List.dropLast_append_getLast? '/' ended).symm
    · exact whole
    · rw [if_pos (by simp [ended]), ← whole]
  · refine ⟨directory, Or.inl rfl, ?_⟩
    rw [if_neg (by simp [ended, nonempty])]

theorem names_append_slash
    (before after : String) :
    names (before ++ "/" ++ after) = names before ++ names after := by
  have cut : (before ++ "/" ++ after).toList = before.toList ++ '/' :: after.toList := by
    rw [String.toList_append, String.toList_append, List.append_assoc]
    rfl
  unfold names Text.split
  rw [cut, Text.splitAt_append_separator, List.map_append, List.filter_append]

theorem names_of_noSlash
    (noSlash : '/' ∉ name.toList) :
    names name = if name = "" ∨ name = "." then [] else [name] := by
  unfold names Text.split
  rw [Text.splitAt_of_notMem noSlash, List.map_singleton, String.ofList_toList, List.filter_singleton]
  by_cases empty : name = ""
  · rw [if_pos (Or.inl empty), empty]
    rfl
  · by_cases here : name = "."
    · rw [if_pos (Or.inr here), here]
      rfl
    · have kept : (!name.isEmpty && name != ".") = true := by simp [empty, here]
      rw [if_neg (not_or.2 ⟨empty, here⟩), kept]
      rfl

/-- The last name of a path inside a directory comes behind the names of the directory. -/
theorem names_join
    (nonempty : directory ≠ "")
    (noSlash : '/' ∉ name.toList) :
    names (join directory name) = names directory ++ names name := by
  obtain ⟨before, isDirectory, joined⟩ := exists_join nonempty noSlash
  rw [joined, names_append_slash]
  rcases isDirectory with rfl | rfl
  · rfl
  · have ended := names_append_slash before ""
    rw [String.append_empty] at ended
    rw [ended]
    simp [names, Text.split, Text.splitAt]

/-- A path inside a directory goes on from the path of the directory. -/
theorem exists_join_eq_append
    (nonempty : directory ≠ "")
    (noSlash : '/' ∉ name.toList) :
    ∃ more, join directory name = directory ++ more := by
  obtain ⟨before, isDirectory, joined⟩ := exists_join nonempty noSlash
  rw [joined]
  rcases isDirectory with rfl | rfl
  · exact ⟨"/" ++ name, String.append_assoc⟩
  · exact ⟨name, rfl⟩

end Path

/-! ## Places -/

namespace Place

/-- The path of a place in a directory starts in the same way for every name. -/
theorem exists_text_child (place : Place) :
    ∃ before, ∀ name, (place.child name).text = before ++ name := by
  have inner : ∃ before, ∀ name, String.intercalate "/" (place.names ++ [name]) = before ++ name := by
    induction place.names with
    | nil =>
      refine ⟨"", fun name => ?_⟩
      rw [List.nil_append, String.intercalate_singleton, String.empty_append]
    | cons first rest ih =>
      obtain ⟨before, same⟩ := ih
      refine ⟨first ++ "/" ++ before, fun name => ?_⟩
      rw [List.cons_append, String.intercalate_cons_of_ne_nil (by simp), same,
        String.append_assoc, String.append_assoc, String.append_assoc]
  obtain ⟨before, same⟩ := inner
  unfold text child
  cases place.isAbsolute with
  | false => exact ⟨before, same⟩
  | true => exact ⟨"/" ++ before, fun name => by simp [same, String.append_assoc]⟩

/-- Different names in a directory are in different places. -/
theorem text_child_inj
    {place : Place}
    {first second : String} :
    (place.child first).text = (place.child second).text ↔ first = second := by
  obtain ⟨before, same⟩ := place.exists_text_child
  rw [same, same]
  simp

theorem parent_child
    {name : String}
    (notUp : name ≠ up)
    (place : Place) : (place.child name).parent = place := by
  simp [parent, child, notUp]

theorem isGiven_child
    {name : String}
    (notUp : name ≠ up)
    (place : Place) : (place.child name).isGiven = false := by
  simp [isGiven, child, notUp]

end Place

/-! ## Places that stand -/

namespace FileTree

/-- A directory is at the place and at all places on the way to it. -/
inductive Stands (tree : FileTree) : Place -> Prop where
  | root : Stands tree ⟨true, []⟩
  | above (count : Nat) : Stands tree ⟨false, List.replicate count Place.up⟩
  | child {place : Place} {name : String} (stands : Stands tree place) (notUp : name ≠ Place.up)
      (directory : tree.at? (place.child name) = some .directory) : Stands tree (place.child name)

namespace Stands

variable {tree after : FileTree} {place : Place}

theorem directory (stands : Stands tree place) : tree.at? place = some .directory := by
  cases stands with
  | root => rfl
  | above count => simp [at?, Place.isGiven]
  | child _ _ directory => exact directory

theorem start (path : String) : Stands tree (Place.start path) := by
  unfold Place.start
  cases path.toList.head? == some '/' with
  | true => exact root
  | false => exact above 0

/-- What goes up from a directory goes up to a directory. -/
theorem parent (stands : Stands tree place) : Stands tree place.parent := by
  cases stands with
  | root => exact root
  | above count =>
    have higher := @above tree (count + 1)
    unfold Place.parent
    cases count with
    | zero => exact higher
    | succ count => simpa [List.replicate_succ'] using higher
  | child stands notUp _ =>
    rw [Place.parent_child notUp]
    exact stands

theorem mono
    (keeps : ∀ place, tree.at? place = some .directory -> after.at? place = some .directory)
    (stands : Stands tree place) : Stands after place := by
  induction stands with
  | root => exact root
  | above count => exact above count
  | child _ notUp directory ih => exact ih.child notUp (keeps _ directory)

end Stands

/-! ## Trees that grow -/

/-- What is there stays as it is, and nothing but directories is made. -/
def Grows (before after : FileTree) : Prop :=
  ∀ path, Table.get? after.entries path = Table.get? before.entries path ∨
    (Table.get? before.entries path = none ∧ Table.get? after.entries path = some .directory)

namespace Grows

variable {first second third : FileTree}

theorem refl (tree : FileTree) : Grows tree tree := fun _ => Or.inl rfl

theorem trans
    (here : Grows first second)
    (there : Grows second third) : Grows first third := by
  intro path
  rcases there path with same | ⟨absent, made⟩
  · rw [same]
    exact here path
  · refine Or.inr ⟨?_, made⟩
    rcases here path with same | ⟨missing, _⟩
    · rw [← same, absent]
    · exact missing

theorem put
    {tree : FileTree}
    {place : Place}
    (missing : tree.at? place = none) : Grows tree (tree.put place .directory) := by
  intro path
  unfold FileTree.put
  rw [Table.get?_put]
  split
  · rename_i here
    refine Or.inr ⟨?_, rfl⟩
    unfold at? at missing
    split at missing
    · cases missing
    · rw [← here]
      exact missing
  · exact Or.inl rfl

theorem at?_directory
    (grows : Grows first second)
    {place : Place}
    (directory : first.at? place = some .directory) : second.at? place = some .directory := by
  unfold at? at directory ⊢
  split
  · rfl
  · rename_i free
    rw [if_neg free] at directory
    rcases grows place.text with same | ⟨absent, _⟩
    · rw [same, directory]
    · cases directory.symm.trans absent

/-- A name that was followed is followed in the same way. -/
theorem step
    (grows : Grows first second)
    {place next : Place}
    {name : String}
    (followed : first.step place name = .ok next) : second.step place name = .ok next := by
  unfold FileTree.step at followed ⊢
  split at followed
  · cases followed
  · cases followed
  · rename_i directory
    rw [grows.at?_directory directory]
    exact followed

end Grows

/-! ## Making directories -/

section Making

variable {tree after : FileTree} {place next : Place} {name : String}

/-- From a directory a name leads up to a directory, or into the directory. -/
theorem Stands.step
    (stands : Stands tree place)
    (followed : tree.step place name = .ok next) :
    (name = Place.up ∧ next = place.parent ∧ Stands tree next) ∨
      (name ≠ Place.up ∧ next = place.child name) := by
  unfold FileTree.step at followed
  rw [stands.directory] at followed
  dsimp only at followed
  split at followed
  · cases followed
  · split at followed
    · rename_i isUp
      cases followed
      exact Or.inl ⟨beq_iff_eq.1 isUp, rfl, stands.parent⟩
    · rename_i notUp
      cases followed
      exact Or.inr ⟨fun isUp => notUp (beq_iff_eq.2 isUp), rfl⟩

theorem withDirectory_ok
    (made : tree.withDirectory place = .ok after) :
    Grows tree after ∧ after.at? place = some .directory := by
  unfold withDirectory at made
  split at made
  · rename_i missing
    cases made
    refine ⟨Grows.put missing, ?_⟩
    rw [at?_put]
    simp
  · rename_i directory
    cases made
    exact ⟨Grows.refl tree, directory⟩
  · cases made

/-- Whether or not all directories on a way can be made, nothing else is. -/
theorem grows_makeAlong
    (tree : FileTree)
    (place : Place)
    (names : List String) : Grows tree (tree.makeAlong place names).1 := by
  induction names generalizing tree place with
  | nil => exact Grows.refl tree
  | cons name rest ih =>
    unfold makeAlong
    split
    · exact Grows.refl tree
    · split
      · split
        · exact Grows.refl tree
        · rename_i made
          exact (withDirectory_ok made).1.trans (ih _ _)
      · exact ih _ _

/-- When all directories on a way have been made, the way leads to one of them. -/
theorem makeAlong_ok
    {names : List String}
    (stands : Stands tree place)
    (made : tree.makeAlong place names = (after, .ok ())) :
    ∃ home, names.foldlM after.step place = .ok home ∧ Stands after home := by
  induction names generalizing tree place with
  | nil =>
    cases made
    exact ⟨place, rfl, stands⟩
  | cons name rest ih =>
    have grows : Grows tree after := by
      have grown := grows_makeAlong tree place (name :: rest)
      rwa [made] at grown
    unfold makeAlong at made
    split at made
    · cases made
    · rename_i next followed
      have onTheWay {middle : FileTree} (middleStands : Stands middle next)
          (restMade : middle.makeAlong next rest = (after, .ok ())) :
          ∃ home, (name :: rest).foldlM after.step place = .ok home ∧ Stands after home := by
        obtain ⟨home, led, homeStands⟩ := ih middleStands restMade
        refine ⟨home, ?_, homeStands⟩
        rw [List.foldlM_cons, grows.step followed]
        exact led
      have isDirectory (directory : tree.at? next = some .directory) : Stands tree next := by
        rcases stands.step followed with ⟨_, _, above⟩ | ⟨notUp, rfl⟩
        · exact above
        · exact stands.child notUp directory
      split at made
      · split at made
        · cases made
        · rename_i middle withNext
          obtain ⟨grown, directory⟩ := withDirectory_ok withNext
          refine onTheWay ?_ made
          rcases stands.step followed with ⟨_, _, above⟩ | ⟨notUp, rfl⟩
          · exact above.mono fun _ => grown.at?_directory
          · exact (stands.mono fun _ => grown.at?_directory).child notUp directory
      · rename_i goesOn
        rw [Bool.or_eq_true, not_or, decide_eq_true_eq, List.isEmpty_iff] at goesOn
        cases present : tree.at? next with
        | none => exact absurd present goesOn.2
        | some entry =>
          cases entry with
          | directory => exact onTheWay (isDirectory present) made
          | file content =>
            -- a file is in the way of the next name
            obtain ⟨second, others, rfl⟩ := List.exists_cons_of_ne_nil goesOn.1
            unfold makeAlong FileTree.step at made
            rw [present] at made
            cases made

/-- When a directory has been made, its path leads to a directory, and nothing but directories has
been made. -/
theorem makeDirectories_ok
    {directory : String}
    (made : tree.makeDirectories directory = (after, .ok ())) :
    ∃ home, after.locate directory = .ok home ∧ Stands after home := by
  unfold makeDirectories at made
  unfold locate
  split at made
  · cases made
  · exact makeAlong_ok (Stands.start directory) made

theorem grows_makeDirectories
    (tree : FileTree)
    (directory : String) : Grows tree (tree.makeDirectories directory).1 := by
  unfold makeDirectories
  split
  · exact Grows.refl tree
  · exact grows_makeAlong tree _ _

end Making

/-! ## Files in a directory -/

section Files

variable {tree after : FileTree} {directory name : String} {home : Place}

theorem ne_empty_of_locate
    (located : tree.locate directory = .ok home) : directory ≠ "" := by
  rintro rfl
  cases located

/-- A path inside a directory leads through the directory. -/
theorem locate_join
    (noSlash : '/' ∉ name.toList)
    (located : tree.locate directory = .ok home) :
    tree.locate (Path.join directory name) =
      match refusal? (Path.join directory name) with
      | some fault => .error fault
      | none => (Path.names name).foldlM tree.step home := by
  have nonempty := ne_empty_of_locate located
  have start : Place.start (Path.join directory name) = Place.start directory := by
    obtain ⟨first, rest, shown⟩ := List.exists_cons_of_ne_nil (String.toList_eq_nil_iff.not.2 nonempty)
    obtain ⟨more, joined⟩ := Path.exists_join_eq_append nonempty noSlash
    simp [Place.start, joined, shown]
  unfold locate at located ⊢
  split at located
  · cases located
  · rw [start, Path.names_join nonempty noSlash, List.foldlM_append, located]
    rfl

/-- What is written over is no directory. -/
theorem exists_of_write
    {path content : String}
    (written : tree.write path content = .ok after) :
    ∃ place, tree.locate path = .ok place ∧ tree.at? place ≠ some .directory ∧
      after = tree.put place (.file content) := by
  unfold write at written
  cases located : tree.locate path with
  | error fault =>
    rw [located] at written
    cases written
  | ok place =>
    rw [located] at written
    change (if _ then _ else _) = _ at written
    split at written
    · cases written
    · rename_i isFile
      cases written
      exact ⟨place, rfl, isFile, rfl⟩

/-- What is written at a path inside a directory is written into the directory, under a name that can
be that of a file. -/
theorem write_join
    (noSlash : '/' ∉ name.toList)
    (located : tree.locate directory = .ok home)
    (stands : Stands tree home)
    {content : String}
    (written : tree.write (Path.join directory name) content = .ok after) :
    Path.IsFileName name ∧ tree.locate (Path.join directory name) = .ok (home.child name) ∧
      tree.at? (home.child name) ≠ some .directory ∧
      after = tree.put (home.child name) (.file content) := by
  obtain ⟨place, led, isFile, rfl⟩ := exists_of_write written
  rw [led]
  rw [locate_join noSlash located] at led
  split at led
  · cases led
  rw [Path.names_of_noSlash noSlash] at led
  split at led
  · -- the path is that of the directory itself
    cases led
    exact absurd stands.directory isFile
  · rename_i named
    rw [not_or] at named
    rw [List.foldlM_cons] at led
    cases followed : tree.step home name with
    | error fault =>
      rw [followed] at led
      cases led
    | ok next =>
      rw [followed] at led
      cases led
      rcases stands.step followed with ⟨_, _, above⟩ | ⟨notUp, rfl⟩
      · exact absurd above.directory isFile
      · exact ⟨⟨named.1, noSlash, named.2, notUp⟩, rfl, isFile, rfl⟩

end Files

end FileTree
end BroadcastGraphics
