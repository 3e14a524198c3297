import BroadcastGraphics.Proofs.FileReading
import BroadcastGraphics.Proofs.StoreShelf

/-!
# The files of a directory

A store in a directory keeps its files side by side.  Such a directory is a table of texts by the
names of the files: writing a file writes into the table, removing one removes from it, and what is
found and listed is what stands in the table.  A name that is too long is no name of a file, and
whatever is asked about it fails.
-/

namespace BroadcastGraphics

namespace Text

/-- A text without separators is the only part of itself. -/
theorem splitAt_of_notMem
    {separator : Char}
    {text : List Char}
    (free : separator ∉ text) : splitAt separator text = [text] := by
  induction text with
  | nil => rfl
  | cons character rest ih =>
    rw [List.mem_cons, not_or] at free
    simp [splitAt, ih free.2, consToFirst, Ne.symm free.1]

/-- The parts on both sides of a separator are parts of the whole. -/
theorem splitAt_append_separator
    (separator : Char)
    (before after : List Char) :
    splitAt separator (before ++ separator :: after) =
      splitAt separator before ++ splitAt separator after := by
  induction before with
  | nil => simp [splitAt]
  | cons character rest ih =>
    rw [List.cons_append, splitAt, splitAt, ih]
    split
    · rfl
    · obtain ⟨first, others, parts⟩ := List.exists_cons_of_ne_nil (splitAt_ne_nil separator rest)
      rw [parts]
      rfl

end Text

namespace Store
namespace Directory

/-! ## Names of files -/

/-- The text can be one name in a path, unless it is too long. -/
structure IsName (name : String) : Prop where
  nonempty : name ≠ ""
  noSlash : '/' ∉ name.toList
  notHere : name ≠ "."
  notUp : name ≠ Place.up
  noNull : '\x00' ∉ name.toList
  encodable : Encodable name

/-- The name is short enough for a file. -/
def IsShort (name : String) : Prop :=
  name.utf8ByteSize ≤ FileTree.longestName

instance (name : String) : Decidable (IsShort name) :=
  inferInstanceAs (Decidable (_ ≤ _))

/-- The place of a file of the directory. -/
def placeOf (name : String) : Place :=
  ⟨false, [home, name]⟩

section Names

variable {name : String} (isName : IsName name)

theorem text_placeOf (name : String) : (placeOf name).text = home ++ "/" ++ name :=
  rfl

theorem toList_inDirectory (name : String) :
    (home ++ "/" ++ name).toList = home.toList ++ '/' :: name.toList := by
  rw [String.toList_append, String.toList_append, List.append_assoc]
  rfl

theorem isGiven_placeOf (name : String) : (placeOf name).isGiven = false := by
  simp [placeOf, Place.isGiven, home, Place.up]

include isName

/-- The path of a file is that of its place. -/
theorem IsName.pathIn_eq : pathIn name = home ++ "/" ++ name := by
  have relative : name.toList.head? ≠ some '/' := fun first =>
    isName.noSlash (List.mem_of_mem_head? first)
  unfold pathIn Path.join
  rw [if_neg (by simpa using relative), if_neg (by decide)]

theorem IsName.names_path : Path.names (pathIn name) = [home, name] := by
  unfold Path.names Text.split
  rw [isName.pathIn_eq, toList_inDirectory, Text.splitAt_append _ _ _ (by decide),
    Text.splitAt_of_notMem isName.noSlash]
  have kept : (!name.isEmpty && name != ".") = true := by
    simp [isName.nonempty, isName.notHere]
  simp only [List.map_cons, List.map_nil, String.ofList_toList]
  rw [List.filter_cons_of_pos (by decide),
    List.filter_cons_of_pos (p := fun name => !name.isEmpty && name != ".") kept, List.filter_nil]

theorem IsName.root_path : Path.root (pathIn name) = "" := by
  rw [isName.pathIn_eq]
  unfold Path.root
  rw [toList_inDirectory]
  rfl

/-- The path of a file stays as it is when it is made plain, and leads into the directory. -/
theorem IsName.normalized_path : Path.normalized (pathIn name) = pathIn name := by
  unfold Path.normalized
  rw [isName.root_path, isName.names_path, isName.pathIn_eq]
  have text : ("" ++ String.intercalate "/" [home, name] : String) = home ++ "/" ++ name :=
    String.empty_append
  unfold Path.ofNames
  rw [text, if_neg]
  simp [home]

theorem IsName.parent_path : Path.parent (pathIn name) = home := by
  unfold Path.parent
  rw [isName.root_path, isName.names_path]
  rfl

theorem IsName.encodable_path : Encodable (pathIn name) := by
  intro character member
  rw [isName.pathIn_eq, toList_inDirectory, List.mem_append, List.mem_cons] at member
  rcases member with inHome | rfl | inName
  · revert character
    decide
  · rfl
  · exact isName.encodable character inName

theorem IsName.null_notMem_path : '\x00' ∉ (pathIn name).toList := by
  rw [isName.pathIn_eq, toList_inDirectory, List.mem_append, List.mem_cons, not_or, not_or]
  exact ⟨by decide, by decide, isName.noNull⟩

theorem IsName.baseName_path : Path.baseName (home ++ "/" ++ name) = name := by
  unfold Path.baseName
  rw [toList_inDirectory, List.reverse_append, List.reverse_cons, List.append_assoc,
    List.takeWhile_append_of_pos fun character member => ?_]
  · simp
  · have slash := isName.noSlash
    simp only [List.mem_reverse] at member
    simp only [bne_iff_ne, ne_eq]
    rintro rfl
    exact slash member

end Names

/-! ## A table of texts -/

/-- A directory with files of some texts. -/
def holding (files : Table String) : Directory :=
  ⟨⟨(home, .directory) :: files.map fun (name, text) => (home ++ "/" ++ name, .file text)⟩⟩

section Table

variable (files : Table String) {name : String}

theorem get?_files :
    Table.get? (files.map fun (name, text) => (home ++ "/" ++ name, FileTree.Entry.file text))
      (home ++ "/" ++ name) = (Table.get? files name).map FileTree.Entry.file := by
  induction files with
  | nil => rfl
  | cons file rest ih =>
    obtain ⟨key, text⟩ := file
    by_cases here : key = name
    · simp [Table.get?, here]
    · simp [Table.get?, here, ih]

theorem put_files
    (text : String) :
    Table.put (files.map fun (name, text) => (home ++ "/" ++ name, FileTree.Entry.file text))
      (home ++ "/" ++ name) (.file text) =
      (Table.put files name text).map fun (name, text) => (home ++ "/" ++ name, .file text) := by
  induction files with
  | nil => rfl
  | cons file rest ih =>
    obtain ⟨key, old⟩ := file
    by_cases here : key = name
    · simp [Table.put, here]
    · simp [Table.put, here, ih]

theorem remove_files :
    Table.remove (files.map fun (name, text) => (home ++ "/" ++ name, FileTree.Entry.file text))
      (home ++ "/" ++ name) =
      (Table.remove files name).map fun (name, text) => (home ++ "/" ++ name, .file text) := by
  induction files with
  | nil => rfl
  | cons file rest ih =>
    obtain ⟨key, old⟩ := file
    by_cases here : key = name
    · simp [Table.remove, here, ih]
    · simp [Table.remove, here, ih]

theorem home_ne_path (name : String) : home ≠ home ++ "/" ++ name := by
  intro same
  have lengths := congrArg String.length same
  rw [String.length_append, String.length_append] at lengths
  have : "/".length = 1 := rfl
  omega

theorem at?_home : (holding files).tree.at? ⟨false, [home]⟩ = some .directory :=
  rfl

theorem at?_placeOf
    (name : String) :
    (holding files).tree.at? (placeOf name) = (Table.get? files name).map FileTree.Entry.file := by
  unfold FileTree.at?
  rw [isGiven_placeOf, if_neg Bool.false_ne_true, text_placeOf]
  change Table.get? ((home, _) :: _) _ = _
  rw [Table.get?, if_neg (home_ne_path name)]
  exact get?_files files

theorem put_placeOf
    (name text : String) :
    (holding files).tree.put (placeOf name) (.file text) =
      (holding (Table.put files name text)).tree := by
  refine congrArg FileTree.mk ?_
  change Table.put ((home, _) :: _) _ _ = _
  rw [text_placeOf, Table.put, if_neg (home_ne_path name), put_files]

theorem remove_placeOf
    (name : String) :
    (holding files).tree.remove (placeOf name) = (holding (Table.remove files name)).tree := by
  refine congrArg FileTree.mk ?_
  change Table.remove ((home, _) :: _) _ = _
  rw [text_placeOf, Table.remove, if_neg (home_ne_path name), remove_files]

/-- What is listed is the names of the files. -/
theorem namesIn_home
    (names : ∀ name ∈ Table.names files, IsName name) :
    (holding files).tree.namesIn ⟨false, [home]⟩ = Table.names files := by
  change (((home, _) :: _ : Table _).filterMap _ : List String) = _
  rw [List.filterMap_cons_none (by decide)]
  induction files with
  | nil => rfl
  | cons file rest ih =>
    have base := (names file.1 List.mem_cons_self).baseName_path
    rw [List.map_cons, List.filterMap_cons_some (b := file.1), Table.names_cons,
      ih fun name member => names name (List.mem_cons_of_mem _ member)]
    simp only [base]
    exact if_pos (beq_self_eq_true _)

/-! ## Following paths -/

theorem step_home :
    (holding files).tree.step ⟨false, []⟩ home = .ok ⟨false, [home]⟩ := by
  rfl

variable (isName : IsName name)
include isName

theorem IsName.step_path :
    (holding files).tree.step ⟨false, [home]⟩ name =
      if IsShort name then .ok (placeOf name) else .error (.file .failed) := by
  unfold FileTree.step
  rw [at?_home]
  by_cases short : IsShort name
  · simp only [if_pos short, if_neg (Nat.not_lt.2 short), beq_iff_eq, if_neg isName.notUp]
    rfl
  · simp only [if_neg short, if_pos (Nat.lt_of_not_le short)]

/-- The path of a file with a short name leads to its place, and another one nowhere. -/
theorem IsName.locate_path :
    (holding files).tree.locate (pathIn name) =
      if IsShort name then .ok (placeOf name) else .error (.file .failed) := by
  have noNull : (pathIn name).toList.contains '\x00' = false := by
    simpa using isName.null_notMem_path
  have nonempty : (pathIn name).isEmpty = false := by
    rw [isName.pathIn_eq]
    simp [home]
  have start : Place.start (pathIn name) = ⟨false, []⟩ := by
    rw [isName.pathIn_eq]
    unfold Place.start
    rw [toList_inDirectory]
    rfl
  have size : (pathIn name).utf8ByteSize = 6 + name.utf8ByteSize := by
    rw [isName.pathIn_eq, String.utf8ByteSize_append, String.utf8ByteSize_append]
    rfl
  have followed : (Path.names (pathIn name)).foldlM (holding files).tree.step ⟨false, []⟩ =
      if IsShort name then .ok (placeOf name) else .error (.file .failed) := by
    rw [isName.names_path, List.foldlM_cons, step_home]
    change ((holding files).tree.step ⟨false, [home]⟩ name >>= fun place => .ok place) = _
    rw [isName.step_path]
    split <;> rfl
  unfold FileTree.locate FileTree.refusal?
  simp only [noNull, nonempty, isName.encodable_path.firstRun?_eq_none, start, Bool.false_eq_true,
    if_false]
  by_cases tooLong : FileTree.longestPath < (pathIn name).utf8ByteSize
  · rw [if_pos tooLong, if_neg]
    unfold IsShort FileTree.longestName
    unfold FileTree.longestPath at tooLong
    omega
  · rw [if_neg tooLong]
    exact followed

theorem IsName.find?_path
    (short : IsShort name) :
    (holding files).tree.find? (pathIn name) =
      .ok ((Table.get? files name).map fun text => (placeOf name, .file text)) := by
  unfold FileTree.find?
  rw [isName.locate_path, if_pos short]
  simp only [at?_placeOf, Option.map_map]
  rfl

theorem IsName.find?_path_of_long
    (long : ¬ IsShort name) :
    (holding files).tree.find? (pathIn name) = .error (.file .failed) := by
  unfold FileTree.find?
  rw [isName.locate_path, if_neg long]
  rfl

/-- Writing a file with a short name writes into the table. -/
theorem IsName.write_path
    (short : IsShort name)
    (text : String) :
    (holding files).tree.write (pathIn name) text =
      .ok (holding (Table.put files name text)).tree := by
  have isFile : (holding files).tree.at? (placeOf name) ≠ some .directory := by
    rw [at?_placeOf]
    cases Table.get? files name <;> simp
  unfold FileTree.write
  rw [isName.locate_path, if_pos short]
  change (if _ then _ else _) = _
  rw [if_neg isFile, put_placeOf]

theorem IsName.write_path_of_long
    (long : ¬ IsShort name)
    (text : String) :
    (holding files).tree.write (pathIn name) text = .error (.file .failed) := by
  unfold FileTree.write
  rw [isName.locate_path, if_neg long]
  rfl

omit isName in
/-- The directory of the store is there. -/
theorem makeDirectories_home :
    (holding files).tree.makeDirectories home = ((holding files).tree, .ok ()) := by
  rfl

end Table

end Directory
end Store
end BroadcastGraphics
