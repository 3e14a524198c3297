import BroadcastGraphics.Proofs.FlatDirectory
import BroadcastGraphics.Proofs.SnapshotRoundTrip
import BroadcastGraphics.Proofs.StoreAgreement

/-!
# A directory keeps snapshots and a marker

A store in a directory is a table of snapshots with a marker beside it: what was saved last under an
id is loaded from it, and deleted ids are gone.  The files of the snapshots and the file of the
marker lie in one directory, and there is one id whose file is that of the marker.  A snapshot that
is saved under it takes the place of the marker, and is not listed.
-/

namespace BroadcastGraphics

namespace Store

/-- A text that can be encoded holds no halves that make a pair. -/
theorem Encodable.unpaired
    {text : List Char}
    (encodable : ∀ character ∈ text, Text.HalfPair.isHalf character = false) :
    Text.HalfPair.Unpaired text := by
  induction text with
  | nil => trivial
  | cons first rest ih =>
    cases rest with
    | nil => trivial
    | cons second rest =>
      refine ⟨fun ⟨⟨unit, isUnit, _⟩, _⟩ => ?_, ih fun character member =>
        encodable character (List.mem_cons_of_mem _ member)⟩
      have whole := encodable first List.mem_cons_self
      rw [Text.HalfPair.isHalf, isUnit] at whole
      cases whole

namespace Directory

/-! ## Files of snapshots -/

/-- The name of the file with the snapshot of an id. -/
def fileOf (id : String) : String :=
  id ++ suffix

/-- The id whose file is that of the marker. -/
def markerId : String := "_current"

theorem fileOf_inj
    {id other : String} : fileOf id = fileOf other ↔ id = other :=
  String.append_left_inj suffix

theorem fileOf_markerId : fileOf markerId = markerFile := by
  decide

/-- The id has a file of its own. -/
structure HasFile (id : String) : Prop where
  slug : Identifier.isSlug id = true
  short : IsShort (fileOf id)
  notMarker : id ≠ markerId

instance (id : String) : Decidable (HasFile id) :=
  decidable_of_iff (Identifier.isSlug id = true ∧ IsShort (fileOf id) ∧ id ≠ markerId)
    ⟨fun ⟨slug, short, notMarker⟩ => ⟨slug, short, notMarker⟩,
      fun ⟨slug, short, notMarker⟩ => ⟨slug, short, notMarker⟩⟩

section Ids

variable {id : String} (slug : Identifier.isSlug id = true)
include slug

theorem ne_empty_of_isSlug : id ≠ "" := by
  rintro rfl
  cases slug

omit slug in
theorem length_fileOf (id : String) : (fileOf id).length = id.length + suffix.length := by
  rw [fileOf, String.length_append]

/-- The file of an id of a template can be named in a path. -/
theorem isName_fileOf : IsName (fileOf id) := by
  have longer (other : String) (short : other.length < suffix.length) : fileOf id ≠ other := by
    rintro rfl
    rw [length_fileOf] at short
    omega
  have apart {character : Char} (notInId : character ∉ id.toList)
      (notInSuffix : character ∉ suffix.toList) : character ∉ (fileOf id).toList := by
    rw [fileOf, String.toList_append, List.mem_append]
    exact fun member => member.elim notInId notInSuffix
  have foreign {character : Char} (foreign : Identifier.isSlugCharacter character = false)
      (noBreak : character ≠ '\n') := Identifier.notMem_of_isSlug slug foreign noBreak
  refine ⟨longer _ (by decide), apart (foreign (by decide) (by decide)) (by decide),
    longer _ (by decide), longer _ (by decide),
    apart (foreign (by decide) (by decide)) (by decide), fun character member => ?_⟩
  rw [fileOf, String.toList_append, List.mem_append] at member
  rcases member with inId | inSuffix
  · exact encodable_of_isSlug slug character inId
  · revert character
    decide

theorem pathOf_eq : pathOf id = pathIn (fileOf id) :=
  (isName_fileOf slug).normalized_path

omit slug in
theorem isSnapshotName_fileOf : isSnapshotName (fileOf id) = true ↔ id ≠ markerId := by
  have ends : Text.endsIn (fileOf id) suffix = true := by
    unfold Text.endsIn
    rw [fileOf, String.toList_append, List.isSuffixOf_iff_suffix]
    exact List.suffix_append _ _
  unfold isSnapshotName
  rw [ends, Bool.true_and, bne_iff_ne, ← fileOf_markerId]
  exact not_congr fileOf_inj

theorem stem_fileOf : stem (fileOf id) = id := by
  have more : fileOf id ≠ suffix := by
    intro same
    apply ne_empty_of_isSlug slug
    have := congrArg String.length same
    rw [length_fileOf] at this
    exact String.length_eq_zero_iff.1 (by omega)
  unfold stem
  rw [if_neg (by simpa using more), length_fileOf, fileOf, String.toList_append,
    Nat.add_sub_cancel, ← String.length_toList, List.take_left, String.ofList_toList]

end Ids

/-! ## Texts -/

/-- The snapshot in the text of a file, as it is written. -/
def inText (text : String) : Except Fault Json := do
  (<- Snapshot.ofFileText text).written

/-- What is loaded from the text of a file is the snapshot in it. -/
theorem loaded_inText
    (text : String) :
    (Snapshot.ofFileText text >>= fun snapshot => snapshot.written >>= fun value =>
      .ok (some value)) = (inText text).map some := by
  change _ = (Snapshot.ofFileText text >>= Snapshot.written).map some
  cases Snapshot.ofFileText text with
  | error fault => rfl
  | ok snapshot =>
    change (snapshot.written >>= fun value => .ok (some value)) = snapshot.written.map some
    cases snapshot.written <;> rfl

/-- The text of the file with a marker. -/
def markerText (marker : Json) : String :=
  (Json.obj [("current", marker)]).literal none

/-- The marker of an id that is a text without pairs of halves, or of none, is read as it was
written. -/
theorem markerIn_markerText
    {id? : Option String}
    (unpaired : ∀ id ∈ id?, Text.HalfPair.Unpaired id.toList) :
    markerIn (markerText (Json.ofText? id?)) = .ok (Json.ofText? id?) := by
  have legible : (Json.ofText? id?).Legible := by
    cases id? with
    | none => trivial
    | some id => exact unpaired id rfl
  have wellFormed : (Json.ofText? id?).WellFormed := by
    cases id? <;> trivial
  have flat : (Json.ofText? id?).levels = 1 := by
    cases id? <;> rfl
  have shallow : (Json.obj [("current", Json.ofText? id?)]).levels ≤
      Json.Reader.Limits.standard.depth := by
    refine le_trans (b := 2) (Json.levels_obj_le fun value member => ?_) (by decide)
    rw [List.map_cons, List.map_nil, List.mem_singleton] at member
    rw [member, flat]
  have parsed : Json.parse (markerText (Json.ofText? id?)) =
      .ok (.obj [("current", Json.ofText? id?)]) :=
    Json.parse_literal none ⟨by decide, legible, trivial⟩
      ⟨List.nodup_singleton _, wellFormed, trivial⟩ shallow
  unfold markerIn
  rw [parsed]
  rfl

end Directory
end Store

/-- The template can be saved in a directory and loaded from it: it is regular, lasts, can be
written, and holds no halves of pairs. -/
structure Template.Storable (template : Template) : Prop where
  regular : template.Regular
  lasting : template.Lasting
  writable : template.Writable
  encodable : template.toJson.halvesInPiece? 2 0 = none

namespace Template

section Storable

variable {template : Template} (storable : template.Storable)
include storable

theorem Storable.parse_text :
    Json.parse (template.toJson.documentText (some 2)) = .ok template.toJson := by
  have shallow : template.toJson.levels ≤ Json.Reader.Limits.standard.depth :=
    (@Snapshot.levels_toJson template.snapshot _ (by decide) storable.writable).trans (by decide)
  have carried : template.toJson.Meets (.carried false .standard) :=
    Json.meets_of_legible _ storable.lasting.legible storable.lasting.wellFormed
  exact Json.parseWithin_text ⟨false, some 2⟩ carried shallow

/-- What is read from the file of the template is written as the template is. -/
theorem Storable.load_text :
    Store.Directory.inText (template.toJson.documentText (some 2)) = .ok template.toJson := by
  have read := (template.read_text storable.regular storable.lasting storable.writable).2
  have carried : template.reread.toJson.Meets (.carried false .standard) := by
    rw [toJson_reread storable.lasting]
    exact Json.meets_of_legible _ storable.lasting.legible storable.lasting.wellFormed
  have loaded := Snapshot.ofFileText_fileText (Snapshot.valid_of_read read) carried
    (writable_reread storable.writable)
  have text : template.reread.snapshot.fileText = template.toJson.documentText (some 2) :=
    congrArg (Json.documentText · (some 2)) (toJson_reread storable.lasting)
  rw [text] at loaded
  unfold Store.Directory.inText
  rw [loaded]
  refine (Snapshot.written_settled (writable_reread storable.writable)).trans ?_
  rw [Snapshot.toJson_settled (hasDigits_reread storable.lasting.hasDigits)]
  exact congrArg Except.ok (toJson_reread storable.lasting)

/-- The text of a template marks no template as the current one. -/
theorem Storable.markerIn_text :
    Store.Directory.markerIn (template.toJson.documentText (some 2)) = .ok .null := by
  unfold Store.Directory.markerIn
  rw [storable.parse_text]
  rfl

end Storable

end Template

namespace Store

namespace Directory

/-! ## Operations on the files -/

section Operations

variable (files : Table String) {id : String} (slug : Identifier.isSlug id = true)
include slug

/-- A template that can be stored is written into the file of its id, if that can have one. -/
theorem save_holding
    {template : Template}
    (storable : template.Storable) :
    (holding files).save id template.toJson =
      if IsShort (fileOf id) then
        (holding (Table.put files (fileOf id) (template.toJson.documentText (some 2))), .ok ())
      else (holding files, .error (.file .failed)) := by
  have isName := isName_fileOf slug
  have read := (template.read_text storable.regular storable.lasting storable.writable).2
  have again : template.reread.snapshot.toJson = template.toJson :=
    Template.toJson_reread storable.lasting
  have written : template.reread.snapshot.written = .ok template.toJson :=
    (Template.written_reread storable.lasting storable.writable).trans
      (Template.written_of_writable storable.writable)
  unfold Directory.save
  rw [read]
  simp only [pathOf_eq slug, isName.parent_path, makeDirectories_home]
  unfold writeSnapshot Snapshot.fileText
  simp only [again, written, storable.encodable]
  by_cases short : IsShort (fileOf id)
  · simp only [isName.write_path files short, if_pos short]
  · simp only [isName.write_path_of_long files short, if_neg short]

theorem delete_holding :
    (holding files).delete id =
      if IsShort (fileOf id) then
        (holding (Table.remove files (fileOf id)), .ok (Table.has files (fileOf id)))
      else (holding files, .error (.file .failed)) := by
  have isName := isName_fileOf slug
  unfold Directory.delete
  rw [pathOf_eq slug]
  by_cases short : IsShort (fileOf id)
  · rw [isName.find?_path files short, if_pos short]
    cases found : Table.get? files (fileOf id) with
    | none =>
      have absent := (Table.get?_eq_none_iff files (fileOf id)).1 found
      simp [Table.remove_of_notMem absent, Table.has, found]
    | some text =>
      simp only [Option.map_some, remove_placeOf, Table.has, found, Option.isSome_some]
  · rw [isName.find?_path_of_long files short, if_neg short]

theorem load_holding :
    (holding files).load id =
      if IsShort (fileOf id) then
        match Table.get? files (fileOf id) with
        | none => .ok none
        | some text => (inText text).map some
      else .error (.file .failed) := by
  have isName := isName_fileOf slug
  unfold Directory.load
  rw [pathOf_eq slug]
  by_cases short : IsShort (fileOf id)
  · rw [isName.find?_path files short, if_pos short]
    cases Table.get? files (fileOf id) with
    | none => rfl
    | some text =>
      exact loaded_inText text
  · rw [isName.find?_path_of_long files short, if_neg short]
    rfl

omit slug

theorem isName_markerFile : IsName markerFile := by
  rw [← fileOf_markerId]
  exact isName_fileOf (by decide)

theorem mark_holding
    (marker : Json) :
    (holding files).mark marker =
      (holding (Table.put files markerFile (markerText marker)), .ok ()) := by
  unfold Directory.mark writeFile
  rw [isName_markerFile.write_path files (by decide)]
  rfl

theorem marker_holding :
    (holding files).marker = (Table.get? files markerFile).elim (.ok .null) markerIn := by
  unfold Directory.marker
  rw [isName_markerFile.find?_path files (by decide)]
  cases Table.get? files markerFile <;> rfl

end Operations

/-- The files are those of ids that have one, and perhaps that of the marker. -/
structure AllNamed (files : Table String) : Prop where
  distinct : Table.Distinct files
  named : ∀ name ∈ Table.names files, name = markerFile ∨ ∃ id, HasFile id ∧ name = fileOf id

/-- Different texts that are put in order stand in strict order. -/
theorem pairwise_lt_mergeSort
    {texts : List String}
    (nodup : texts.Nodup) :
    (texts.mergeSort fun left right => decide (left ≤ right)).Pairwise (· < ·) := by
  have sorted : (texts.mergeSort fun left right => decide (left ≤ right)).Pairwise
      fun left right => decide (left ≤ right) = true :=
    List.pairwise_mergeSort
      (fun first second third before after => by
        simp only [decide_eq_true_eq] at before after ⊢
        exact String.le_trans before after)
      (fun first second => by
        simp only [Bool.or_eq_true, decide_eq_true_eq]
        exact String.le_total first second)
      texts
  have distinct := (List.mergeSort_perm texts fun left right => decide (left ≤ right)).nodup_iff.2
    nodup
  refine (sorted.and distinct).imp fun {left right} ⟨before, apart⟩ => ?_
  exact Std.lt_of_le_of_ne (of_decide_eq_true before) apart

section Listing

variable {files : Table String} (allNamed : AllNamed files)
include allNamed

theorem AllNamed.isName
    {name : String}
    (member : name ∈ Table.names files) : IsName name := by
  rcases allNamed.named name member with rfl | ⟨id, hasFile, rfl⟩
  · exact isName_markerFile
  · exact isName_fileOf hasFile.slug

/-- What is listed as the file of a snapshot is the file of an id. -/
theorem AllNamed.file_of_mem
    {name : String}
    (member : name ∈ (Table.names files).filter isSnapshotName) :
    ∃ id, HasFile id ∧ name = fileOf id := by
  obtain ⟨inFiles, isSnapshot⟩ := List.mem_filter.1 member
  refine (allNamed.named name inFiles).resolve_left ?_
  rintro rfl
  cases isSnapshot

theorem AllNamed.put
    {id : String}
    (slug : Identifier.isSlug id = true)
    (short : IsShort (fileOf id))
    (text : String) : AllNamed (Table.put files (fileOf id) text) := by
  refine ⟨allNamed.distinct.put _ _, fun name member => ?_⟩
  rcases (Table.mem_names_put _ _ _ _).1 member with rfl | old
  · by_cases isMarker : id = markerId
    · exact Or.inl (isMarker ▸ fileOf_markerId)
    · exact Or.inr ⟨id, ⟨slug, short, isMarker⟩, rfl⟩
  · exact allNamed.named name old

theorem AllNamed.remove (name : String) : AllNamed (Table.remove files name) := by
  refine ⟨allNamed.distinct.remove _, fun other member => allNamed.named other ?_⟩
  rw [Table.names_remove] at member
  exact (List.mem_filter.1 member).1

/-- Every id that has a file is listed once, in the order of the characters. -/
theorem AllNamed.ids :
    (holding files).ids.Pairwise (· < ·) ∧
      ∀ id, id ∈ (holding files).ids ↔ HasFile id ∧ fileOf id ∈ Table.names files := by
  unfold Directory.ids
  rw [namesIn_home files fun name => allNamed.isName]
  constructor
  · refine pairwise_lt_mergeSort (List.Nodup.map_on ?_ (allNamed.distinct.filter _))
    intro name member other otherMember same
    obtain ⟨id, hasFile, rfl⟩ := allNamed.file_of_mem member
    obtain ⟨otherId, otherHasFile, rfl⟩ := allNamed.file_of_mem otherMember
    rw [stem_fileOf hasFile.slug, stem_fileOf otherHasFile.slug] at same
    rw [same]
  · intro id
    rw [List.mem_mergeSort]
    constructor
    · intro member
      obtain ⟨name, inside, rfl⟩ := List.mem_map.1 member
      obtain ⟨id, hasFile, rfl⟩ := allNamed.file_of_mem inside
      rw [stem_fileOf hasFile.slug]
      exact ⟨hasFile, (List.mem_filter.1 inside).1⟩
    · rintro ⟨hasFile, inFiles⟩
      exact List.mem_map.2 ⟨fileOf id,
        List.mem_filter.2 ⟨inFiles, isSnapshotName_fileOf.2 hasFile.notMarker⟩,
        stem_fileOf hasFile.slug⟩

end Listing

end Directory

/-! ## Runs -/

/-- A command as it is given for templates: under an id of templates a template is saved or deleted,
and such an id or none is marked. -/
inductive Command.OfTemplates : Command -> Prop where
  | save {id : String} {template : Template}
      (slug : Identifier.isSlug id = true)
      (storable : template.Storable) : OfTemplates (.save (.str id) template.toJson)
  | delete {id : String}
      (slug : Identifier.isSlug id = true) : OfTemplates (.delete (.str id))
  | mark {id? : Option String}
      (slugs : ∀ id ∈ id?, Identifier.isSlug id = true) : OfTemplates (.mark (Json.ofText? id?))

/-- What a step does to the marker of a directory.  A snapshot that is saved under the id whose file
is that of the marker takes its place, and with the snapshot the marker is deleted. -/
def markerAfter (marker : Json) (step : Step) : Json :=
  match step.command with
  | .mark marker => marker
  | .save (.str id) _ => if id = Directory.markerId then .null else marker
  | .delete (.str id) => if id = Directory.markerId then .null else marker
  | _ => marker

/-- The marker that stands after some steps. -/
def standingMarker (steps : List Step) : Json :=
  steps.foldl markerAfter .null

theorem standingMarker_concat
    (steps : List Step)
    (step : Step) :
    standingMarker (steps ++ [step]) = markerAfter (standingMarker steps) step :=
  List.foldl_append

/-- The text that stands in the file of an id after some steps. -/
def standingText (id : String) (steps : List Step) : Option String :=
  (standing id steps).getLast?.map fun save => save.2.documentText (some 2)

open Directory (HasFile AllNamed IsShort fileOf markerId markerFile markerIn holding)

/-- Every save that stands was made by a step. -/
theorem mem_of_mem_standing
    {id : String}
    {steps : List Step}
    {save : Moment × Json}
    (member : save ∈ standing id steps) : ⟨save.1, .save (.str id) save.2⟩ ∈ steps := by
  induction steps using List.reverseRecOn with
  | nil => cases member
  | append_singleton steps step ih =>
    rw [standing_concat] at member
    unfold standingAfter at member
    split at member
    · rename_i other snapshot isSave
      split at member
      · rename_i same
        rcases List.mem_append.1 member with old | new
        · exact List.mem_append_left _ (ih old)
        · rw [List.mem_singleton] at new
          obtain ⟨moment, command⟩ := step
          cases isSave
          subst new same
          exact List.mem_append_right _ List.mem_cons_self
      · exact List.mem_append_left _ (ih member)
    · split at member
      · cases member
      · exact List.mem_append_left _ (ih member)
    · exact List.mem_append_left _ (ih member)

/-- The files of a directory after some steps: in the file of an id stands the text that was saved
last and not deleted, and in that of the marker the marker. -/
structure Files (steps : List Step) (files : Table String) : Prop where
  named : AllNamed files
  texts : ∀ id, HasFile id -> Table.get? files (fileOf id) = standingText id steps
  marker : (Table.get? files markerFile).elim (.ok .null) markerIn = .ok (standingMarker steps)

section Files

variable {steps : List Step} {files : Table String}

theorem files_nil : Files [] [] where
  named := ⟨List.nodup_nil, fun _ member => nomatch member⟩
  texts _ _ := rfl
  marker := rfl

theorem Directory.HasFile.fileOf_ne
    {id : String}
    (hasFile : HasFile id) : fileOf id ≠ markerFile := by
  rw [← Directory.fileOf_markerId, ne_eq, Directory.fileOf_inj]
  exact hasFile.notMarker

variable (before : Files steps files)
include before

/-- A step on an id whose file would have too long a name changes nothing that stands. -/
theorem Files.passed
    {step : Step}
    (others : ∀ id, HasFile id -> standing id (steps ++ [step]) = standing id steps)
    (marker : markerAfter (standingMarker steps) step = standingMarker steps) :
    Files (steps ++ [step]) files where
  named := before.named
  texts id hasFile := by
    rw [before.texts id hasFile, standingText, standingText, others id hasFile]
  marker := by rw [before.marker, standingMarker_concat, marker]

/-- The template that is saved is the one that stands in the file of its id, and takes the place of
the marker if that is where its file lies. -/
theorem Files.saved
    {id : String}
    {template : Template}
    (slug : Identifier.isSlug id = true)
    (short : IsShort (fileOf id))
    (storable : template.Storable)
    (moment : Moment) :
    Files (steps ++ [⟨moment, .save (.str id) template.toJson⟩])
      (Table.put files (fileOf id) (template.toJson.documentText (some 2))) where
  named := before.named.put slug short _
  texts other hasFile := by
    have saves : standing other (steps ++ [⟨moment, .save (.str id) template.toJson⟩]) =
        if id = other then standing other steps ++ [(moment, template.toJson)]
        else standing other steps := standing_concat _ _ _
    rw [Table.get?_put, standingText, saves]
    simp only [Directory.fileOf_inj]
    by_cases same : id = other
    · simp only [if_pos same, List.getLast?_concat]
      rfl
    · simp only [if_neg same]
      exact before.texts other hasFile
  marker := by
    have marker : markerAfter (standingMarker steps) ⟨moment, .save (.str id) template.toJson⟩ =
        if id = markerId then .null else standingMarker steps := rfl
    rw [Table.get?_put, standingMarker_concat, marker, ← Directory.fileOf_markerId]
    simp only [Directory.fileOf_inj]
    by_cases same : id = markerId
    · simp only [if_pos same, Option.elim_some]
      exact storable.markerIn_text
    · simp only [if_neg same, Directory.fileOf_markerId]
      exact before.marker

/-- Nothing stands in the file of an id that is deleted. -/
theorem Files.deleted
    (id : String)
    (moment : Moment) :
    Files (steps ++ [⟨moment, .delete (.str id)⟩]) (Table.remove files (fileOf id)) where
  named := before.named.remove _
  texts other hasFile := by
    have saves : standing other (steps ++ [⟨moment, .delete (.str id)⟩]) =
        if id = other then [] else standing other steps := standing_concat _ _ _
    rw [Table.get?_remove, standingText, saves]
    simp only [Directory.fileOf_inj]
    by_cases same : id = other
    · simp only [if_pos same]
      rfl
    · simp only [if_neg same]
      exact before.texts other hasFile
  marker := by
    have marker : markerAfter (standingMarker steps) ⟨moment, .delete (.str id)⟩ =
        if id = markerId then .null else standingMarker steps := rfl
    rw [Table.get?_remove, standingMarker_concat, marker, ← Directory.fileOf_markerId]
    simp only [Directory.fileOf_inj]
    by_cases same : id = markerId
    · simp only [if_pos same]
      rfl
    · simp only [if_neg same, Directory.fileOf_markerId]
      exact before.marker

/-- The marker that is set is the one that stands. -/
theorem Files.marked
    {id? : Option String}
    (slugs : ∀ id ∈ id?, Identifier.isSlug id = true)
    (moment : Moment) :
    Files (steps ++ [⟨moment, .mark (Json.ofText? id?)⟩])
      (Table.put files markerFile (Directory.markerText (Json.ofText? id?))) where
  named := by
    rw [← Directory.fileOf_markerId]
    exact before.named.put (by decide) (by decide) _
  texts id hasFile := by
    rw [Table.get?_put, if_neg hasFile.fileOf_ne.symm, before.texts id hasFile, standingText,
      standingText, standing_concat]
    rfl
  marker := by
    have marker : markerAfter (standingMarker steps) ⟨moment, .mark (Json.ofText? id?)⟩ =
        Json.ofText? id? := rfl
    rw [Table.get?_put, if_pos rfl, standingMarker_concat, marker]
    exact Directory.markerIn_markerText fun id isId =>
      Encodable.unpaired (encodable_of_isSlug (slugs id isId))

end Files

/-- A store in a directory with the files after some steps, whatever its clock shows. -/
inductive Kept (steps : List Step) : Store -> Prop where
  | intro {files : Table String}
      (kept : Files steps files)
      (clock : Moment) : Kept steps { backend := .directory (holding files), clock }

section Steps

variable (directory : Directory) (clock moment : Moment)

theorem performAt_save
    (id : String)
    (snapshot : Json) :
    (performAt { backend := .directory directory, clock } ⟨moment, .save (.str id) snapshot⟩).1 =
      { backend := .directory (directory.save id snapshot).1, clock := moment } :=
  rfl

theorem performAt_delete
    (id : String) :
    (performAt { backend := .directory directory, clock } ⟨moment, .delete (.str id)⟩).1 =
      { backend := .directory (directory.delete id).1, clock := moment } := by
  simp only [performAt, perform, withId, idOf, Store.delete]

theorem performAt_mark
    (marker : Json) :
    (performAt { backend := .directory directory, clock } ⟨moment, .mark marker⟩).1 =
      { backend := .directory (directory.mark marker).1, clock := moment } :=
  rfl

end Steps

/-- The files are kept by a step. -/
theorem Kept.step
    {steps : List Step}
    {store : Store}
    (kept : Kept steps store)
    {step : Step}
    (ofTemplates : step.command.OfTemplates) :
    Kept (steps ++ [step]) (store.performAt step).1 := by
  obtain ⟨moment, command⟩ := step
  cases kept with
  | @intro files before clock =>
    -- An id whose file would have too long a name is not that of a file that is there.
    have aside {id : String} (long : ¬ IsShort (fileOf id)) :
        (∀ other, HasFile other -> id ≠ other) ∧ id ≠ markerId := by
      refine ⟨fun other hasFile same => long (same ▸ hasFile.short), ?_⟩
      rintro rfl
      rw [Directory.fileOf_markerId] at long
      exact long (by decide)
    cases ofTemplates with
    | @save id template slug storable =>
      rw [performAt_save, Directory.save_holding files slug storable]
      by_cases short : IsShort (fileOf id)
      · rw [if_pos short]
        exact .intro (before.saved slug short storable moment) moment
      · rw [if_neg short]
        refine .intro (before.passed (fun other hasFile => ?_) ?_) moment
        · exact (standing_concat _ _ _).trans (if_neg ((aside short).1 other hasFile))
        · exact if_neg (aside short).2
    | @delete id slug =>
      rw [performAt_delete, Directory.delete_holding files slug]
      by_cases short : IsShort (fileOf id)
      · rw [if_pos short]
        exact .intro (before.deleted id moment) moment
      · rw [if_neg short]
        refine .intro (before.passed (fun other hasFile => ?_) ?_) moment
        · exact (standing_concat _ _ _).trans (if_neg ((aside short).1 other hasFile))
        · exact if_neg (aside short).2
    | @mark id? slugs =>
      rw [performAt_mark, Directory.mark_holding]
      exact .intro (before.marked slugs moment) moment

theorem kept_performAll
    (steps : List Step)
    (ofTemplates : ∀ step ∈ steps, step.command.OfTemplates) :
    Kept steps ((empty (.directory {})).performAll steps) := by
  induction steps using List.reverseRecOn with
  | nil => exact .intro files_nil _
  | append_singleton steps step ih =>
    rw [performAll_concat]
    have earlier := ih fun other member => ofTemplates other (List.mem_append_left _ member)
    exact earlier.step (ofTemplates step (List.mem_append_right _ List.mem_cons_self))

/-- What stands under an id is the text of a template that can be stored. -/
theorem standing_storable
    {steps : List Step}
    (ofTemplates : ∀ step ∈ steps, step.command.OfTemplates)
    {id : String}
    {save : Moment × Json}
    (stands : (standing id steps).getLast? = some save) :
    ∃ template : Template, template.Storable ∧ save.2 = template.toJson := by
  have made := ofTemplates _ (mem_of_mem_standing (List.mem_of_getLast? stands))
  generalize save.2 = snapshot at made ⊢
  cases made with
  | @save _ template _ storable => exact ⟨template, storable, rfl⟩

/-- A directory keeps a snapshot for every id and a marker beside them.  After any saves and deletions
of templates and any settings of the marker, the last snapshot that was saved under an id and not
deleted is loaded from it, unless its file would have too long a name; the ids with such snapshots
are listed in the order of their characters; and the marker is the one that was set last.  The id
whose file is that of the marker is none of these: it is not listed, and takes the marker away. -/
theorem directory_keeps_snapshots_and_marker
    (steps : List Step)
    (ofTemplates : ∀ step ∈ steps, step.command.OfTemplates) :
    let store := (empty (.directory {})).performAll steps
    (∀ id, Identifier.isSlug id = true -> id ≠ markerId ->
      store.load id = if IsShort (fileOf id) then .ok ((standing id steps).getLast?.map Prod.snd)
        else .error (.file .failed)) ∧
      store.ids.Pairwise (· < ·) ∧
      (∀ id, id ∈ store.ids ↔ HasFile id ∧ standing id steps ≠ []) ∧
      store.marker = .ok (standingMarker steps) := by
  intro store
  have kept : Kept steps store := kept_performAll steps ofTemplates
  generalize store = after at kept ⊢
  cases kept with
  | @intro files kept clock =>
    obtain ⟨sorted, listed⟩ := kept.named.ids
    refine ⟨fun id slug notMarker => ?_, sorted, fun id => (listed id).trans ?_, ?_⟩
    · refine (Directory.load_holding files slug).trans ?_
      by_cases short : IsShort (fileOf id)
      · rw [if_pos short, if_pos short, kept.texts id ⟨slug, short, notMarker⟩, standingText]
        cases stands : (standing id steps).getLast? with
        | none => rfl
        | some save =>
          obtain ⟨template, storable, same⟩ := standing_storable ofTemplates stands
          have loaded := storable.load_text
          rw [← same] at loaded
          exact congrArg (Except.map some) loaded
      · rw [if_neg short, if_neg short]
    · refine and_congr_right fun hasFile => ?_
      rw [← not_iff_not, ← Table.get?_eq_none_iff, kept.texts id hasFile, standingText,
        Option.map_eq_none_iff, List.getLast?_eq_none_iff, not_not]
    · exact (Directory.marker_holding files).trans kept.marker

/-- A template with an id and a name. -/
def namedTemplate (id name : String) : Template :=
  ⟨{ id := id, name := name }, [], none, none, 1⟩

theorem storable_namedTemplate
    {id name : String}
    (slug : Identifier.isSlug id = true)
    (lasting : (namedTemplate id name).Lasting)
    (encodable : (namedTemplate id name).toJson.halvesInPiece? 2 0 = none) :
    (namedTemplate id name).Storable where
  regular :=
    { manifest :=
        { id := slug
          steps := (by decide : (0 : Int) ≤ 1)
          schema := ⟨fun _ _ => List.not_mem_nil, fun _ member => nomatch member⟩
          actions := fun _ member => nomatch member
          extras := fun _ _ => List.not_mem_nil }
      ids := fun _ member => nomatch member
      distinct := List.nodup_nil
      animation := fun _ member => nomatch member }
  lasting := lasting
  writable := fun _ member => nomatch member
  encodable := encodable

/-- A template that is saved twice is loaded as it was saved the second time, and the deletion of
another one leaves it and the marker alone. -/
theorem rewritten_template_beside_deleted :
    let steps : List Step :=
      [⟨1, .save (.str "demo") (namedTemplate "demo" "First").toJson⟩, ⟨2, .mark (.str "demo")⟩,
        ⟨3, .save (.str "other") (namedTemplate "other" "Other").toJson⟩,
        ⟨4, .save (.str "demo") (namedTemplate "demo" "Second").toJson⟩,
        ⟨5, .delete (.str "other")⟩]
    let store := (empty (.directory {})).performAll steps
    store.load "demo" = .ok (some (namedTemplate "demo" "Second").toJson) ∧
      store.load "other" = .ok none ∧ "demo" ∈ store.ids ∧ "other" ∉ store.ids ∧
      store.marker = .ok (.str "demo") := by
  intro steps
  have ofTemplates : ∀ step ∈ steps, step.command.OfTemplates := by
    simp only [steps, List.forall_mem_cons, List.not_mem_nil, false_implies, implies_true, and_true]
    refine ⟨.save (by decide) (storable_namedTemplate (by decide) ?_ ?_),
      @Command.OfTemplates.mark (some "demo") (by decide),
      .save (by decide) (storable_namedTemplate (by decide) ?_ ?_),
      .save (by decide) (storable_namedTemplate (by decide) ?_ ?_), .delete (by decide)⟩
    all_goals decide +kernel
  obtain ⟨loads, _, listed, marker⟩ := directory_keeps_snapshots_and_marker steps ofTemplates
  refine ⟨?_, ?_, ?_, ?_, ?_⟩
  · exact (loads "demo" (by decide) (by decide)).trans (if_pos (by decide))
  · exact (loads "other" (by decide) (by decide)).trans (if_pos (by decide))
  · exact (listed "demo").2 ⟨by decide, by decide⟩
  · exact fun member => ((listed "other").1 member).2 (by decide)
  · exact marker

end Store
end BroadcastGraphics
