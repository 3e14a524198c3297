import BroadcastGraphics.Proofs.DirectoryStore
import BroadcastGraphics.Proofs.SessionRestart
import BroadcastGraphics.Proofs.SnapshotRoundTrip

/-!
# Starting over a store of any content

A session can be started over a store into which anything was put.  What it holds is read off the
texts of the entries that are listed: an entry whose text is no snapshot is passed over, and of the
others the last one with an id is held under that id.  A directory reads every snapshot through its
written form, so one that cannot be written is passed over there as well.

Two kinds of content are not passed over.  A text that lies too deep for the reader puts an end to
the start wherever it stands, and so does a marker that is not in an object, or that is itself a
list or an object.
-/

namespace BroadcastGraphics

/-! ## What is found in a file tree -/

theorem FileTree.isOfFiles_of_step
    {tree : FileTree}
    {place : Place}
    {name : String}
    {fault : Fault}
    (failed : tree.step place name = .error fault) : fault.isOfFiles = true := by
  unfold step at failed
  split at failed
  · cases failed
    rfl
  · cases failed
    rfl
  · split at failed
    · cases failed
      rfl
    · split at failed <;> cases failed

theorem FileTree.endsBefore_or_isOfFiles_of_refusal?
    {path : String}
    {fault : Fault}
    (refused : refusal? path = some fault) : endsBefore fault = true ∨ fault.isOfFiles = true := by
  unfold refusal? at refused
  split at refused
  · cases refused
    exact Or.inl rfl
  split at refused
  · cases refused
    exact Or.inl rfl
  split at refused
  · cases refused
    exact Or.inl rfl
  split at refused
  · cases refused
    exact Or.inr rfl
  · cases refused

/-- A path that cannot be followed fails for a file or a directory. -/
theorem FileTree.isOfFiles_of_find?
    {tree : FileTree}
    {path : String}
    {fault : Fault}
    (failed : tree.find? path = .error fault) : fault.isOfFiles = true := by
  have ofSteps (names : List String) (start : Place) (fault : Fault)
      (failed : names.foldlM tree.step start = .error fault) : fault.isOfFiles = true := by
    induction names generalizing start with
    | nil => cases failed
    | cons name rest ih =>
      rw [List.foldlM_cons] at failed
      cases stepped : tree.step start name with
      | error first =>
        rw [stepped] at failed
        cases failed
        exact isOfFiles_of_step stepped
      | ok next =>
        rw [stepped] at failed
        exact ih next failed
  unfold find? at failed
  cases located : tree.locate path with
  | ok place =>
    rw [located] at failed
    cases failed
  | error first =>
    rw [located] at failed
    dsimp only at failed
    split at failed
    · cases failed
    · rename_i beyond
      cases failed
      unfold locate at located
      split at located
      · rename_i refused
        cases located
        exact (endsBefore_or_isOfFiles_of_refusal? refused).resolve_left beyond
      · exact ofSteps _ _ _ located

/-! ## What is read from a text -/

/-- The text cannot be read because its value lies too deep. -/
def Json.LiesTooDeep (text : String) : Prop :=
  Json.parse text = .error .tooDeep

instance (text : String) : Decidable (Json.LiesTooDeep text) :=
  inferInstanceAs (Decidable (_ = _))

/-- The snapshot in a text, if it is the text of one. -/
def Snapshot.inText? (text : String) : Option Snapshot :=
  (Snapshot.ofFileText text).toOption

namespace Snapshot

theorem ofFileText_of_tooDeep
    {text : String}
    (deep : Json.LiesTooDeep text) : ofFileText text = .error .tooDeep := by
  unfold ofFileText Json.ofText
  rw [show Json.parse text = .error .tooDeep from deep]
  rfl

/-- Whatever else keeps a snapshot from being read lies in the content of the text. -/
theorem isContent_of_ofFileText
    {text : String}
    {fault : Fault}
    (legible : ¬ Json.LiesTooDeep text)
    (failed : ofFileText text = .error fault) : fault.isContent = true := by
  unfold ofFileText Json.ofText at failed
  unfold Json.LiesTooDeep at legible
  cases parsed : Json.parse text with
  | error refusal =>
    rw [parsed] at failed legible
    cases failed
    cases refusal with
    | tooDeep => exact absurd rfl legible
    | _ => rfl
  | ok value =>
    rw [parsed] at failed
    change read value = .error fault at failed
    unfold read at failed
    cases checked : check value with
    | accepted snapshot =>
      rw [checked] at failed
      cases failed
    | refused issues =>
      rw [checked] at failed
      cases failed
      rfl

end Snapshot

namespace Store

/-! ## Entries -/

/-- The text of the file with the snapshot of an id, if there is one. -/
def Directory.text? (directory : Directory) (id : String) : Option String :=
  match directory.tree.find? (pathOf id) with
  | .ok (some (_, .file text)) => some text
  | _ => none

/-- The text of the row with an id, if there is one; an id that cannot be bound has none. -/
def Database.text? (database : Database) (id : String) : Option String :=
  (bindable id).toOption.bind fun id => (database.row? id).map Row.text

/-- The text of the entry with an id, if there is one. -/
def text? (store : Store) (id : String) : Option String :=
  match store.backend with
  | .memory memory => Table.get? memory.texts id
  | .directory directory => directory.text? id
  | .database database => database.text? id

/-- What comes of a snapshot that is read from a store: a directory reads it through its written
form. -/
def passed? (store : Store) (snapshot : Snapshot) : Option Snapshot :=
  match store.backend with
  | .directory _ => snapshot.written.toOption.map fun _ => snapshot.settled
  | _ => some snapshot

/-- The snapshot of the entry with an id, if its text is that of one. -/
def entry? (store : Store) (id : String) : Option Snapshot :=
  ((store.text? id).bind Snapshot.inText?).bind store.passed?

/-- The value of a stored text: a directory writes the snapshot in it. -/
def valueOf (store : Store) (text : String) : Except Fault Json :=
  match store.backend with
  | .directory _ => Directory.inText text
  | _ => Json.ofText text

/-- The snapshot that is read from what was loaded. -/
def readLoaded : Except Fault (Option Json) -> Except Fault (Option Snapshot)
  | .ok none => .ok none
  | .ok (some value) => .ok (Snapshot.read value).toOption
  | .error fault => if fault.isContent || fault.isOfFiles then .ok none else .error fault

theorem snapshot?_eq_readLoaded
    (store : Store)
    (id : String) : store.snapshot? id = readLoaded (store.load id) := by
  unfold snapshot? readLoaded
  rcases store.load id with _ | _ | _ <;> rfl

theorem readLoaded_of_passable
    {fault : Fault}
    (passable : (fault.isContent || fault.isOfFiles) = true) :
    readLoaded (.error fault) = .ok none :=
  if_pos passable

theorem readLoaded_of_content
    {fault : Fault}
    (ofContent : fault.isContent = true) : readLoaded (.error fault) = .ok none :=
  readLoaded_of_passable (Bool.or_eq_true_iff.2 (Or.inl ofContent))

section Entries

variable {id text : String}

theorem Directory.load_of_text
    {directory : Directory}
    (stands : directory.text? id = some text) :
    directory.load id = (inText text).map some := by
  unfold Directory.text? at stands
  unfold Directory.load
  generalize directory.tree.find? (pathOf id) = found at stands ⊢
  rcases found with fault | _ | ⟨place, _ | content⟩
  · cases stands
  · cases stands
  · cases stands
  cases stands
  exact loaded_inText text

/-- Where no file stands nothing is loaded, or loading fails for a file or a directory. -/
theorem Directory.readLoaded_of_none
    {directory : Directory}
    (nothing : directory.text? id = none) : readLoaded (directory.load id) = .ok none := by
  unfold Directory.text? at nothing
  unfold Directory.load
  cases found : directory.tree.find? (pathOf id) with
  | error fault =>
    refine readLoaded_of_passable ?_
    rw [FileTree.isOfFiles_of_find? found, Bool.or_true]
  | ok entry? =>
    rw [found] at nothing
    rcases entry? with _ | ⟨place, _ | content⟩
    · rfl
    · rfl
    · cases nothing

theorem Database.load_of_text
    {database : Database}
    (stands : database.text? id = some text) :
    database.load id = (Json.ofText text).map some := by
  unfold Database.text? at stands
  unfold Database.load
  cases bound : bindable id with
  | error fault =>
    rw [bound] at stands
    cases stands
  | ok id =>
    rw [bound] at stands
    have row : (database.row? id).map Row.text = some text := stands
    change Json.ofStoredText? ((database.row? id).map Row.text) = _
    rw [row]
    rfl

/-- Where there is no row nothing is loaded, and an id that cannot be bound lies in the content. -/
theorem Database.readLoaded_of_none
    {database : Database}
    (nothing : database.text? id = none) : readLoaded (database.load id) = .ok none := by
  unfold Database.text? at nothing
  unfold Database.load
  cases bound : bindable id with
  | error fault =>
    refine readLoaded_of_content ?_
    unfold bindable at bound
    split at bound <;> cases bound
    rfl
  | ok id =>
    rw [bound] at nothing
    have row : (database.row? id).map Row.text = none := nothing
    change readLoaded (Json.ofStoredText? ((database.row? id).map Row.text)) = _
    rw [row]
    rfl

variable {store : Store}

/-- What is loaded from an entry with a text is the value of the text. -/
theorem load_of_text
    (stands : store.text? id = some text) :
    store.load id = (store.valueOf text).map some := by
  obtain ⟨backend, clock, failsToSave, failsToMark⟩ := store
  cases backend with
  | memory memory =>
    have stands : Table.get? memory.texts id = some text := stands
    change Json.ofStoredText? (Table.get? memory.texts id) = _
    rw [stands]
    rfl
  | directory directory => exact Directory.load_of_text stands
  | database database => exact Database.load_of_text stands

/-- An entry without a text is passed over. -/
theorem snapshot?_of_none
    (nothing : store.text? id = none) : store.snapshot? id = .ok none := by
  rw [snapshot?_eq_readLoaded]
  obtain ⟨backend, clock, failsToSave, failsToMark⟩ := store
  cases backend with
  | memory memory =>
    have nothing : Table.get? memory.texts id = none := nothing
    change readLoaded (Json.ofStoredText? (Table.get? memory.texts id)) = _
    rw [nothing]
    rfl
  | directory directory => exact Directory.readLoaded_of_none nothing
  | database database => exact Database.readLoaded_of_none nothing

theorem readLoaded_ofText
    (legible : ¬ Json.LiesTooDeep text) :
    readLoaded ((Json.ofText text).map some) = .ok (Snapshot.inText? text) := by
  have ofContent {fault : Fault} := @Snapshot.isContent_of_ofFileText text fault legible
  unfold Snapshot.inText? Snapshot.ofFileText at *
  cases read : Json.ofText text with
  | error fault =>
    rw [read] at ofContent
    exact readLoaded_of_content (ofContent rfl)
  | ok value => rfl

/-- A snapshot that is read through its written form is settled, if it can be written. -/
theorem readLoaded_inText
    (legible : ¬ Json.LiesTooDeep text) :
    readLoaded ((Directory.inText text).map some) = .ok ((Snapshot.inText? text).bind
      fun snapshot => snapshot.written.toOption.map fun _ => snapshot.settled) := by
  unfold Directory.inText Snapshot.inText?
  cases inText : Snapshot.ofFileText text with
  | error fault => exact readLoaded_of_content (Snapshot.isContent_of_ofFileText legible inText)
  | ok snapshot =>
    obtain ⟨given, _, read⟩ := ok_of_bind inText
    change readLoaded (snapshot.written.map some) =
      .ok (snapshot.written.toOption.map fun _ => snapshot.settled)
    by_cases writable : (Template.ofSnapshot snapshot).Writable
    · rw [show snapshot.written = .ok snapshot.toJson from
        (Template.ofSnapshot snapshot).written_of_writable writable]
      change Except.ok (Snapshot.read snapshot.toJson).toOption = _
      rw [Snapshot.read_toJson (Snapshot.valid_of_read read)]
      rfl
    · rw [show snapshot.written = .error (.misuse .tooDeepToWrite) from
        (Template.ofSnapshot snapshot).written_of_not_writable writable]
      rfl

/-- The snapshot of an entry is the one in its text, as the store passes it on. -/
theorem snapshot?_of_legible
    (stands : store.text? id = some text)
    (legible : ¬ Json.LiesTooDeep text) : store.snapshot? id = .ok (store.entry? id) := by
  have entry : store.entry? id = (Snapshot.inText? text).bind store.passed? := by
    unfold entry?
    rw [stands]
    rfl
  rw [snapshot?_eq_readLoaded, load_of_text stands, entry]
  obtain ⟨backend, clock, failsToSave, failsToMark⟩ := store
  cases backend with
  | directory directory => exact readLoaded_inText legible
  | memory memory =>
    refine (readLoaded_ofText legible).trans (congrArg Except.ok ?_)
    cases Snapshot.inText? text <;> rfl
  | database database =>
    refine (readLoaded_ofText legible).trans (congrArg Except.ok ?_)
    cases Snapshot.inText? text <;> rfl

/-- A text that lies too deep keeps its entry from being passed over. -/
theorem snapshot?_of_tooDeep
    (stands : store.text? id = some text)
    (deep : Json.LiesTooDeep text) : store.snapshot? id = .error .tooDeep := by
  have unread : Json.ofText text = .error .tooDeep := by
    unfold Json.ofText
    rw [show Json.parse text = .error .tooDeep from deep]
    rfl
  have value : store.valueOf text = .error .tooDeep := by
    unfold valueOf Directory.inText
    rw [Snapshot.ofFileText_of_tooDeep deep, unread]
    cases store.backend <;> rfl
  rw [snapshot?_eq_readLoaded, load_of_text stands, value]
  rfl

end Entries

/-- No text that is listed lies too deep. -/
def Legible (store : Store) : Prop :=
  ∀ id ∈ store.ids, ∀ text ∈ store.text? id, ¬ Json.LiesTooDeep text

section Readable

variable (store : Store)

/-- The snapshots of some entries, in their order. -/
def entriesOf (ids : List String) : Table Snapshot :=
  ids.filterMap fun id => (store.entry? id).map fun snapshot => (id, snapshot)

/-- The snapshots of a store, in the order in which their entries are listed; an entry that is listed
twice counts where it comes first. -/
def readable : Table Snapshot :=
  store.entriesOf store.ids.eraseDups

theorem mem_of_mem_entriesOf
    {ids : List String}
    {id : String}
    (member : id ∈ Table.names (store.entriesOf ids)) : id ∈ ids := by
  obtain ⟨entry, inside, rfl⟩ := List.mem_map.1 member
  obtain ⟨id, listed, made⟩ := List.mem_filterMap.1 inside
  obtain ⟨snapshot, _, rfl⟩ := Option.map_eq_some_iff.1 made
  exact listed

theorem get?_entriesOf
    {ids : List String}
    {id : String}
    (listed : id ∈ ids) : Table.get? (store.entriesOf ids) id = store.entry? id := by
  induction ids with
  | nil => cases listed
  | cons first rest ih =>
    unfold entriesOf
    rw [List.filterMap_cons]
    by_cases here : first = id
    · subst here
      cases entry : store.entry? first with
      | some snapshot => simp [Table.get?]
      | none =>
        refine (Table.get?_eq_none_iff _ _).2 fun member => ?_
        obtain ⟨entry, inside, sameId⟩ := List.mem_map.1 member
        obtain ⟨id, _, made⟩ := List.mem_filterMap.1 inside
        obtain ⟨snapshot, found, rfl⟩ := Option.map_eq_some_iff.1 made
        cases sameId
        rw [entry] at found
        cases found
    · have later := ih ((List.mem_cons.1 listed).resolve_left (Ne.symm here))
      cases store.entry? first with
      | some snapshot =>
        change (if first = id then _ else _) = _
        rw [if_neg here]
        exact later
      | none => exact later

theorem entriesOf_eraseDups_concat
    (ids : List String)
    (id : String) :
    store.entriesOf (ids ++ [id]).eraseDups = store.entriesOf ids.eraseDups ++
      if id ∈ ids then [] else store.entriesOf [id] := by
  unfold entriesOf
  rw [List.eraseDups_append, List.filterMap_append]
  congr 1
  by_cases listed : id ∈ ids
  · simp [List.removeAll, listed]
  · simp [List.removeAll, listed, List.eraseDups_cons]

variable {store}

/-- Entries of which each can be read or passed over are read one after the other. -/
theorem foldlM_readingOn
    {ids : List String}
    (each : ∀ id ∈ ids, store.snapshot? id = .ok (store.entry? id)) :
    ids.foldlM store.readingOn [] = .ok (store.entriesOf ids.eraseDups) := by
  -- from the end: the last id is looked up among the entries that were read before it
  induction ids using List.reverseRecOn with
  | nil => rfl
  | append_singleton ids id ih =>
    have before := ih fun other member => each other (List.mem_append_left _ member)
    have here := each id (List.mem_append_right _ List.mem_cons_self)
    have step : store.readingOn (store.entriesOf ids.eraseDups) id =
        .ok (store.entriesOf (ids ++ [id]).eraseDups) := by
      unfold readingOn
      rw [here, entriesOf_eraseDups_concat]
      refine congrArg Except.ok ?_
      by_cases listed : id ∈ ids
      · rw [if_pos listed, List.append_nil]
        have present := store.get?_entriesOf (List.mem_eraseDups.2 listed)
        cases entry : store.entry? id with
        | none => rfl
        | some snapshot => exact Table.put_of_get? (present.trans entry)
      · rw [if_neg listed]
        have absent : id ∉ Table.names (store.entriesOf ids.eraseDups) := fun member =>
          listed (List.mem_eraseDups.1 (store.mem_of_mem_entriesOf member))
        unfold entriesOf at absent ⊢
        cases entry : store.entry? id with
        | none => simp [entry]
        | some snapshot =>
          simp only [Option.map_some, Option.getD_some, List.filterMap_cons, entry,
            List.filterMap_nil]
          exact Table.put_of_notMem absent snapshot
    rw [List.foldlM_append, before]
    change (store.readingOn _ id >>= fun read => .ok read) = _
    rw [step]
    rfl

theorem Legible.snapshot?_eq
    (legible : store.Legible)
    {id : String}
    (listed : id ∈ store.ids) : store.snapshot? id = .ok (store.entry? id) := by
  cases stands : store.text? id with
  | some text => exact snapshot?_of_legible stands (legible id listed text stands)
  | none =>
    rw [snapshot?_of_none stands]
    unfold entry?
    rw [stands]
    rfl

/-- One text that lies too deep keeps all entries from being read. -/
theorem foldlM_readingOn_of_tooDeep
    {ids : List String}
    (each : ∀ id ∈ ids, (∃ found, store.snapshot? id = .ok found) ∨
      store.snapshot? id = .error .tooDeep)
    (deep : ∃ id ∈ ids, store.snapshot? id = .error .tooDeep)
    (before : Table Snapshot) :
    ids.foldlM store.readingOn before = .error .tooDeep := by
  induction ids generalizing before with
  | nil =>
    obtain ⟨id, member, _⟩ := deep
    cases member
  | cons id rest ih =>
    obtain ⟨here, others⟩ := List.forall_mem_cons.1 each
    rw [List.foldlM_cons]
    unfold readingOn
    rcases here with ⟨found, read⟩ | failed
    · rw [read]
      refine ih others ?_ _
      obtain ⟨other, member, failed⟩ := deep
      refine ⟨other, (List.mem_cons.1 member).resolve_left ?_, failed⟩
      rintro rfl
      cases read.symm.trans failed
    · rw [failed]
      rfl

/-- If no listed text lies too deep, what is read is all that is readable; otherwise nothing is. -/
theorem snapshots_eq_readable (store : Store) :
    (store.Legible -> store.snapshots = .ok store.readable) ∧
      (¬ store.Legible -> store.snapshots = .error .tooDeep) := by
  rw [snapshots_eq_foldlM]
  refine ⟨fun legible => foldlM_readingOn fun id listed => legible.snapshot?_eq listed,
    fun illegible => foldlM_readingOn_of_tooDeep (fun id listed => ?_) ?_ _⟩
  · cases stands : store.text? id with
    | none => exact Or.inl ⟨_, snapshot?_of_none stands⟩
    | some text =>
      by_cases deep : Json.LiesTooDeep text
      · exact Or.inr (snapshot?_of_tooDeep stands deep)
      · exact Or.inl ⟨_, snapshot?_of_legible stands deep⟩
  · unfold Legible at illegible
    push Not at illegible
    obtain ⟨id, listed, text, stands, deep⟩ := illegible
    exact ⟨id, listed, snapshot?_of_tooDeep stands deep⟩

end Readable

/-! ## Markers -/

/-- The file of the marker, if there is one, holds no text that lies too deep, and if it holds a value
this is an object whose member is no list and no object. -/
def Directory.MarkerLegible (directory : Directory) : Prop :=
  ∀ place text, directory.tree.find? (pathIn markerFile) = .ok (some (place, .file text)) ->
    match Json.parse text with
    | .ok (.obj members) => (Json.memberOrNull members "current").isScalar = true
    | .ok _ => False
    | .error refusal => refusal ≠ .tooDeep

/-- The marker can be read, and it is neither a list nor an object. -/
def MarkerLegible (store : Store) : Prop :=
  match store.backend with
  | .memory memory => memory.marker.isScalar = true
  | .directory directory => directory.MarkerLegible
  | .database _ => True

theorem Directory.markerLegible_iff
    (directory : Directory) :
    directory.MarkerLegible ↔
      ∃ marker, directory.marker = .ok marker ∧ marker.isScalar = true := by
  unfold MarkerLegible marker
  rcases found : directory.tree.find? (pathIn markerFile) with fault | _ | ⟨place, _ | text⟩
  · exact iff_of_true (fun _ _ same => by cases same) ⟨.null, rfl, rfl⟩
  · exact iff_of_true (fun _ _ same => by cases same) ⟨.null, rfl, rfl⟩
  · exact iff_of_true (fun _ _ same => by cases same) ⟨.null, rfl, rfl⟩
  · have single : (∀ other content, Except.ok (ε := Fault) (some (place, FileTree.Entry.file text)) =
        .ok (some (other, .file content)) -> match Json.parse content with
          | .ok (.obj members) => (Json.memberOrNull members "current").isScalar = true
          | .ok _ => False
          | .error refusal => refusal ≠ .tooDeep) ↔ match Json.parse text with
          | .ok (.obj members) => (Json.memberOrNull members "current").isScalar = true
          | .ok _ => False
          | .error refusal => refusal ≠ .tooDeep :=
      ⟨fun each => each place text rfl, fun here _ _ same => by cases same; exact here⟩
    rw [single]
    dsimp only
    unfold markerIn
    cases Json.parse text with
    | error refusal =>
      cases refusal with
      | tooDeep => simp
      | _ => simp [Json.isScalar]
    | ok value =>
      cases value with
      | obj members => simp
      | _ => simp

theorem markerLegible_iff
    (store : Store) :
    store.MarkerLegible ↔ ∃ marker, store.marker = .ok marker ∧ marker.isScalar = true := by
  obtain ⟨backend, clock, failsToSave, failsToMark⟩ := store
  cases backend with
  | memory memory =>
    refine ⟨fun legible => ⟨memory.marker, rfl, legible⟩, ?_⟩
    rintro ⟨marker, same, legible⟩
    cases same
    exact legible
  | directory directory => exact directory.markerLegible_iff
  | database database =>
    refine iff_of_true trivial ⟨Json.ofText? database.marker, rfl, ?_⟩
    cases database.marker <;> rfl

end Store

/-! ## The start of a session -/

namespace Session

theorem Indexed.isSome_held?
    {session : Session}
    (indexed : Indexed session)
    (id : String) : (session.held? id).isSome = session.holds id := by
  unfold held? holds Table.has
  change _ = (session.number? id).isSome
  cases held : session.number? id with
  | none => rfl
  | some number =>
    obtain ⟨template, present, _⟩ := indexed.leads held
    rw [Option.bind_some, present]
    rfl

theorem held?_tracked
    {session : Session}
    (indexed : Indexed session)
    (template : Template)
    (key : String) :
    (session.tracked template).held? key =
      if template.id = key then some template else session.held? key := by
  unfold held?
  change (Table.get? (Table.put session.index template.id session.templates.length) key).bind
    (fun number => (session.templates ++ [template])[number]?) = _
  rw [Table.get?_put]
  by_cases here : template.id = key
  · rw [if_pos here, if_pos here, Option.bind_some]
    exact template?_tracked session template
  · rw [if_neg here, if_neg here]
    change (session.number? key).bind _ = (session.number? key).bind _
    cases held : session.number? key with
    | none => rfl
    | some number => exact List.getElem?_append_left (number?_lt indexed held)

/-- The last one of some snapshots that has an id as the id of its manifest. -/
def lastUnder (reads : Table Snapshot) (key : String) : Option Template :=
  (reads.reverse.find? fun entry => entry.2.manifest.id == key).map fun entry =>
    Template.ofSnapshot entry.2

/-- Of the snapshots that are taken over the last one with an id is held under it. -/
theorem held?_takenOver
    {session : Session}
    (indexed : Indexed session)
    {reads : Table Snapshot}
    (valid : ∀ entry ∈ reads, entry.2.manifest.Valid)
    (key : String) :
    let after := reads.foldl
      (fun session entry => session.tracked (Template.ofSnapshot entry.2)) session
    Indexed after ∧ after.store = session.store ∧ after.current = session.current ∧
      after.held? key = (lastUnder reads key).or (session.held? key) := by
  induction reads generalizing session with
  | nil => exact ⟨indexed, rfl, rfl, rfl⟩
  | cons entry rest ih =>
    obtain ⟨here, later⟩ := List.forall_mem_cons.1 valid
    have tracked := indexed.tracked
      (show (Template.ofSnapshot entry.2).manifest.Valid from here)
    obtain ⟨after, sameStore, sameCurrent, held⟩ := ih tracked later
    refine ⟨after, sameStore, sameCurrent, held.trans ?_⟩
    rw [held?_tracked indexed]
    unfold lastUnder
    rw [List.reverse_cons, List.find?_append]
    cases rest.reverse.find? fun entry => entry.2.manifest.id == key with
    | some found => rfl
    | none =>
      change Option.or none _ = _
      by_cases same : entry.2.manifest.id = key
      · have alsoId : (Template.ofSnapshot entry.2).id = key := same
        rw [if_pos alsoId]
        simp [same]
      · have otherId : (Template.ofSnapshot entry.2).id ≠ key := same
        rw [if_neg otherId]
        simp [same]

/-- A start takes over what is read, and then the marked id if it is held. -/
theorem opened_of_reads
    {store : Store}
    {reads : Table Snapshot}
    (config : StudioConfig)
    (given : store.snapshots = .ok reads) :
    let taken := holding config store reads
    opened config store =
      match store.marker with
      | .error fault => (.error fault, taken)
      | .ok marker =>
          match taken.numberOfValue marker with
          | .error fault => (.error fault, taken)
          | .ok none => (.ok (), taken)
          | .ok (some _) => (.ok (), { taken with current := marker.str? }) := by
  intro taken
  have takes : reads.foldl (fun session entry => session.tracked (Template.ofSnapshot entry.2))
      { config, store } = taken := rfl
  change resultOf takeOver _ = _
  simp only [takeOver, resultOf_bind, resultOf_get, resultOf_lift, given, resultOf_modify, takes]
  cases store.marker with
  | error fault => rfl
  | ok marker =>
    dsimp only
    rcases taken.numberOfValue marker with fault | _ | number
    · rfl
    · rfl
    · rfl

/-- The marked id becomes the current one if it is held, and a start fails for its marker exactly if
that is not legible. -/
theorem marker_of_opened
    {store : Store}
    {reads : Table Snapshot}
    (config : StudioConfig)
    (given : store.snapshots = .ok reads)
    (fresh : (holding config store reads).current = none) :
    ((opened config store).1 = .ok () ↔ store.MarkerLegible) ∧
      (∀ id, (opened config store).2.held? id = (holding config store reads).held? id) ∧
      ∀ id, (opened config store).2.current = some id ↔
        store.marker = .ok (.str id) ∧ (holding config store reads).holds id = true := by
  rw [Store.markerLegible_iff, opened_of_reads config given]
  generalize holding config store reads = taken at fresh ⊢
  cases store.marker with
  | error fault => simp [fresh]
  | ok marker =>
    cases marker with
    | arr items => simp [numberOfValue, Json.isScalar, fresh]
    | obj members => simp [numberOfValue, Json.isScalar, fresh]
    | str marked =>
      have isHeld : taken.holds marked = (taken.number? marked).isSome := rfl
      cases held : taken.number? marked with
      | none =>
        rw [held] at isHeld
        refine ⟨by simp [numberOfValue, held, Json.isScalar], fun id => ?_, fun id => ?_⟩
        · simp [numberOfValue, held]
        · simp only [numberOfValue, held, fresh, Except.ok.injEq, Json.str.injEq]
          constructor
          · intro same
            cases same
          · rintro ⟨rfl, also⟩
            cases isHeld.symm.trans also
      | some number =>
        rw [held] at isHeld
        refine ⟨by simp [numberOfValue, held, Json.isScalar], fun id => ?_, fun id => ?_⟩
        · simp only [numberOfValue, held]
          rfl
        · simp only [numberOfValue, held, Json.str?, Option.some.injEq, Except.ok.injEq,
            Json.str.injEq]
          constructor
          · rintro rfl
            exact ⟨rfl, isHeld⟩
          · exact And.left
    | _ => simp [numberOfValue, Json.isScalar, fresh]

/-- A store with a text that is cut off, one of a template under another id, and a marker. -/
def cutOffStore : Store where
  backend := .memory {
    texts := [("cut", "\x7b"), ("demo",
      "\x7b\x22manifest\x22:\x7b\x22id\x22:\x22a\x22,\x22name\x22:\x22A\x22\x7d\x7d")],
    marker := .str "a" }

/-- A marker that is a list keeps a session from starting. -/
example :
    let directory := Store.Directory.holding [(Store.Directory.markerFile, "[]")]
    (opened {} { backend := .directory directory }).1 = .error .noMembers := by
  decide +kernel

end Session
end BroadcastGraphics
