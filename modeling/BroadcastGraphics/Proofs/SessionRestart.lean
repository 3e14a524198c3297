import BroadcastGraphics.Proofs.SessionMirror

/-!
# A restart reproduces the session

A session that is opened over the store of another one holds templates under the same ids and in the
same order, which are written as before and have the same components, and the same one is current.
This takes that the store took every template that was held at any point, and that their written forms
can be read back from texts.
-/

namespace BroadcastGraphics

/-! ## Reading a template back -/

/-- The snapshot is read from the text. -/
def Snapshot.ReadFrom (text : String) (snapshot : Snapshot) : Prop :=
  ∃ value, Json.ofText text = .ok value ∧ Snapshot.read value = .ok snapshot

namespace Template

/-- The template without component source. -/
def bare (template : Template) : Template :=
  (template.setComponent none).template

/-- Two templates look the same from outside: without component source they are written in the same
way, and reading their component source gives the same. -/
structure Alike (left right : Template) : Prop where
  written : right.bare.written = left.bare.written
  component : right.readComponent.outcome = left.readComponent.outcome

variable {template : Template}

/-- What lasts with component source lasts without. -/
theorem Lasting.bare (lasting : template.Lasting) : template.bare.Lasting := by
  obtain ⟨hasDigits, placed, legible, wellFormed⟩ := lasting
  refine ⟨hasDigits, placed, ?_, ?_⟩
  · obtain ⟨manifestName, manifest, elementsName, elements, animationName, animation, name, _, _⟩ :=
      legible
    exact ⟨manifestName, manifest, elementsName, elements, animationName, animation, name, trivial,
      trivial⟩
  · obtain ⟨distinct, manifest, elements, animation, _, _⟩ := wellFormed
    exact ⟨distinct, manifest, elements, animation, trivial, trivial⟩

theorem Lasting.of_sameContent
    {stored : Template}
    (lasting : template.Lasting)
    (same : SameContent stored template)
    (sameText : stored.toJson = template.toJson) : stored.Lasting :=
  ⟨same.manifest ▸ lasting.hasDigits, same.elements ▸ lasting.placed, sameText ▸ lasting.legible,
    sameText ▸ lasting.wellFormed⟩

/-- Templates of one content are written alike without component source. -/
theorem SameContent.written_bare
    {stored : Template}
    (same : SameContent stored template) : stored.bare.written = template.bare.written := by
  have snapshots : stored.bare.snapshot = template.bare.snapshot := by
    unfold snapshot bare setComponent Edit.quiet
    rw [same.manifest, same.elements, same.animation]
  unfold written
  rw [snapshots]

/-- A text that is kept of a template can be read again, and what is read looks the same. -/
theorem Kept.reads
    {text : String}
    (kept : template.Kept text)
    (regular : template.Regular)
    (lasting : template.Lasting)
    (writable : template.Writable) :
    ∃ snapshot, Snapshot.ReadFrom text snapshot ∧ template.Alike (ofSnapshot snapshot) ∧
      (ofSnapshot snapshot).id = template.id := by
  obtain ⟨stored, same, source, rfl⟩ := kept
  have sameText : stored.toJson = template.toJson ∨ stored.toJson = template.bare.toJson := by
    unfold toJson snapshot bare setComponent Edit.quiet
    rw [same.manifest, same.elements, same.animation]
    exact source.imp (fun as => by rw [as]) fun without => by rw [without.1]
  have lastingStored : stored.Lasting := by
    rcases sameText with as | without
    · exact lasting.of_sameContent same as
    · exact lasting.bare.of_sameContent ⟨same.manifest, same.elements, same.animation⟩ without
  have regularStored : stored.Regular :=
    SameContent.regular ⟨same.manifest.symm, same.elements.symm, same.animation.symm⟩ regular
  have writableStored : stored.Writable := by
    unfold Writable
    rw [same.manifest]
    exact writable
  obtain ⟨parsed, read⟩ := read_text regularStored lastingStored writableStored
  have sameId : stored.id = template.id := congrArg Manifest.id same.manifest
  refine ⟨stored.reread.snapshot, ⟨_, parsed, read⟩, ⟨?_, ?_⟩, sameId⟩
  · exact (written_reread lastingStored.bare writableStored).trans same.written_bare
  · change stored.reread.readComponent.outcome = _
    rw [readComponent_outcome, readComponent_outcome, generated_reread, ← same.generated_eq]
    change Except.ok (stored.component.getD template.generated) = _
    rcases source with as | ⟨without, made⟩
    · rw [as]
    · rw [without, made]
      rfl

end Template

/-! ## Reading everything back -/

namespace Table

variable {α β γ : Type} {Rel : α -> β -> Prop}

/-- If something can be found for each two entries that go together, there is a table of it. -/
theorem Pairs.choose
    {First : α -> γ -> Prop}
    {Second : β -> γ -> Prop}
    {left : Table α}
    {right : Table β}
    (pairs : Pairs Rel left right)
    (each : ∀ entry ∈ left, ∀ other, Rel entry.2 other ->
      ∃ chosen, First entry.2 chosen ∧ Second other chosen) :
    ∃ table, Pairs First left table ∧ Pairs Second right table := by
  induction pairs with
  | nil => exact ⟨[], .nil, .nil⟩
  | @cons entry other _ _ here _ ih =>
    obtain ⟨ofEntry, ofRest⟩ := List.forall_mem_cons.1 each
    obtain ⟨chosen, first, second⟩ := ofEntry other.2 here.2
    obtain ⟨table, firsts, seconds⟩ := ih ofRest
    exact ⟨(entry.1, chosen) :: table, .cons ⟨rfl, first⟩ firsts,
      .cons ⟨here.1.symm, second⟩ seconds⟩

theorem Pairs.imp
    {Other : α -> β -> Prop}
    {left : Table α}
    {right : Table β}
    (pairs : Pairs Rel left right)
    (weaker : ∀ {value other}, Rel value other -> Other value other) : Pairs Other left right :=
  List.Forall₂.imp (fun _ _ here => ⟨here.1, weaker here.2⟩) pairs

theorem Pairs.mapEntries
    {Other : α -> γ -> Prop}
    {change : β -> γ}
    {left : Table α}
    {right : Table β}
    (pairs : Pairs (fun value other => Other value (change other)) left right) :
    Pairs Other left (mapEntries change right) :=
  List.forall₂_map_right_iff.2 pairs

/-- Every entry goes together with one of the same name. -/
theorem Pairs.exists_of_mem
    {left : Table α}
    {right : Table β}
    (pairs : Pairs Rel left right)
    {entry : String × β}
    (member : entry ∈ right) : ∃ value, (entry.1, value) ∈ left ∧ Rel value entry.2 := by
  induction pairs with
  | nil => cases member
  | @cons first second _ _ here _ ih =>
    rcases List.mem_cons.1 member with rfl | later
    · exact ⟨first.2, here.1 ▸ List.mem_cons_self, here.2⟩
    · obtain ⟨value, isThere, related⟩ := ih later
      exact ⟨value, List.mem_cons_of_mem _ isThere, related⟩

end Table

/-- A snapshot is loaded from its text on the shelf. -/
theorem Store.snapshot?_of_readFrom
    {store : Store}
    (sequential : store.Sequential)
    {id text : String}
    {snapshot : Snapshot}
    (slug : Identifier.isSlug id = true)
    (stands : Table.get? store.shelf id = some text)
    (readFrom : Snapshot.ReadFrom text snapshot) : store.snapshot? id = .ok (some snapshot) := by
  obtain ⟨value, parsed, read⟩ := readFrom
  unfold snapshot?
  rw [load_eq sequential (Database.bindable_of_isSlug slug), stands, Json.ofStoredText?, parsed]
  change Except.ok (Snapshot.read value).toOption = _
  rw [read]
  rfl

namespace Session

/-- The session that has taken some snapshots over from a store. -/
def holding (config : StudioConfig) (store : Store) (reads : Table Snapshot) : Session :=
  reads.foldl (fun session entry => session.tracked (Template.ofSnapshot entry.2)) { config, store }

/-- Snapshots that are taken over under ids of their own come last, in order. -/
theorem indexed_takenOver
    {session : Session}
    (indexed : Indexed session)
    {reads : Table Snapshot}
    (distinct : Table.Distinct reads)
    (fresh : ∀ entry ∈ reads, session.number? entry.1 = none)
    (valid : ∀ entry ∈ reads, entry.2.manifest.Valid ∧ (Template.ofSnapshot entry.2).id = entry.1) :
    let after := reads.foldl
      (fun session entry => session.tracked (Template.ofSnapshot entry.2)) session
    Indexed after ∧ after.entries = session.entries ++ Table.mapEntries Template.ofSnapshot reads ∧
      after.current = session.current := by
  induction reads generalizing session with
  | nil => exact ⟨indexed, (List.append_nil _).symm, rfl⟩
  | cons entry rest ih =>
    obtain ⟨⟨validHere, sameId⟩, validRest⟩ := List.forall_mem_cons.1 valid
    obtain ⟨free, freshRest⟩ := List.forall_mem_cons.1 fresh
    obtain ⟨absent, distinctRest⟩ := List.nodup_cons.1 distinct
    have tracked := indexed.tracked (show (Template.ofSnapshot entry.2).manifest.Valid from validHere)
    have freshThere : ∀ other ∈ rest,
        (session.tracked (Template.ofSnapshot entry.2)).number? other.1 = none := by
      intro other member
      refine (Table.get?_put _ _ _ _).trans ?_
      rw [if_neg]
      · exact freshRest other member
      · rintro same
        rw [sameId] at same
        exact absent (same ▸ Table.mem_names_of_mem member)
    obtain ⟨after, entries, current⟩ := ih tracked distinctRest freshThere validRest
    refine ⟨after, entries.trans ?_, current⟩
    rw [entries_tracked indexed.inRange (sameId ▸ free), sameId, List.append_assoc]
    rfl

section Holding

variable {store : Store} {reads : Table Snapshot} (config : StudioConfig)
  (distinct : Table.Distinct reads)
  (valid : ∀ entry ∈ reads, entry.2.manifest.Valid ∧ (Template.ofSnapshot entry.2).id = entry.1)
include distinct valid

theorem holding_spec :
    Indexed (holding config store reads) ∧
      (holding config store reads).entries = Table.mapEntries Template.ofSnapshot reads ∧
      (holding config store reads).current = none := by
  have start : Indexed { config, store } :=
    ⟨List.nodup_nil, fun held => (nomatch held), fun present => (nomatch present)⟩
  exact indexed_takenOver start distinct (fun _ _ => rfl) valid

/-- A session takes over the snapshots of its store, and the marked template if it is one of them. -/
theorem resultOf_takeOver
    (given : store.snapshots = .ok reads)
    {current : Option String}
    (marker : store.marker = .ok (Json.ofText? current))
    (held : ∀ id ∈ current, id ∈ Table.names reads) :
    resultOf takeOver { config, store } =
      (.ok (), { holding config store reads with current }) := by
  obtain ⟨indexed, entries, none⟩ := @holding_spec store reads config distinct valid
  have takenOver : reads.foldl (fun session entry =>
      session.tracked (Template.ofSnapshot entry.2)) { config, store } =
    holding config store reads := rfl
  have names : Table.names (Table.mapEntries Template.ofSnapshot reads) = Table.names reads :=
    List.map_map
  simp only [takeOver, resultOf_bind, resultOf_get, resultOf_lift, given, resultOf_modify, takenOver,
    marker]
  cases current with
  | none =>
    simp only [Json.ofText?, numberOfValue, Option.isSome_none, Bool.false_eq_true, if_false,
      resultOf_pure, ← none]
  | some id =>
    have isHeld : ((holding config store reads).number? id).isSome = true := by
      refine (holds_iff_mem_names _ id).2 ?_
      rw [← names_entries indexed.inRange, entries, names]
      exact held id rfl
    simp only [Json.ofText?, numberOfValue, isHeld, if_true, resultOf_modify, Json.str?]

end Holding

/-- Every template that the session holds is durable: the store takes it, and it lasts. -/
def Durable (session : Session) : Prop :=
  ∀ entry ∈ session.entries, session.store.takes entry.2 = true ∧ entry.2.Lasting

/-- All that a session holds can be read from a store that mirrors it. -/
theorem snapshots_of_mirrored
    {session : Session}
    (mirrored : Mirrored session)
    (durable : Durable session) :
    ∃ reads, session.store.snapshots = .ok reads ∧ Table.Distinct reads ∧
      (∀ entry ∈ reads, entry.2.manifest.Valid ∧ (Template.ofSnapshot entry.2).id = entry.1) ∧
      Table.Pairs (fun template snapshot => template.Alike (Template.ofSnapshot snapshot))
        session.entries reads := by
  have pairs := mirrored.pairs fun entry member => (durable entry member).1
  have distinctShelf : Table.Distinct session.store.shelf := by
    unfold Table.Distinct
    rw [← pairs.names_eq]
    exact distinct_entries mirrored.indexed
  have exists_reads : ∃ reads, Table.Pairs (fun template snapshot =>
        template.Alike (Template.ofSnapshot snapshot) ∧
          (Template.ofSnapshot snapshot).id = template.id) session.entries reads ∧
      Table.Pairs Snapshot.ReadFrom session.store.shelf reads := by
    refine pairs.choose fun entry member text kept => ?_
    obtain ⟨number, _, present, _⟩ := mirrored.indexed.entry member
    obtain ⟨taken, lasting⟩ := durable entry member
    obtain ⟨snapshot, readFrom, looks, sameId⟩ :=
      kept.reads (mirrored.regular present) lasting (Store.writable_of_takes taken)
    exact ⟨snapshot, ⟨looks, sameId⟩, readFrom⟩
  obtain ⟨reads, alike, fromShelf⟩ := exists_reads
  have distinct : Table.Distinct reads := by
    unfold Table.Distinct
    rw [← fromShelf.names_eq]
    exact distinctShelf
  have valid : ∀ entry ∈ reads, entry.2.manifest.Valid ∧
      (Template.ofSnapshot entry.2).id = entry.1 := by
    intro entry member
    obtain ⟨text, _, value, _, read⟩ := fromShelf.exists_of_mem member
    obtain ⟨template, isHeld, _, sameId⟩ := alike.exists_of_mem member
    obtain ⟨_, _, _, heldId⟩ := mirrored.indexed.entry isHeld
    exact ⟨(Snapshot.valid_of_read read).manifest, sameId.trans heldId⟩
  have names : session.store.ids = Table.names reads :=
    (Store.ids_eq_names_shelf mirrored.sequential).trans fromShelf.names_eq
  refine ⟨reads, Store.snapshots_eq distinct names fun entry member => ?_, distinct, valid,
    alike.imp fun both => both.1⟩
  obtain ⟨text, stands, readFrom⟩ := fromShelf.exists_of_mem member
  obtain ⟨manifestValid, sameId⟩ := valid entry member
  exact Store.snapshot?_of_readFrom mirrored.sequential (sameId ▸ manifestValid.id)
    (Table.get?_of_mem distinctShelf stands) readFrom

/-- Over the store of a session that it mirrors, all that is held is held again. -/
theorem opened_of_mirrored
    {session : Session}
    (mirrored : Mirrored session)
    (durable : Durable session)
    (config : StudioConfig) :
    let again := opened config session.store
    again.1 = .ok () ∧ Table.Pairs Template.Alike session.entries again.2.entries ∧
      again.2.current = session.current := by
  obtain ⟨reads, given, distinct, valid, alike⟩ := snapshots_of_mirrored mirrored durable
  obtain ⟨_, entries, _⟩ := @holding_spec session.store reads config distinct valid
  have opens : opened config session.store = _ :=
    resultOf_takeOver config distinct valid given mirrored.marker fun id isCurrent => by
      rw [← alike.names_eq, names_entries mirrored.indexed.inRange]
      exact (holds_iff_mem_names session id).1 (mirrored.current id isCurrent)
  intro again
  change (opened config session.store).1 = _ ∧ Table.Pairs _ _ (opened _ _).2.entries ∧
    (opened _ _).2.current = _
  rw [opens]
  refine ⟨rfl, ?_, rfl⟩
  change Table.Pairs _ _ (holding config session.store reads).entries
  rw [entries]
  exact alike.mapEntries

/-! ## From an empty store on -/

/-- An empty store in memory or in a database, at any time. -/
inductive Vacant : Store -> Prop where
  | memory (clock : Moment) : Vacant { backend := .memory {}, clock }
  | database (clock : Moment) : Vacant { backend := .database {}, clock }

section Vacant

variable {store : Store} (vacant : Vacant store) (config : StudioConfig)
include vacant

/-- The store mirrors a session that holds nothing. -/
theorem mirrored_of_vacant : Mirrored { config, store } where
  indexed := ⟨List.nodup_nil, fun held => (nomatch held), fun present => (nomatch present)⟩
  regular present := nomatch present
  sequential := by
    cases vacant with
    | memory clock => exact .memory _ _
    | database clock => exact .database .nil fun _ member => nomatch member
  shelf := by
    cases vacant <;> exact .nil
  marker := by
    cases vacant <;> rfl
  current _ isCurrent := nomatch isCurrent

/-- A session begins with nothing over an empty store. -/
theorem opened_of_vacant : opened config store = (.ok (), { config, store }) := by
  have mirrored := mirrored_of_vacant vacant config
  have distinct : Table.Distinct ([] : Table Snapshot) := List.nodup_nil
  have names : store.ids = Table.names ([] : Table Snapshot) := by
    rw [Store.ids_eq_names_shelf mirrored.sequential]
    cases vacant <;> rfl
  have snapshots := Store.snapshots_eq distinct names fun _ member => nomatch member
  exact @resultOf_takeOver store [] config distinct (fun _ member => nomatch member) snapshots none
    mirrored.marker fun _ isCurrent => nomatch isCurrent

end Vacant

/-- A session that began over an empty store is reproduced by another one over its store: whatever
commands were carried out, the same templates are held under the same ids and in the same order, and
the same one is current.  No command installed component source; at every point the store took every
template that was held; and the templates that are held in the end last. -/
theorem restart_reproduces_session
    {store : Store}
    (vacant : Vacant store)
    (config : StudioConfig)
    (commands : List Command)
    (installNone : ∀ command ∈ commands, command.installsComponent = false)
    (allTaken : ∀ before, before <+: commands ->
      AllTaken (performAll before (opened config store).2))
    (lasting : ∀ entry ∈ (performAll commands (opened config store).2).entries, entry.2.Lasting)
    (again : StudioConfig) :
    let session := performAll commands (opened config store).2
    let later := opened again session.store
    later.1 = .ok () ∧ Table.Pairs Template.Alike session.entries later.2.entries ∧
      later.2.current = session.current := by
  rw [opened_of_vacant vacant config] at allTaken lasting ⊢
  have mirrored := (mirrored_of_vacant vacant config).performAll commands installNone allTaken
  exact opened_of_mirrored mirrored
    (fun entry member => ⟨allTaken commands (List.prefix_refl commands) entry member,
      lasting entry member⟩) again

/-- The import of a manifest with an id and a name. -/
def importsDemo : Command :=
  .importTemplate { manifest := .obj [("id", .str "demo"), ("name", .str "Demo")] } (.str "skip")

/-- A template that was imported into a database is there again. -/
theorem imported_template_after_restart :
    let session := performAll [importsDemo] (opened {} { backend := .database {} }).2
    let later := opened {} session.store
    Table.names session.entries = ["demo"] ∧ later.1 = .ok () ∧
      Table.Pairs Template.Alike session.entries later.2.entries ∧
      later.2.current = session.current := by
  have once : ∀ command ∈ [importsDemo], command.installsComponent = false := by decide
  have points (before : List Command) (isPrefix : before <+: [importsDemo]) :
      AllTaken (performAll before (opened {} { backend := .database {} }).2) := by
    have none_or_all : before = [] ∨ before = [importsDemo] := by
      rcases List.prefix_cons_iff.1 isPrefix with none | ⟨rest, same, isPrefix⟩
      · exact Or.inl none
      · exact Or.inr (same.trans (congrArg _ (List.prefix_nil.1 isPrefix)))
    unfold AllTaken
    rcases none_or_all with rfl | rfl <;> decide +kernel
  have lasting : ∀ entry ∈
      (performAll [importsDemo] (opened {} { backend := .database {} }).2).entries,
      entry.2.Lasting := by decide +kernel
  have names : Table.names
      (performAll [importsDemo] (opened {} { backend := .database {} }).2).entries = ["demo"] := by
    decide +kernel
  exact ⟨names, restart_reproduces_session (.database Moment.beginning) {} [importsDemo] once points
    lasting {}⟩

end Session
end BroadcastGraphics
