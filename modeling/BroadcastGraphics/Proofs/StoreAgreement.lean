import BroadcastGraphics.Proofs.StoreShelf
import BroadcastGraphics.Store.Command
import Mathlib.Data.List.Induction

/-!
# A database answers like a store in memory

Whatever is asked of a store in memory and of a database, one question after the other, both give the
same answers, provided that the clock moves on between the readings of it and that the texts which
name things can be encoded.  What the database tells about its rows is told by the questions that
were asked: a row stands for the saves under its id since the id was last absent.
-/

namespace BroadcastGraphics
namespace Store

/-! ## Runs -/

/-- A command that is carried out at a moment. -/
structure Step where
  moment : Moment
  command : Command

/-- Carry out a command at a moment. -/
def performAt (store : Store) (step : Step) : Store × Except Fault Json :=
  { store with clock := step.moment }.perform step.command

/-- The store after some steps. -/
def performAll (store : Store) (steps : List Step) : Store :=
  steps.foldl (fun store step => (store.performAt step).1) store

/-- The answers to some steps. -/
def answers : Store -> List Step -> List (Except Fault Json)
  | _, [] => []
  | store, step :: rest => (store.performAt step).2 :: answers (store.performAt step).1 rest

theorem performAll_concat
    (store : Store)
    (steps : List Step)
    (step : Step) :
    store.performAll (steps ++ [step]) = ((store.performAll steps).performAt step).1 :=
  List.foldl_concat _ _ _ _

theorem answers_concat
    (store : Store)
    (steps : List Step)
    (step : Step) :
    store.answers (steps ++ [step]) =
      store.answers steps ++ [((store.performAll steps).performAt step).2] := by
  induction steps generalizing store with
  | nil => rfl
  | cons first rest ih => exact congrArg _ (ih _)

/-- A command that every store can be asked: it names ids by texts that can be encoded, and saves only
snapshots in whose manifest the name is such a text. -/
inductive Command.Common : Command -> Prop where
  | save {id name : String} {snapshot : Json}
      (encodable : Encodable id)
      (named : Database.manifestName snapshot = .ok (.str name))
      (encodableName : Encodable name) : Common (.save (.str id) snapshot)
  | load {id : String} (encodable : Encodable id) : Common (.load (.str id))
  | delete {id : String} (encodable : Encodable id) : Common (.delete (.str id))
  | ids : Common .ids
  | mark {id? : Option String}
      (encodable : ∀ id ∈ id?, Encodable id) : Common (.mark (Json.ofText? id?))
  | marker : Common .marker
  | snapshots : Common .snapshots

/-- The command reads the clock. -/
def Command.readsClock : Command -> Bool
  | .save _ _ => true
  | _ => false

/-- The readings of the clock in some steps. -/
def readings (steps : List Step) : List Moment :=
  (steps.filter fun step => step.command.readsClock).map Step.moment

theorem readings_concat
    (steps : List Step)
    (step : Step) :
    readings (steps ++ [step]) =
      readings steps ++ if step.command.readsClock then [step.moment] else [] := by
  unfold readings
  rw [List.filter_append, List.map_append, List.filter_singleton]
  cases step.command.readsClock <;> rfl

/-! ## What stands under an id -/

/-- What a step does to the saves that stand under an id: a save comes last, and after a deletion
nothing stands there. -/
def standingAfter (id : String) (saves : List (Moment × Json)) (step : Step) :
    List (Moment × Json) :=
  match step.command with
  | .save (.str other) snapshot => if other = id then saves ++ [(step.moment, snapshot)] else saves
  | .delete (.str other) => if other = id then [] else saves
  | _ => saves

/-- The saves under an id since it was last absent, each with the moment at which it was made. -/
def standing (id : String) (steps : List Step) : List (Moment × Json) :=
  steps.foldl (standingAfter id) []

theorem standing_concat
    (id : String)
    (steps : List Step)
    (step : Step) :
    standing id (steps ++ [step]) = standingAfter id (standing id steps) step :=
  List.foldl_concat _ _ _ _

/-- What a row tells about the saves under its id: it was made at the first one and written at the
last one, with the name in the manifest of the last one. -/
structure Row.Records (row : Row) (saves : List (Moment × Json)) : Prop where
  made : saves.head?.map Prod.fst = some row.made
  written : saves.getLast?.map Prod.fst = some row.written
  name : saves.getLast?.map (fun save => Database.manifestName save.2) = some (.ok (.str row.name))

/-- There is a row only if something was saved. -/
theorem Row.Records.ne_nil
    {row : Row}
    {saves : List (Moment × Json)}
    (records : row.Records saves) : saves ≠ [] := by
  rintro rfl
  exact nomatch records.made

/-- A row that is made by a save records it if nothing was saved before. -/
theorem Row.records_first
    {id name text : String}
    {snapshot : Json}
    (named : Database.manifestName snapshot = .ok (.str name))
    (moment : Moment) :
    Row.Records ⟨id, name, text, moment, moment⟩ [(moment, snapshot)] where
  made := rfl
  written := rfl
  name := congrArg some named

/-- A row that is written over records one save more, and was made when it was. -/
theorem Row.Records.again
    {old : Row}
    {saves : List (Moment × Json)}
    (records : old.Records saves)
    {id name text : String}
    {snapshot : Json}
    (named : Database.manifestName snapshot = .ok (.str name))
    (moment : Moment) :
    Row.Records ⟨id, name, text, old.made, moment⟩ (saves ++ [(moment, snapshot)]) where
  made := by
    rw [List.head?_append_of_ne_nil _ records.ne_nil]
    exact records.made
  written := by
    rw [List.getLast?_concat]
    rfl
  name := by
    rw [List.getLast?_concat]
    exact congrArg some named

/-! ## Reading everything -/

/-- Stores that list the same ids and load the same under them have the same snapshots. -/
theorem snapshots_congr
    {store other : Store}
    (ids : store.ids = other.ids)
    (loads : ∀ id ∈ store.ids, store.load id = other.load id) :
    store.snapshots = other.snapshots := by
  have step : ∀ (rest : List String) (before : Table Snapshot),
      (∀ id ∈ rest, store.load id = other.load id) ->
      rest.foldlM store.readingOn before = rest.foldlM other.readingOn before := by
    intro rest
    induction rest with
    | nil => exact fun _ _ => rfl
    | cons id rest ih =>
      intro before loads
      obtain ⟨here, later⟩ := List.forall_mem_cons.1 loads
      have same : store.readingOn before id = other.readingOn before id := by
        unfold readingOn snapshot?
        rw [here]
      rw [List.foldlM_cons, List.foldlM_cons, same]
      exact congrArg _ (funext fun read => ih read later)
  rw [snapshots_eq_foldlM, snapshots_eq_foldlM, ← ids]
  exact step store.ids [] loads

/-! ## Writing rows -/

section Texts

variable {id name : String} (encodable : Encodable id)
include encodable

theorem columnText?_of_encodable : Database.columnText? (.str id) = .ok (some id) := by
  change (Database.bindable id).map some = _
  rw [encodable.bindable]
  rfl

/-- A snapshot with a name that can be encoded is saved under an id that can be. -/
theorem save_of_encodable
    {snapshot : Json}
    (named : Database.manifestName snapshot = .ok (.str name))
    (encodableName : Encodable name)
    (database : Database)
    (moment : Moment) :
    database.save moment id snapshot =
      ({ database with
        rows := Database.upsert ⟨id, name, snapshot.literal none, moment, moment⟩ database.rows },
        .ok ()) := by
  have row : Database.rowName id snapshot = .ok name := by
    unfold Database.rowName
    rw [named]
    change (Database.bindable id >>= fun _ => Database.columnText? (.str name) >>= _) = _
    rw [encodable.bindable, columnText?_of_encodable encodableName]
    rfl
  unfold Database.save
  rw [row]

end Texts

theorem mark_of_encodable
    {id? : Option String}
    (encodable : ∀ id ∈ id?, Encodable id)
    (database : Database) :
    database.mark (Json.ofText? id?) = .ok { database with marker := id? } := by
  have column : Database.columnText? (Json.ofText? id?) = .ok id? := by
    cases id? with
    | none => rfl
    | some id => exact columnText?_of_encodable (encodable id rfl)
  unfold Database.mark
  rw [column]
  rfl

section Rows

variable {row written : Row} {rows : List Row}

theorem map_id_eq_names (rows : List Row) :
    rows.map Row.id = Table.names (rows.map Row.entry) := by
  unfold Table.names
  rw [List.map_map]
  rfl

/-- After a row was written, every row is an old one of another id, or it is the new one: with the
moment of the old one of its id if there was one. -/
theorem mem_upsert
    (distinct : (rows.map Row.id).Nodup)
    (member : written ∈ Database.upsert row rows) :
    (written ∈ rows ∧ written.id ≠ row.id) ∨
      (∃ old ∈ rows, old.id = row.id ∧ written = { row with made := old.made }) ∨
      (row.id ∉ rows.map Row.id ∧ written = row) := by
  induction rows with
  | nil => exact Or.inr (Or.inr ⟨List.not_mem_nil, List.mem_singleton.1 member⟩)
  | cons old rest ih =>
    obtain ⟨fresh, distinctRest⟩ := List.nodup_cons.1 distinct
    unfold Database.upsert at member
    split at member
    · rename_i same
      rw [beq_iff_eq] at same
      rcases List.mem_cons.1 member with here | later
      · exact Or.inr (Or.inl ⟨old, List.mem_cons_self, same, here⟩)
      · refine Or.inl ⟨List.mem_cons_of_mem _ later, fun also => fresh ?_⟩
        exact same ▸ also ▸ List.mem_map_of_mem later
    · rename_i other
      rw [beq_iff_eq] at other
      rcases List.mem_cons.1 member with rfl | later
      · exact Or.inl ⟨List.mem_cons_self, other⟩
      · rcases ih distinctRest later with ⟨isOld, otherId⟩ | ⟨before, isOld, same, is⟩ | ⟨absent, is⟩
        · exact Or.inl ⟨List.mem_cons_of_mem _ isOld, otherId⟩
        · exact Or.inr (Or.inl ⟨before, List.mem_cons_of_mem _ isOld, same, is⟩)
        · refine Or.inr (Or.inr ⟨fun there => ?_, is⟩)
          rcases List.mem_cons.1 there with same | there
          · exact other same.symm
          · exact absent there

end Rows

/-! ## Agreement -/

/-- A store in memory and a database after the same steps: they hold the same texts in the same order
and the same marker, and the rows of the database were made one after another at readings of the clock
and record the saves that stand under their ids. -/
structure Agrees (steps : List Step) (memory : Memory) (database : Database) : Prop where
  texts : database.rows.map Row.entry = memory.texts
  marker : memory.marker = Json.ofText? database.marker
  encodable : ∀ row ∈ database.rows, Encodable row.id
  distinct : (database.rows.map Row.id).Nodup
  made : (database.rows.map Row.made).Pairwise (· < ·)
  read : ∀ moment ∈ database.rows.map Row.made, moment ∈ readings steps
  records : ∀ row ∈ database.rows, row.Records (standing row.id steps)
  absent : ∀ id, id ∉ database.rows.map Row.id -> standing id steps = []

section Agrees

variable {steps : List Step} {memory : Memory} {database : Database}

theorem agrees_nil : Agrees [] {} {} where
  texts := rfl
  marker := rfl
  encodable _ member := nomatch member
  distinct := List.nodup_nil
  made := List.Pairwise.nil
  read _ member := nomatch member
  records _ member := nomatch member
  absent _ _ := rfl

variable (agrees : Agrees steps memory database)
include agrees

/-- A step that writes nothing changes nothing. -/
theorem Agrees.passed
    {step : Step}
    (noReading : step.command.readsClock = false)
    (unchanged : ∀ id saves, standingAfter id saves step = saves) :
    Agrees (steps ++ [step]) memory database := by
  have sameReadings : readings (steps ++ [step]) = readings steps := by
    rw [readings_concat, noReading, if_neg Bool.false_ne_true, List.append_nil]
  have sameSaves (id : String) : standing id (steps ++ [step]) = standing id steps := by
    rw [standing_concat, unchanged]
  refine { agrees with read := ?_, records := fun row member => ?_, absent := fun id free => ?_ }
  · exact sameReadings ▸ agrees.read
  · exact sameSaves row.id ▸ agrees.records row member
  · exact (sameSaves id).trans (agrees.absent id free)

/-- What is saved is saved in both. -/
theorem Agrees.saved
    {id name : String}
    {snapshot : Json}
    {moment : Moment}
    (encodable : Encodable id)
    (named : Database.manifestName snapshot = .ok (.str name))
    (later : ∀ reading ∈ readings steps, reading < moment) :
    Agrees (steps ++ [⟨moment, .save (.str id) snapshot⟩]) (memory.save id snapshot)
      { database with
        rows := Database.upsert ⟨id, name, snapshot.literal none, moment, moment⟩ database.rows } := by
  have entries := Database.map_entry_upsert ⟨id, name, snapshot.literal none, moment, moment⟩
    database.rows
  have isRead : readings (steps ++ [⟨moment, .save (.str id) snapshot⟩]) =
      readings steps ++ [moment] := readings_concat _ _
  have saves (other : String) : standing other (steps ++ [⟨moment, .save (.str id) snapshot⟩]) =
      if id = other then standing other steps ++ [(moment, snapshot)] else standing other steps :=
    standing_concat _ _ _
  have ids := map_id_eq_names
    (Database.upsert ⟨id, name, snapshot.literal none, moment, moment⟩ database.rows)
  have distinctEntries : Table.Distinct (database.rows.map Row.entry) := by
    unfold Table.Distinct
    rw [← map_id_eq_names]
    exact agrees.distinct
  refine ⟨?_, agrees.marker, fun row member => ?_, ?_, ?_, ?_, fun row member => ?_,
    fun other free => ?_⟩
  · exact entries.trans (congrArg (Table.put · id (snapshot.literal none)) agrees.texts)
  · rcases mem_upsert agrees.distinct member with ⟨isOld, _⟩ | ⟨_, _, _, rfl⟩ | ⟨_, rfl⟩
    · exact agrees.encodable row isOld
    · exact encodable
    · exact encodable
  · rw [ids, entries]
    exact distinctEntries.put id _
  · exact Database.pairwise_made_upsert agrees.made fun reading old =>
      later reading (agrees.read reading old)
  · rw [isRead]
    intro reading member
    rcases Database.mem_made_upsert member with old | rfl
    · exact List.mem_append_left _ (agrees.read reading old)
    · exact List.mem_append_right _ (List.mem_singleton_self _)
  · rcases mem_upsert agrees.distinct member with ⟨isOld, other⟩ | ⟨old, isOld, same, rfl⟩ |
      ⟨absent, rfl⟩
    · rw [saves, if_neg (Ne.symm other)]
      exact agrees.records row isOld
    · rw [saves, if_pos rfl]
      have before := agrees.records old isOld
      rw [same] at before
      exact before.again named moment
    · rw [saves, if_pos rfl, agrees.absent id absent]
      exact Row.records_first named moment
  · rw [ids, entries, Table.mem_names_put, not_or, ← map_id_eq_names] at free
    rw [saves, if_neg (Ne.symm free.1)]
    exact agrees.absent other free.2

/-- What is deleted is deleted from both. -/
theorem Agrees.deleted
    (id : String)
    (moment : Moment) :
    Agrees (steps ++ [⟨moment, .delete (.str id)⟩]) (memory.delete id) (database.delete id) := by
  have among : (Database.without id database.rows).Sublist database.rows := List.filter_sublist
  have isRead : readings (steps ++ [⟨moment, .delete (.str id)⟩]) = readings steps :=
    (readings_concat _ _).trans (List.append_nil _)
  have saves (other : String) : standing other (steps ++ [⟨moment, .delete (.str id)⟩]) =
      if id = other then [] else standing other steps := standing_concat _ _ _
  refine ⟨?_, agrees.marker, fun row member => agrees.encodable row (among.subset member), ?_, ?_, ?_,
    fun row member => ?_, fun other free => ?_⟩
  · exact (Database.map_entry_without id database.rows).trans
      (congrArg (Table.remove · id) agrees.texts)
  · exact agrees.distinct.sublist (among.map Row.id)
  · exact agrees.made.sublist (among.map Row.made)
  · rw [isRead]
    exact fun reading member => agrees.read reading ((among.map Row.made).subset member)
  · have isOther : row.id ≠ id := bne_iff_ne.1 (List.mem_filter.1 member).2
    rw [saves, if_neg (Ne.symm isOther)]
    exact agrees.records row (among.subset member)
  · rw [saves]
    split
    · rfl
    · rename_i isOther
      refine agrees.absent other fun there => free ?_
      obtain ⟨row, isThere, rfl⟩ := List.mem_map.1 there
      exact List.mem_map_of_mem (List.mem_filter.2 ⟨isThere, bne_iff_ne.2 (Ne.symm isOther)⟩)

/-- What is marked is marked in both. -/
theorem Agrees.marked
    (id? : Option String)
    (moment : Moment) :
    Agrees (steps ++ [⟨moment, .mark (Json.ofText? id?)⟩]) (memory.mark (Json.ofText? id?))
      { database with marker := id? } :=
  have passed : Agrees (steps ++ [⟨moment, .mark (Json.ofText? id?)⟩]) memory database :=
    agrees.passed rfl fun _ _ => rfl
  { passed with marker := rfl }

/-! ### Answers -/

theorem Agrees.ids_eq : database.ids = memory.ids := by
  unfold Database.ids Memory.ids
  rw [Database.listed_eq agrees.made, map_id_eq_names, agrees.texts]

theorem Agrees.holds_eq (id : String) : database.holds id = memory.holds id := by
  have texts := Database.text_row? database id
  rw [agrees.texts] at texts
  unfold Database.holds Memory.holds Table.has
  rw [← texts, Option.isSome_map]

theorem Agrees.load_eq
    {id : String}
    (encodable : Encodable id) : database.load id = memory.load id := by
  unfold Database.load Memory.load
  rw [encodable.bindable, ← agrees.texts, ← Database.text_row?]
  rfl

/-- The same snapshots can be read. -/
theorem Agrees.snapshots_eq
    (clock other : Moment) :
    snapshots { backend := .database database, clock } =
      snapshots { backend := .memory memory, clock := other } := by
  refine snapshots_congr agrees.ids_eq fun id member => ?_
  change id ∈ database.ids at member
  unfold Database.ids at member
  rw [Database.listed_eq agrees.made] at member
  obtain ⟨row, isThere, rfl⟩ := List.mem_map.1 member
  exact agrees.load_eq (agrees.encodable row isThere)

end Agrees

/-! ### Steps and runs -/

/-- A store in memory and one in a database that agree after the same steps, whatever their clocks
show. -/
inductive Matched (steps : List Step) : Store -> Store -> Prop where
  | intro {memory : Memory} {database : Database}
      (agrees : Agrees steps memory database)
      (clock other : Moment) :
      Matched steps { backend := .memory memory, clock }
        { backend := .database database, clock := other }

/-- Both stores give the same answer to a step, and agree after it. -/
theorem Matched.step
    {steps : List Step}
    {inMemory inDatabase : Store}
    (matched : Matched steps inMemory inDatabase)
    {step : Step}
    (common : step.command.Common)
    (later : step.command.readsClock = true -> ∀ reading ∈ readings steps, reading < step.moment) :
    (inDatabase.performAt step).2 = (inMemory.performAt step).2 ∧
      Matched (steps ++ [step]) (inMemory.performAt step).1 (inDatabase.performAt step).1 := by
  obtain @⟨memory, database, agrees, clock, other⟩ := matched
  obtain ⟨moment, command⟩ := step
  cases common with
  | @save id name snapshot encodable named encodableName =>
    have saves := save_of_encodable encodable named encodableName database moment
    have answer : Store.performAt { backend := .database database, clock := other }
        ⟨moment, .save (.str id) snapshot⟩ = _ :=
      congrArg (fun (result : Database × Except Fault Unit) =>
        (({ backend := .database result.1, clock := moment } : Store).afterReading,
          result.2.map fun _ => Json.null)) saves
    rw [answer]
    exact ⟨rfl, .intro (agrees.saved encodable named (later rfl)) _ _⟩
  | @load id encodable =>
    refine ⟨?_, .intro (agrees.passed rfl fun _ _ => rfl) _ _⟩
    exact congrArg (Except.map fun snapshot => snapshot.getD .null) (agrees.load_eq encodable)
  | @delete id encodable =>
    have answer : Store.performAt { backend := .database database, clock := other }
        ⟨moment, .delete (.str id)⟩ =
          ({ backend := .database (database.delete id), clock := moment },
            .ok (.bool (database.holds id))) :=
      congrArg (fun (result : Store × Except Fault Bool) => (result.1, result.2.map Json.bool))
        (delete_database moment encodable.bindable)
    rw [answer]
    refine ⟨?_, .intro (agrees.deleted id moment) _ _⟩
    rw [agrees.holds_eq id]
    rfl
  | ids =>
    refine ⟨?_, .intro (agrees.passed rfl fun _ _ => rfl) _ _⟩
    exact congrArg (fun ids => Except.ok (Json.ofStrings ids)) agrees.ids_eq
  | @mark id? encodable =>
    have marks := mark_of_encodable encodable database
    have answer : Store.performAt { backend := .database database, clock := other }
        ⟨moment, .mark (Json.ofText? id?)⟩ =
          ({ backend := .database { database with marker := id? }, clock := moment }, .ok .null) := by
      unfold Store.performAt perform mark
      simp only [marks]
      rfl
    rw [answer]
    exact ⟨rfl, .intro (agrees.marked id? moment) _ _⟩
  | marker =>
    refine ⟨?_, .intro (agrees.passed rfl fun _ _ => rfl) _ _⟩
    exact congrArg Except.ok agrees.marker.symm
  | snapshots =>
    refine ⟨?_, .intro (agrees.passed rfl fun _ _ => rfl) _ _⟩
    unfold Store.performAt perform
    simp only [agrees.snapshots_eq moment moment]

/-- Both stores give the same answers to a run, and agree after it. -/
theorem matched_performAll
    (steps : List Step)
    (common : ∀ step ∈ steps, step.command.Common)
    (increasing : (readings steps).Pairwise (· < ·)) :
    (empty (.database {})).answers steps = (empty (.memory {})).answers steps ∧
      Matched steps ((empty (.memory {})).performAll steps)
        ((empty (.database {})).performAll steps) := by
  induction steps using List.reverseRecOn with
  | nil => exact ⟨rfl, .intro agrees_nil _ _⟩
  | append_singleton steps step ih =>
    obtain ⟨commonBefore, commonHere⟩ := List.forall_mem_append.1 common
    rw [readings_concat] at increasing
    obtain ⟨increasingBefore, _, after⟩ := List.pairwise_append.1 increasing
    obtain ⟨sameAnswers, matched⟩ := ih commonBefore increasingBefore
    have isLater (reads : step.command.readsClock = true) :
        ∀ reading ∈ readings steps, reading < step.moment := fun reading before =>
      after reading before step.moment (by rw [if_pos reads]; exact List.mem_singleton.2 rfl)
    obtain ⟨sameAnswer, next⟩ :=
      matched.step (commonHere step (List.mem_singleton.2 rfl)) isLater
    refine ⟨?_, ?_⟩
    · rw [answers_concat, answers_concat, sameAnswers, sameAnswer]
    · rw [performAll_concat, performAll_concat]
      exact next

/-- A database answers like a store in memory, question for question, if every reading of its clock is
later than the ones before.  It tells of one row for every id that is stored, in the order in which
the ids are listed, with the name of the snapshot that was saved last, the moment at which one was
first saved since the id was last absent, and the moment at which one was saved last. -/
theorem database_answers_like_memory
    (steps : List Step)
    (common : ∀ step ∈ steps, step.command.Common)
    (increasing : (readings steps).Pairwise (· < ·)) :
    (empty (.database {})).answers steps = (empty (.memory {})).answers steps ∧
      ∃ rows : List Row,
        ((empty (.database {})).performAll steps).summaries = rows.map Row.summary ∧
        rows.map Row.id = ((empty (.memory {})).performAll steps).ids ∧
        (rows.map Row.id).Nodup ∧
        (∀ row ∈ rows, row.Records (standing row.id steps)) ∧
        ∀ id, id ∈ rows.map Row.id ↔ standing id steps ≠ [] := by
  obtain ⟨sameAnswers, matched⟩ := matched_performAll steps common increasing
  refine ⟨sameAnswers, ?_⟩
  generalize (empty (.memory {})).performAll steps = inMemory at matched ⊢
  generalize (empty (.database {})).performAll steps = inDatabase at matched ⊢
  cases matched with
  | @intro memory database agrees clock other =>
    have listed : database.listed = database.rows := Database.listed_eq agrees.made
    refine ⟨database.rows, ?_, ?_, agrees.distinct, agrees.records, fun id => ⟨?_, ?_⟩⟩
    · exact congrArg (List.map Row.summary) listed
    · exact (congrArg (List.map Row.id) listed).symm.trans agrees.ids_eq
    · intro member
      obtain ⟨row, isThere, rfl⟩ := List.mem_map.1 member
      exact (agrees.records row isThere).ne_nil
    · intro saved
      by_contra absent
      exact saved (agrees.absent id absent)

/-- A snapshot with a name in its manifest and nothing else. -/
def namedSnapshot (name : String) : Json :=
  .obj [("manifest", .obj [("name", .str name)])]

/-- A row that is written again keeps its place and the moment at which it was made, and one that is
saved after it was deleted comes last. -/
theorem rows_after_rewriting_and_deletion :
    let steps : List Step :=
      [⟨1, .save (.str "a") (namedSnapshot "First")⟩, ⟨2, .save (.str "b") (namedSnapshot "Other")⟩,
        ⟨3, .save (.str "a") (namedSnapshot "Second")⟩, ⟨4, .ids⟩, ⟨4, .delete (.str "a")⟩,
        ⟨4, .load (.str "a")⟩, ⟨5, .save (.str "a") (namedSnapshot "Third")⟩, ⟨5, .ids⟩]
    (empty (.database {})).answers steps = (empty (.memory {})).answers steps ∧
      (empty (.memory {})).answers steps =
        [.ok .null, .ok .null, .ok .null, .ok (.ofStrings ["a", "b"]), .ok (.bool true), .ok .null,
          .ok .null, .ok (.ofStrings ["b", "a"])] := by
  intro steps
  have named (name : String) : Database.manifestName (namedSnapshot name) = .ok (.str name) := rfl
  have common : ∀ step ∈ steps, step.command.Common := by
    simp only [steps, List.forall_mem_cons, List.not_mem_nil, false_implies, implies_true, and_true]
    refine ⟨.save ?_ (named _) ?_, .save ?_ (named _) ?_, .save ?_ (named _) ?_, .ids, .delete ?_,
      .load ?_, .save ?_ (named _) ?_, .ids⟩ <;> decide
  exact ⟨(database_answers_like_memory steps common (by decide)).1, by decide +kernel⟩

/-- A text with half of a pair names something in memory and nothing in a database. -/
theorem half_refused_by_database :
    let half := String.singleton (Text.HalfPair.ofUnit 0xd800)
    let steps : List Step := [⟨1, .save (.str half) (namedSnapshot "Demo")⟩]
    (empty (.memory {})).answers steps = [.ok .null] ∧
      (empty (.database {})).answers steps = [.error (.unencodable ⟨0, 0xd800, 1⟩)] := by
  decide +kernel

end Store
end BroadcastGraphics
