import BroadcastGraphics.Proofs.Identifiers
import BroadcastGraphics.Store
import Mathlib.Data.List.TakeWhile

/-!
# What a store keeps, in order

A store in memory and one in a database keep the same thing: texts under ids, in the order in which
the ids first came.  Both are seen as one table here, the shelf of the store.  Saving writes on the
shelf and deleting removes from it, as long as the rows of a database have been made one after
another; and what is listed and loaded is what stands on the shelf.
-/

namespace BroadcastGraphics

namespace Table

variable {α β : Type}

theorem remove_eq_filter
    (table : Table α)
    (name : String) : remove table name = table.filter fun entry => entry.1 != name := by
  induction table with
  | nil => rfl
  | cons entry rest ih =>
    rw [remove]
    split
    · rename_i here
      rw [ih, List.filter_cons_of_neg (by simp [here])]
    · rename_i elsewhere
      rw [ih, List.filter_cons_of_pos (by simp [elsewhere])]

end Table

namespace Store

/-! ## Rows of a database -/

section Rows

/-- The text of a row under its id. -/
def Row.entry (row : Row) : String × String :=
  (row.id, row.text)

namespace Database

/-- Writing a row writes its text under its id. -/
theorem map_entry_upsert
    (row : Row)
    (rows : List Row) :
    (upsert row rows).map Row.entry = Table.put (rows.map Row.entry) row.id row.text := by
  induction rows with
  | nil => rfl
  | cons old rest ih =>
    by_cases here : old.id = row.id
    · simp [upsert, Row.entry, Table.put, here]
    · simp [upsert, Row.entry, Table.put, here, ih]

/-- A row that is written keeps the moment of the old one, or it is the last one. -/
theorem made_upsert
    (row : Row)
    (rows : List Row) :
    (upsert row rows).map Row.made = rows.map Row.made ∨
      (upsert row rows).map Row.made = rows.map Row.made ++ [row.made] := by
  induction rows with
  | nil => exact Or.inr rfl
  | cons old rest ih =>
    unfold upsert
    split
    · exact Or.inl rfl
    · exact ih.imp (congrArg (old.made :: ·)) (congrArg (old.made :: ·))

/-- A row that is made later than all others keeps the rows in their order. -/
theorem pairwise_made_upsert
    {row : Row}
    {rows : List Row}
    (made : (rows.map Row.made).Pairwise (· < ·))
    (later : ∀ moment ∈ rows.map Row.made, moment < row.made) :
    ((upsert row rows).map Row.made).Pairwise (· < ·) := by
  rcases made_upsert row rows with same | last
  · exact same ▸ made
  · rw [last]
    exact List.pairwise_append.2 ⟨made, List.pairwise_singleton _ _, fun moment old =>
      List.forall_mem_singleton.2 (later moment old)⟩

theorem mem_made_upsert
    {row : Row}
    {rows : List Row}
    {moment : Moment}
    (member : moment ∈ (upsert row rows).map Row.made) :
    moment ∈ rows.map Row.made ∨ moment = row.made := by
  rcases made_upsert row rows with same | last
  · exact Or.inl (same ▸ member)
  · rw [last] at member
    exact (List.mem_append.1 member).imp_right List.mem_singleton.1

theorem map_entry_without
    (id : String)
    (rows : List Row) :
    (without id rows).map Row.entry = Table.remove (rows.map Row.entry) id := by
  rw [Table.remove_eq_filter, List.filter_map]
  rfl

theorem text_row?
    (database : Database)
    (id : String) :
    (database.row? id).map Row.text = Table.get? (database.rows.map Row.entry) id := by
  unfold row?
  induction database.rows with
  | nil => rfl
  | cons row rest ih =>
    by_cases here : row.id = id
    · simp [Row.entry, Table.get?, here]
    · simp [Row.entry, Table.get?, here, ih]

/-- Rows that were made one after another are listed as they stand. -/
theorem listed_eq
    {database : Database}
    (made : (database.rows.map Row.made).Pairwise (· < ·)) : database.listed = database.rows := by
  refine List.mergeSort_of_pairwise ((List.pairwise_map.1 made).imp fun {first second} earlier => ?_)
  unfold Row.before
  rw [decide_eq_true earlier, Bool.true_or]

end Database

end Rows

/-- The text can be encoded: it holds no half of a pair. -/
def Encodable (text : String) : Prop :=
  ∀ character ∈ text.toList, Text.HalfPair.isHalf character = false

instance (text : String) : Decidable (Encodable text) :=
  inferInstanceAs (Decidable (∀ character ∈ text.toList, _))

theorem Encodable.firstRun?_eq_none
    {text : String}
    (encodable : Encodable text) : Text.HalfPair.firstRun? text.toList = none := by
  unfold Text.HalfPair.firstRun?
  rw [List.dropWhile_eq_nil_iff.2 fun character member => ?_]
  · rfl
  · rw [encodable character member]
    rfl

/-- A text that can be encoded can be bound to a statement. -/
theorem Encodable.bindable
    {text : String}
    (encodable : Encodable text) : Database.bindable text = .ok text := by
  unfold Database.bindable
  rw [encodable.firstRun?_eq_none]

theorem encodable_of_isSlug
    {id : String}
    (slug : Identifier.isSlug id = true) : Encodable id := fun character member =>
  Identifier.isHalf_eq_false (Identifier.toNat_le_of_isSlug slug character member)

/-- An id of a template can be bound to a statement. -/
theorem Database.bindable_of_isSlug
    {id : String}
    (slug : Identifier.isSlug id = true) : Database.bindable id = .ok id :=
  (encodable_of_isSlug slug).bindable

/-! ## The shelf -/

/-- The texts that a store keeps under ids, in the order in which the ids came. -/
def shelf (store : Store) : Table String :=
  match store.backend with
  | .memory memory => memory.texts
  | .database database => database.rows.map Row.entry
  | .directory _ => []

/-- The store lies in memory, or in a database whose rows were made one after another, and it does
not fail of itself. -/
inductive Sequential : Store -> Prop where
  | memory (memory : Memory) (clock : Moment) : Sequential { backend := .memory memory, clock }
  | database {database : Database} {clock : Moment}
      (made : (database.rows.map Row.made).Pairwise (· < ·))
      (past : ∀ moment ∈ database.rows.map Row.made, moment < clock) :
      Sequential { backend := .database database, clock }

/-- One store comes from another one: it is still sequential, and accepts the same snapshots. -/
structure Follows (before after : Store) : Prop where
  sequential : after.Sequential
  outcomes : ∀ id snapshot, (after.save id snapshot).2 = (before.save id snapshot).2

section Follows

variable {store : Store} (sequential : store.Sequential)

theorem Follows.refl
    {store : Store}
    (sequential : store.Sequential) : Follows store store :=
  ⟨sequential, fun _ _ => rfl⟩

theorem Follows.trans
    {before between after : Store}
    (first : Follows before between)
    (second : Follows between after) : Follows before after :=
  ⟨second.sequential, fun id snapshot => (second.outcomes id snapshot).trans (first.outcomes id snapshot)⟩

/-- A database accepts the same snapshots whatever it holds and at whatever time. -/
theorem outcome_save_database
    (database : Database)
    (clock : Moment)
    (id : String)
    (snapshot : Json) :
    (save { backend := .database database, clock } id snapshot).2 =
      (Database.rowName id snapshot).map fun _ => () := by
  change (Database.save database clock id snapshot).2 = _
  unfold Database.save
  cases Database.rowName id snapshot <;> rfl

/-- A database forgets the row with an id that can be bound. -/
theorem delete_database
    {database : Database}
    (clock : Moment)
    {id : String}
    (bindable : Database.bindable id = .ok id) :
    delete { backend := .database database, clock } id =
      ({ backend := .database (database.delete id), clock }, .ok (database.holds id)) := by
  unfold delete
  simp only [bindable]

include sequential

theorem follows_save
    (id : String)
    (snapshot : Json) : Follows store (store.save id snapshot).1 := by
  cases sequential with
  | memory memory clock => exact ⟨.memory _ _, fun _ _ => rfl⟩
  | @database database clock made past =>
    have passed : ∀ moment ∈ database.rows.map Row.made, moment < clock + Moment.second :=
      fun moment member => Nat.lt_add_right _ (past moment member)
    have saved : (Store.mk (.database (Database.save database clock id snapshot).1)
        (clock + Moment.second) false false).Sequential := by
      unfold Database.save
      split
      · exact .database made passed
      · rename_i name _
        refine .database (Database.pairwise_made_upsert made past) fun moment member => ?_
        rcases Database.mem_made_upsert member with old | rfl
        · exact passed moment old
        · exact Nat.lt_add_of_pos_right (by decide)
    refine ⟨saved, fun other given => ?_⟩
    rw [outcome_save_database]
    exact outcome_save_database _ _ _ _

theorem shelf_save
    {id : String}
    {snapshot : Json}
    (saved : (store.save id snapshot).2 = .ok ()) :
    (store.save id snapshot).1.shelf = Table.put store.shelf id (snapshot.literal none) := by
  cases sequential with
  | memory memory clock => rfl
  | @database database clock made past =>
    change ((Database.save database clock id snapshot).1.rows).map Row.entry = _
    rw [outcome_save_database] at saved
    unfold Database.save
    cases named : Database.rowName id snapshot with
    | error fault =>
      rw [named] at saved
      cases saved
    | ok name => exact Database.map_entry_upsert _ _

theorem shelf_save_of_error
    {id : String}
    {snapshot : Json}
    {fault : Fault}
    (failed : (store.save id snapshot).2 = .error fault) :
    (store.save id snapshot).1.shelf = store.shelf := by
  cases sequential with
  | memory memory clock => cases failed
  | @database database clock made past =>
    change ((Database.save database clock id snapshot).1.rows).map Row.entry = _
    rw [outcome_save_database] at failed
    unfold Database.save
    cases named : Database.rowName id snapshot with
    | error fault => rfl
    | ok name =>
      rw [named] at failed
      cases failed

theorem marker_save
    (id : String)
    (snapshot : Json) : (store.save id snapshot).1.marker = store.marker := by
  cases sequential with
  | memory memory clock => rfl
  | @database database clock made past =>
    change Except.ok (Json.ofText? (Database.save database clock id snapshot).1.marker) = _
    unfold Database.save
    split <;> rfl

section Delete

variable {id : String} (bindable : Database.bindable id = .ok id)
include bindable

theorem follows_delete : Follows store (store.delete id).1 := by
  cases sequential with
  | memory memory clock => exact ⟨.memory _ _, fun _ _ => rfl⟩
  | @database database clock made past =>
    have among : ((Database.without id database.rows).map Row.made).Sublist
        (database.rows.map Row.made) := List.filter_sublist.map Row.made
    rw [delete_database clock bindable]
    refine ⟨.database (made.sublist among) fun moment member => past moment (among.subset member),
      fun other given => ?_⟩
    exact (outcome_save_database _ _ _ _).trans (outcome_save_database _ _ _ _).symm

theorem outcome_delete : ∃ known, (store.delete id).2 = .ok known := by
  cases sequential with
  | memory memory clock => exact ⟨_, rfl⟩
  | @database database clock made past => exact ⟨_, congrArg Prod.snd (delete_database clock bindable)⟩

theorem shelf_delete : (store.delete id).1.shelf = Table.remove store.shelf id := by
  cases sequential with
  | memory memory clock => rfl
  | @database database clock made past =>
    rw [delete_database clock bindable]
    exact Database.map_entry_without id database.rows

theorem marker_delete : (store.delete id).1.marker = store.marker := by
  cases sequential with
  | memory memory clock => rfl
  | @database database clock made past =>
    rw [delete_database clock bindable]
    rfl

end Delete

/-- Marking an id, or none, only sets the marker. -/
theorem mark_id
    {id? : Option String}
    (bindable : ∀ id ∈ id?, Database.bindable id = .ok id) :
    ∃ after, store.mark (Json.ofText? id?) = (after, .ok ()) ∧ Follows store after ∧
      after.shelf = store.shelf ∧ after.marker = .ok (Json.ofText? id?) := by
  cases sequential with
  | memory memory clock => exact ⟨_, rfl, ⟨.memory _ _, fun _ _ => rfl⟩, rfl, rfl⟩
  | @database database clock made past =>
    have column : Database.columnText? (Json.ofText? id?) = .ok id? := by
      cases id? with
      | none => rfl
      | some id =>
        change (Database.bindable id).map some = _
        rw [bindable id rfl]
        rfl
    refine ⟨{ backend := .database { database with marker := id? }, clock }, ?_,
      ⟨.database made past, fun other given => ?_⟩, rfl, rfl⟩
    · have marked : Database.mark database (Json.ofText? id?) =
          .ok { database with marker := id? } := by
        rw [Database.mark, column]
        rfl
      unfold mark
      dsimp only
      rw [marked]
      rfl
    · rw [outcome_save_database, outcome_save_database]

/-- The ids that are listed are those on the shelf. -/
theorem ids_eq_names_shelf : store.ids = Table.names store.shelf := by
  cases sequential with
  | memory memory clock => rfl
  | @database database clock made past =>
    change database.listed.map Row.id = Table.names (database.rows.map Row.entry)
    rw [Database.listed_eq made, Table.names, List.map_map]
    rfl

theorem load_eq
    {id : String}
    (bindable : Database.bindable id = .ok id) :
    store.load id = Json.ofStoredText? (Table.get? store.shelf id) := by
  cases sequential with
  | memory memory clock => rfl
  | @database database clock made past =>
    change Database.load database id = _
    rw [Database.load, bindable]
    exact congrArg Json.ofStoredText? (database.text_row? id)

end Follows

/-! ## Reading everything -/

/-- The snapshots that are read, and the one under an id if it can be read. -/
def readingOn (store : Store) (read : Table Snapshot) (id : String) :
    Except Fault (Table Snapshot) :=
  (store.snapshot? id).map fun snapshot? => (snapshot?.map (Table.put read id)).getD read

theorem snapshots_eq_foldlM (store : Store) :
    store.snapshots = store.ids.foldlM store.readingOn [] := by
  unfold snapshots
  congr 1
  funext read id
  unfold readingOn
  rcases store.snapshot? id with _ | _ | _ <;> rfl

/-- If every text on the shelf is that of a snapshot, all of them are read, in order. -/
theorem snapshots_eq
    {store : Store}
    {reads : Table Snapshot}
    (distinct : Table.Distinct reads)
    (names : store.ids = Table.names reads)
    (each : ∀ entry ∈ reads, store.snapshot? entry.1 = .ok (some entry.2)) :
    store.snapshots = .ok reads := by
  have step : ∀ (rest before : Table Snapshot), Table.Distinct (before ++ rest) ->
      (∀ entry ∈ rest, store.snapshot? entry.1 = .ok (some entry.2)) ->
      (Table.names rest).foldlM store.readingOn before = .ok (before ++ rest) := by
    intro rest
    induction rest with
    | nil =>
      intro before _ _
      rw [List.append_nil]
      rfl
    | cons entry rest ih =>
      intro before distinct each
      have absent : entry.1 ∉ Table.names before := distinct.notMem_of_append
      rw [List.append_cons] at distinct
      have others := ih _ distinct fun later member => each later (List.mem_cons_of_mem _ member)
      have here : store.readingOn before entry.1 = .ok (before ++ [entry]) := by
        unfold readingOn
        rw [each entry List.mem_cons_self, ← Table.put_of_notMem absent]
        rfl
      rw [Table.names_cons, List.foldlM_cons, here]
      exact others.trans (congrArg Except.ok (List.append_cons before entry rest).symm)
  rw [snapshots_eq_foldlM, names]
  exact step reads [] distinct each

end Store
end BroadcastGraphics
