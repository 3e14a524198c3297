import BroadcastGraphics.Proofs.SessionEntries
import BroadcastGraphics.Proofs.TemplateText

/-!
# The store mirrors the session

A session writes through: what it holds and the store takes stands on the shelf of the store, under
the same ids and in the same order, and the marker names the current template.  Everything that is
not an edit keeps this, even where the store does not take a template; an edit keeps it as long as
the store takes every template that is held before and afterwards.
-/

namespace BroadcastGraphics

/-! ## What a store takes -/

namespace Store

open Session (savedIn)

/-- The store takes the template: it can be written and saved. -/
def takes (store : Store) (template : Template) : Bool :=
  (savedIn store template).2.isOk

section Takes

variable {store : Store} {template : Template}

theorem takes_iff : store.takes template = true ↔ (savedIn store template).2 = .ok () := by
  unfold takes
  cases (savedIn store template).2 with
  | ok _ => exact ⟨fun _ => rfl, fun _ => rfl⟩
  | error fault => exact ⟨fun taken => (nomatch taken), fun taken => (nomatch taken)⟩

/-- What is taken can be written, and its written form is saved. -/
theorem writable_of_takes (taken : store.takes template = true) : template.Writable := by
  by_contra unwritable
  have outcome := takes_iff.1 taken
  rw [savedIn, template.written_of_not_writable unwritable] at outcome
  cases outcome

theorem savedIn_of_writable (writable : template.Writable) :
    savedIn store template = store.save template.id template.toJson := by
  rw [savedIn, template.written_of_writable writable]

/-- Stores that follow one another take the same templates. -/
theorem Follows.takes_eq
    {after : Store}
    (follows : Follows store after)
    (template : Template) : after.takes template = store.takes template := by
  unfold takes savedIn
  cases template.written with
  | error fault => rfl
  | ok written =>
    dsimp only
    rw [follows.outcomes]

variable (sequential : store.Sequential)
include sequential

/-- Whether a template that can be written is taken depends on its id and its manifest as it is
written. -/
theorem takes_eq_of_toJson
    {other : Template}
    (sameId : other.id = template.id)
    (sameWritable : other.Writable ↔ template.Writable)
    (sameManifest : other.manifest.toJson = template.manifest.toJson) :
    store.takes other = store.takes template := by
  have sameName (id : String) :
      Database.rowName id other.toJson = Database.rowName id template.toJson := by
    unfold Database.rowName Template.toJson Snapshot.toJson Snapshot.members Template.snapshot
    rw [sameManifest]
    rfl
  unfold takes
  by_cases writable : template.Writable
  · rw [savedIn_of_writable writable, savedIn_of_writable (sameWritable.2 writable)]
    cases sequential with
    | memory memory clock => rfl
    | database made past =>
      rw [outcome_save_database, outcome_save_database, sameName, sameId]
  · have alsoUnwritable : ¬ other.Writable := fun also => writable (sameWritable.1 also)
    unfold savedIn
    rw [template.written_of_not_writable writable, other.written_of_not_writable alsoUnwritable]

theorem takes_eq_of_manifest
    {other : Template}
    (same : other.manifest = template.manifest) : store.takes other = store.takes template := by
  refine takes_eq_of_toJson sequential (congrArg Manifest.id same) ?_ (congrArg _ same)
  unfold Template.Writable
  rw [same]

theorem follows_savedIn (template : Template) : Follows store (savedIn store template).1 := by
  unfold savedIn
  cases template.written with
  | error fault => exact .refl sequential
  | ok written => exact follows_save sequential _ _

theorem marker_savedIn (template : Template) :
    (savedIn store template).1.marker = store.marker := by
  unfold savedIn
  cases template.written with
  | error fault => rfl
  | ok written => exact marker_save sequential _ _

/-- What is taken stands on the shelf. -/
theorem shelf_savedIn (taken : store.takes template = true) :
    (savedIn store template).1.shelf =
      Table.put store.shelf template.id (template.toJson.literal none) := by
  have outcome := takes_iff.1 taken
  rw [savedIn_of_writable (writable_of_takes taken)] at outcome ⊢
  exact shelf_save sequential outcome

/-- What is not taken leaves the shelf as it was. -/
theorem shelf_savedIn_of_not (refused : store.takes template = false) :
    (savedIn store template).1.shelf = store.shelf := by
  unfold takes savedIn at refused
  unfold savedIn
  cases wrote : template.written with
  | error fault => rfl
  | ok written =>
    rw [wrote] at refused
    dsimp only at refused ⊢
    cases saved : (store.save template.id written).2 with
    | ok _ =>
      rw [saved] at refused
      cases refused
    | error fault => exact shelf_save_of_error sequential saved

end Takes

end Store

/-! ## Texts of templates -/

namespace Template

/-- The text is one of the template: of what it is, or of what it was before its component source was
made. -/
def Kept (template : Template) (text : String) : Prop :=
  ∃ stored : Template, SameContent stored template ∧
    (stored.component = template.component ∨
      stored.component = none ∧ template.component = some template.generated) ∧
    text = stored.toJson.literal none

theorem kept_literal (template : Template) : template.Kept (template.toJson.literal none) :=
  ⟨template, .refl template, Or.inl rfl, rfl⟩

/-- A call that changes neither content nor component source leaves the text one of the template. -/
theorem Kept.of_sameContent
    {template after : Template}
    {text : String}
    (kept : template.Kept text)
    (same : SameContent template after)
    (component : after.component = template.component) : after.Kept text := by
  obtain ⟨stored, content, source, rfl⟩ := kept
  refine ⟨stored, content.trans same, ?_, rfl⟩
  rw [component, same.generated_eq]
  exact source

/-- So does reading the component source. -/
theorem Kept.readComponent
    {template : Template}
    {text : String}
    (kept : template.Kept text) : template.readComponent.template.Kept text := by
  obtain ⟨stored, content, source, rfl⟩ := kept
  have same := template.sameContent_readComponent
  refine ⟨stored, content.trans same, ?_, rfl⟩
  rw [template.readComponent_component, same.generated_eq]
  rcases source with as | ⟨without, made⟩
  · rw [as]
    cases template.component with
    | none => exact Or.inr ⟨rfl, rfl⟩
    | some source => exact Or.inl rfl
  · rw [made]
    exact Or.inr ⟨without, rfl⟩

end Template
/-! ## The mirror -/

namespace Session

/-- On the shelf of the store stands what the session holds and the store takes, in order. -/
structure Shelved (session : Session) : Prop where
  indexed : Indexed session
  regular : ∀ {number template}, session.template? number = some template -> template.Regular
  sequential : session.store.Sequential
  shelf : Table.Pairs Template.Kept
    (session.entries.filter fun entry => session.store.takes entry.2) session.store.shelf

/-- The store mirrors the session: what stands on its shelf is held, and the marker names the current
template, which is held as well. -/
structure Mirrored (session : Session) : Prop extends Shelved session where
  marker : session.store.marker = .ok (Json.ofText? session.current)
  current : ∀ id ∈ session.current, session.holds id = true

/-- What is held is held under an id that can be bound to a statement of a database. -/
theorem Indexed.bindable_of_holds
    {session : Session}
    (indexed : Indexed session)
    {id : String}
    (held : session.holds id = true) : Store.Database.bindable id = .ok id := by
  unfold holds Table.has at held
  obtain ⟨number, leads⟩ := Option.isSome_iff_exists.1 held
  obtain ⟨template, present, rfl⟩ := indexed.leads leads
  exact Store.Database.bindable_of_isSlug (indexed.valid present).id

section Shelved

variable {session : Session} (shelved : Shelved session)
include shelved

/-- The shelf is as it was while index, templates and shelf are. -/
theorem Shelved.congr
    {later : Session}
    (sameIndex : later.index = session.index)
    (sameTemplates : later.templates = session.templates)
    (follows : Store.Follows session.store later.store)
    (sameShelf : later.store.shelf = session.store.shelf) : Shelved later := by
  have sameEntries := entries_congr sameIndex sameTemplates
  refine ⟨shelved.indexed.congr sameIndex sameTemplates, fun {number template} present => ?_,
    follows.sequential, ?_⟩
  · unfold template? at present
    rw [sameTemplates] at present
    exact shelved.regular present
  · simp only [sameEntries, sameShelf, follows.takes_eq]
    exact shelved.shelf

/-- No text stands under an id that is not held. -/
theorem Shelved.notMem_shelf
    {id : String}
    (free : session.holds id = false) : id ∉ Table.names session.store.shelf := by
  rw [← shelved.shelf.names_eq]
  intro member
  obtain ⟨entry, isTaken, rfl⟩ := List.mem_map.1 member
  obtain ⟨number, held, _, _⟩ := shelved.indexed.entry (List.mem_filter.1 isTaken).1
  rw [holds_of_number? held] at free
  cases free

/-- Making a held template the current one, or none, brings the marker up to date. -/
theorem Shelved.makeCurrent
    (id? : Option String)
    (held : ∀ id ∈ id?, session.holds id = true) :
    ∃ after, resultOf (makeCurrent id?) session = (.ok (), after) ∧ Mirrored after ∧
      after.index = session.index ∧ after.templates = session.templates ∧
      Store.Follows session.store after.store ∧ after.store.shelf = session.store.shelf := by
  obtain ⟨marked, marks, follows, sameShelf, marker⟩ := Store.mark_id shelved.sequential
    fun id isCurrent => shelved.indexed.bindable_of_holds (held id isCurrent)
  rw [resultOf_makeCurrent, marks]
  exact ⟨_, rfl, ⟨shelved.congr rfl rfl follows sameShelf, marker, held⟩, rfl, rfl, follows,
    sameShelf⟩

/-- A template that comes in under a free id comes last, in the session and on the shelf. -/
theorem Shelved.added
    {template : Template}
    (regular : template.Regular)
    (free : session.holds template.id = false) :
    Shelved { session.tracked template with store := (savedIn session.store template).1 } := by
  have follows := Store.follows_savedIn shelved.sequential template
  have last := entries_tracked shelved.indexed.inRange (number?_eq_none_of_holds free)
  refine ⟨(shelved.indexed.tracked regular.manifest).congr rfl rfl, fun {number found} present => ?_,
    follows.sequential, ?_⟩
  · change (session.templates ++ [template])[number]? = some found at present
    rcases List.mem_append.1 (List.mem_of_getElem? present) with old | new
    · obtain ⟨place, here⟩ := List.mem_iff_getElem?.1 old
      exact shelved.regular here
    · exact List.mem_singleton.1 new ▸ regular
  · change Table.Pairs _ ((session.tracked template).entries.filter _) _
    simp only [last, follows.takes_eq, List.filter_append]
    cases taken : session.store.takes template with
    | true =>
      simp only [Store.shelf_savedIn shelved.sequential taken,
        Table.put_of_notMem (shelved.notMem_shelf free), List.filter_cons, List.filter_nil, taken,
        if_true]
      exact shelved.shelf.append (.cons ⟨rfl, template.kept_literal⟩ .nil)
    | false =>
      simp only [Store.shelf_savedIn_of_not shelved.sequential taken, List.filter_cons,
        List.filter_nil, taken, Bool.false_eq_true, if_false, List.append_nil]
      exact shelved.shelf

/-- A template that goes leaves the session and the shelf. -/
theorem Shelved.released
    {id : String}
    (held : session.holds id = true) :
    Shelved { session with
      index := Table.remove session.index id, store := (session.store.delete id).1 } := by
  have bindable := shelved.indexed.bindable_of_holds held
  have follows := Store.follows_delete shelved.sequential bindable
  refine ⟨(shelved.indexed.released id).congr rfl rfl, shelved.regular, follows.sequential, ?_⟩
  change Table.Pairs _ (List.filter _
    ({ session with index := Table.remove session.index id } : Session).entries) _
  simp only [entries_released, follows.takes_eq, Store.shelf_delete shelved.sequential bindable]
  have commute : (Table.remove session.entries id).filter
        (fun entry => session.store.takes entry.2) =
      Table.remove (session.entries.filter fun entry => session.store.takes entry.2) id := by
    rw [Table.remove_eq_filter, Table.remove_eq_filter, List.filter_filter, List.filter_filter]
    exact List.filter_congr fun entry _ => Bool.and_comm _ _
  rw [commute]
  exact shelved.shelf.remove id

/-- A template may be replaced by one of the same manifest of which all its texts are. -/
theorem Shelved.withTemplate
    {number : Nat}
    {template after : Template}
    (present : session.template? number = some template)
    (regular : after.Regular)
    (sameManifest : after.manifest = template.manifest)
    (kept : ∀ text, template.Kept text -> after.Kept text) :
    Shelved (session.withTemplate number after) := by
  have sameId : after.id = template.id := congrArg Manifest.id sameManifest
  have indexed : Indexed (session.withTemplate number after) := by
    refine shelved.indexed.withTemplate regular.manifest fun {id} held => ?_
    obtain ⟨found, again, foundId⟩ := shelved.indexed.leads held
    rw [present] at again
    cases again
    exact sameId.trans foundId
  refine ⟨indexed, fun {other found} there => ?_, shelved.sequential, ?_⟩
  · rw [template?_withTemplate] at there
    split at there
    · exact Option.some.inj there ▸ regular
    · exact shelved.regular there
  · change Table.Pairs _ (List.filter (fun entry => session.store.takes entry.2) _)
      session.store.shelf
    cases key : session.keyOf? number with
    | none =>
      rw [entries_withTemplate_of_free shelved.indexed key]
      exact shelved.shelf
    | some id =>
      have held := (shelved.indexed.keyOf?_eq_some_iff _ _).1 key
      have here : Table.get? session.entries id = some template := by
        rw [get?_entries shelved.indexed.inRange, held?, held]
        exact present
      rw [entries_withTemplate shelved.indexed held]
      have changes : Table.Pairs (fun before after : Template =>
            session.store.takes before = session.store.takes after ∧
              ∀ text, before.Kept text -> after.Kept text)
          session.entries (Table.put session.entries id after) :=
        Table.pairs_put (fun _ => ⟨rfl, fun _ kept => kept⟩) here
          ⟨(Store.takes_eq_of_manifest shelved.sequential sameManifest).symm, kept⟩
      exact shelved.shelf.through (changes.filter fun changed => changed.1)
        fun keeps changed => changed.2 _ keeps

end Shelved

/-! ## What keeps the mirror -/

section Mirrored

variable {α : Type} {session : Session}

theorem holds_iff_mem_names
    (session : Session)
    (id : String) : session.holds id = true ↔ id ∈ Table.names session.index :=
  Table.has_iff_mem_names session.index id

/-- What is held is held when a template has come in. -/
theorem holds_tracked
    (template : Template)
    {id : String}
    (held : session.holds id = true) : (session.tracked template).holds id = true := by
  rw [holds_iff_mem_names] at held ⊢
  exact (Table.mem_names_put _ _ _ _).2 (Or.inr held)

theorem holds_tracked_self
    (session : Session)
    (template : Template) : (session.tracked template).holds template.id = true :=
  (holds_iff_mem_names _ _).2 ((Table.mem_names_put _ _ _ _).2 (Or.inl rfl))

/-- What is held under another id is held when an id has been released. -/
theorem holds_released
    {after : Session}
    {id other : String}
    (released : after.index = Table.remove session.index id)
    (held : session.holds other = true)
    (isOther : other ≠ id) : after.holds other = true := by
  rw [holds_iff_mem_names] at held ⊢
  rw [released, Table.names_remove]
  exact List.mem_filter.2 ⟨held, decide_eq_true isOther⟩

/-- A quiet edit that changes neither the manifest nor what the texts of the template are. -/
theorem Mirrored.commit_of_quiet
    (mirrored : Mirrored session)
    {number : Nat}
    {template : Template}
    {edit : Edit α}
    (present : session.template? number = some template)
    (quiet : edit.announced = false)
    (same : Template.SameContent template edit.template)
    (kept : ∀ text, template.Kept text -> edit.template.Kept text) :
    Mirrored (resultOf (commit number edit) session).2 := by
  have regular := same.regular (mirrored.regular present)
  rw [resultOf_commit_of_quiet quiet]
  exact ⟨mirrored.toShelved.withTemplate present regular same.manifest.symm kept, mirrored.marker,
    mirrored.current⟩

/-- Everything that is not an edit keeps the mirror. -/
theorem curated_mirrored : Curated Template.Regular Mirrored where
  added {session template} regular free mirrored isCurrent := by
    have added := mirrored.toShelved.added regular free
    have saved : Mirrored
        { session.tracked template with store := (savedIn session.store template).1 } :=
      ⟨added, (Store.marker_savedIn mirrored.sequential template).trans mirrored.marker,
        fun id isCurrent => holds_tracked template (mirrored.current id isCurrent)⟩
    have saves := resultOf_save_eq_savedIn (template?_tracked session template)
    simp only [add, resultOf_bind, resultOf_get, resultOf_modify, saves, store_tracked]
    cases (savedIn session.store template).2 with
    | error fault => exact saved
    | ok _ =>
      cases isCurrent with
      | false => exact saved
      | true =>
        have held := holds_tracked_self session template
        obtain ⟨after, made, current, _⟩ :=
          added.makeCurrent (some template.id) fun _ same => Option.some.inj same ▸ held
        simp only [if_true, resultOf_bind, made]
        exact current
  deleted id session mirrored := by
    simp only [delete, resultOf_bind, resultOf_get]
    split
    · rename_i held
      have released := mirrored.toShelved.released held
      have bindable := mirrored.indexed.bindable_of_holds held
      obtain ⟨known, deleted⟩ := Store.outcome_delete mirrored.sequential bindable
      simp only [resultOf_bind, resultOf_modify, resultOf_onStore, deleted, resultOf_get]
      split
      · obtain ⟨after, made, current, _⟩ := released.makeCurrent none fun _ same => by cases same
        simp only [resultOf_bind, made]
        exact current
      · rename_i isOther
        refine ⟨released, (Store.marker_delete mirrored.sequential bindable).trans mirrored.marker,
          fun other isCurrent => ?_⟩
        refine holds_released rfl (mirrored.current other isCurrent) ?_
        rintro rfl
        exact isOther isCurrent
    · exact mirrored
  selected id session mirrored := by
    simp only [select, resultOf_bind, resultOf_get]
    split
    · rename_i held
      obtain ⟨after, made, current, _⟩ := mirrored.toShelved.makeCurrent (some id)
        fun _ same => Option.some.inj same ▸ held
      simp only [resultOf_bind, made]
      exact current
    · exact mirrored
  readOut {session number template} present mirrored :=
    mirrored.commit_of_quiet present template.readComponent_announced
      template.sameContent_readComponent fun _ kept => kept.readComponent

/-! ### Edits -/

/-- The store takes every template that the session holds. -/
def AllTaken (session : Session) : Prop :=
  ∀ entry ∈ session.entries, session.store.takes entry.2 = true

theorem AllTaken.filter_eq
    (allTaken : AllTaken session) :
    (session.entries.filter fun entry => session.store.takes entry.2) = session.entries :=
  List.filter_eq_self.2 allTaken

/-- If the store takes everything, all that is held stands on its shelf. -/
theorem Shelved.pairs
    (shelved : Shelved session)
    (allTaken : AllTaken session) :
    Table.Pairs Template.Kept session.entries session.store.shelf :=
  allTaken.filter_eq ▸ shelved.shelf

theorem regular_withTemplate
    (regular : ∀ {number template}, session.template? number = some template -> template.Regular)
    {number : Nat}
    {after : Template}
    (regularAfter : after.Regular)
    {other : Nat}
    {template : Template}
    (present : (session.withTemplate number after).template? other = some template) :
    template.Regular := by
  rw [template?_withTemplate] at present
  split at present
  · exact Option.some.inj present ▸ regularAfter
  · exact regular present

/-- A changed template is not taken note of while it is not held. -/
theorem Mirrored.withTemplate_of_free
    (mirrored : Mirrored session)
    {number : Nat}
    {after : Template}
    (free : session.keyOf? number = none)
    (regular : after.Regular) : Mirrored (session.withTemplate number after) := by
  have indexed : Indexed (session.withTemplate number after) :=
    mirrored.indexed.withTemplate regular.manifest fun {id} held =>
      nomatch free.symm.trans ((mirrored.indexed.keyOf?_eq_some_iff number id).2 held)
  refine ⟨⟨indexed, regular_withTemplate mirrored.regular regular, mirrored.sequential, ?_⟩,
    mirrored.marker, mirrored.current⟩
  rw [entries_withTemplate_of_free mirrored.indexed free]
  exact mirrored.shelf

/-- What following an announced change of the template with a number makes of a session: no note is
taken of a template that is not held; one under the id under which it is held is saved; and one under
a free id is held under that id from then on, taken off the shelf under the old one, and saved. -/
inductive Followed (session : Session) (number : Nat) : Session -> Prop where
  | unnoticed {after : Template}
      (free : session.keyOf? number = none)
      (regular : after.Regular) : Followed session number (session.withTemplate number after)
  | resaved {after : Template} {later : Session}
      (held : session.number? after.id = some number)
      (regular : after.Regular)
      (sameIndex : later.index = session.index)
      (templates : later.templates = (session.withTemplate number after).templates)
      (store : later.store = (savedIn session.store after).1)
      (sameCurrent : later.current = session.current) : Followed session number later
  | renamed {old : String} {after : Template} {later : Session} {cleared : Store}
      (held : session.number? old = some number)
      (free : session.holds after.id = false)
      (regular : after.Regular)
      (index : later.index = Table.put (Table.remove session.index old) after.id number)
      (templates : later.templates = (session.withTemplate number after).templates)
      (follows : Store.Follows session.store cleared)
      (shelf : cleared.shelf = Table.remove session.store.shelf old)
      (store : later.store = (savedIn cleared after).1)
      (marker : cleared.marker = .ok (Json.ofText? later.current))
      (current : ∀ id ∈ later.current, later.holds id = true) : Followed session number later

/-- What is held after a template has come under another id. -/
theorem holds_rekeyed
    {number : Nat}
    {old new id : String} :
    (session.rekeyed old new number).holds id = true ↔
      id = new ∨ session.holds id = true ∧ id ≠ old := by
  rw [holds_iff_mem_names, holds_iff_mem_names]
  change id ∈ Table.names (Table.put (Table.remove session.index old) new number) ↔ _
  rw [Table.mem_names_put, Table.names_remove, List.mem_filter, decide_eq_true_iff]

/-- Holding a template under another id takes the old one off the shelf, and keeps the marker up to
date, so that it still is of an id that is held. -/
theorem resultOf_followRename
    {number : Nat}
    {old new : String}
    (sequential : session.store.Sequential)
    (marker : session.store.marker = .ok (Json.ofText? session.current))
    (held : ∀ id ∈ session.current, session.holds id = true)
    (bindable : Store.Database.bindable old = .ok old)
    (slug : Identifier.isSlug new = true) :
    ∃ store current, resultOf (followRename number old new) session =
        (.ok (), { session.rekeyed old new number with store, current }) ∧
      Store.Follows session.store store ∧ store.shelf = Table.remove session.store.shelf old ∧
      store.marker = .ok (Json.ofText? current) ∧
      ∀ id ∈ current, (session.rekeyed old new number).holds id = true := by
  have follows := Store.follows_delete sequential bindable
  have shelf := Store.shelf_delete sequential bindable
  obtain ⟨known, deleted⟩ := Store.outcome_delete sequential bindable
  simp only [followRename, resultOf_bind, resultOf_modify, resultOf_onStore, resultOf_get,
    store_rekeyed, current_rekeyed, deleted]
  by_cases selected : session.current = some old
  · obtain ⟨marked, marks, after, sameShelf, current⟩ := @Store.mark_id _ follows.sequential
      (some new) fun _ same => Option.some.inj same ▸ Store.Database.bindable_of_isSlug slug
    refine ⟨marked, some new, ?_, follows.trans after, sameShelf.trans shelf, current, ?_⟩
    · simp only [selected, if_true, resultOf_makeCurrent, marks]
    · rintro id ⟨⟩
      exact holds_rekeyed.2 (Or.inl rfl)
  · refine ⟨(session.store.delete old).1, session.current, ?_, follows, shelf,
      (Store.marker_delete sequential bindable).trans marker, ?_⟩
    · simp only [selected, if_false, resultOf_pure]
    · intro id isCurrent
      refine holds_rekeyed.2 (Or.inr ⟨held id isCurrent, ?_⟩)
      rintro rfl
      exact selected isCurrent

theorem followed_follow
    (mirrored : Mirrored session)
    {number : Nat}
    {template after : Template}
    {request : Template.Call}
    (present : session.template? number = some template)
    (revision : Template.Revision template request after) :
    Followed session number (resultOf (follow number) (session.withTemplate number after)).2 := by
  have regular := revision.regular (mirrored.regular present)
  have validBefore := mirrored.indexed.valid present
  have presentAfter := template?_withTemplate_self present after
  cases held : (session.withTemplate number after).keyOf? number with
  | none =>
    rw [resultOf_follow_of_not_held held]
    exact .unnoticed held regular
  | some key =>
    have leads := (mirrored.indexed.keyOf?_eq_some_iff number key).1 held
    have sameKey := mirrored.indexed.id_of_keyOf? held present
    by_cases same : key = after.id
    · subst same
      rw [resultOf_follow_of_same held presentAfter, resultOf_save_eq_savedIn presentAfter]
      exact .resaved leads regular rfl rfl rfl rfl
    cases taken : session.holds after.id with
    | true =>
      -- the id was edited, and so the manifest can be edited back
      have clear : after.manifest.Clear :=
        (revision.id_eq_or_clear validBefore).resolve_left fun kept =>
          same (sameKey.symm.trans kept.symm)
      have slug : Identifier.isSlug key = true := sameKey ▸ validBefore.id
      have presentReverted := template?_withTemplate_self present (after.underId key)
      have reverted : (after.underId key).Regular :=
        ⟨⟨slug, regular.manifest.steps, regular.manifest.schema, regular.manifest.actions,
          regular.manifest.extras⟩, regular.ids, regular.distinct, regular.animation⟩
      have leadsReverted : session.number? (after.underId key).id = some number := leads
      rw [resultOf_follow_of_taken held presentAfter same taken,
        resultOf_revertId regular.manifest clear slug same, withTemplate_withTemplate,
        resultOf_save_eq_savedIn presentReverted]
      exact .resaved leadsReverted reverted rfl rfl rfl rfl
    | false =>
      have bindable : Store.Database.bindable key = .ok key :=
        Store.Database.bindable_of_isSlug (sameKey ▸ validBefore.id)
      obtain ⟨cleared, current, renames, follows, shelf, marker, isHeld⟩ :=
        @resultOf_followRename (session.withTemplate number after) number key after.id
          mirrored.sequential mirrored.marker mirrored.current bindable regular.manifest.id
      have presentRenamed : ({ (session.withTemplate number after).rekeyed key after.id number with
          store := cleared, current } : Session).template? number = some after := presentAfter
      rw [resultOf_follow_of_free held presentAfter same taken, resultOf_bind, renames]
      dsimp only
      rw [resultOf_save_eq_savedIn presentRenamed]
      exact .renamed leads taken regular rfl rfl follows shelf rfl marker isHeld

/-- A call that installs component source from outside. -/
def Command.installsComponent : Command -> Bool
  | .callHeld _ (.setComponent _) => true
  | .callNumbered _ (.setComponent _) => true
  | _ => false

/-- A call that installs no component source keeps the mirror, or it is an edit that is followed. -/
theorem Mirrored.commit_cases
    (mirrored : Mirrored session)
    {number : Nat}
    {template : Template}
    {request : Template.Call}
    (present : session.template? number = some template)
    (installsNone : ∀ source, request ≠ .setComponent source) :
    Mirrored (resultOf (commit number (template.run request)) session).2 ∨
      Followed session number (resultOf (commit number (template.run request)) session).2 := by
  cases ofComponent : request.isOfComponent with
  | true =>
    cases request with
    | setComponent source => exact absurd rfl (installsNone source)
    | readComponent =>
      exact Or.inl (mirrored.commit_of_quiet present template.readComponent_announced
        template.sameContent_readComponent fun _ kept => kept.readComponent)
    | _ => cases ofComponent
  | false =>
    rcases template.run_performs request ofComponent with ⟨quiet, same, component⟩ |
      ⟨announced, ⟨answer, answered⟩, revision⟩
    · exact Or.inl (mirrored.commit_of_quiet present quiet same fun _ kept =>
        kept.of_sameContent same component)
    · rw [resultOf_commit_of_announced announced answered]
      exact Or.inr (followed_follow mirrored present revision)

/-- A command that installs no component source keeps the mirror, whether it fails or not, or it is an
edit that is followed. -/
theorem Mirrored.perform_cases
    (mirrored : Mirrored session)
    {command : Command}
    (installsNone : command.installsComponent = false) :
    Mirrored (command.perform session).2 ∨
      ∃ number, Followed session number (command.perform session).2 := by
  change Mirrored (resultOf command.run session).2 ∨
    ∃ number, Followed session number (resultOf command.run session).2
  cases isCall : command.isCall with
  | false => exact Or.inl (curated_mirrored.keeps_command arising_regular isCall session mirrored)
  | true =>
    have notInstalled (request : Template.Call)
        (isRequest : ∀ source, request = .setComponent source ->
          command.installsComponent = true) : ∀ source, request ≠ .setComponent source :=
      fun source same => Bool.noConfusion (installsNone.symm.trans (isRequest source same))
    cases command with
    | callHeld id request =>
      rw [Command.run, resultOf_map]
      rcases resultOf_edit id (fun template => template.run request) session with ⟨fault, refused⟩ |
        ⟨number, template, _, present, edited⟩
      · rw [refused]
        exact Or.inl mirrored
      · rw [edited]
        exact (mirrored.commit_cases present (notInstalled request fun source same => same ▸ rfl)).imp
          (fun kept => kept) fun followed => ⟨number, followed⟩
    | callNumbered number request =>
      rw [Command.run, resultOf_map]
      simp only [call, resultOf_bind, resultOf_get]
      cases present : session.template? number with
      | none => exact Or.inl mirrored
      | some template =>
        exact (mirrored.commit_cases present (notInstalled request fun source same => same ▸ rfl)).imp
          id fun followed => ⟨number, followed⟩
    | _ => cases isCall

/-! ### Runs -/

/-- A changed template that is saved under the id under which it is held. -/
theorem Mirrored.resaved
    (mirrored : Mirrored session)
    (allTaken : AllTaken session)
    {number : Nat}
    {after : Template}
    (held : session.number? after.id = some number)
    (regular : after.Regular)
    {later : Session}
    (sameIndex : later.index = session.index)
    (templates : later.templates = (session.withTemplate number after).templates)
    (store : later.store = (savedIn session.store after).1)
    (sameCurrent : later.current = session.current)
    (allTakenAfter : AllTaken later) : Mirrored later := by
  have entries : later.entries = Table.put session.entries after.id after :=
    (@entries_congr (session.withTemplate number after) later sameIndex templates).trans
      (entries_withTemplate mirrored.indexed held after)
  have follows : Store.Follows session.store later.store :=
    store ▸ Store.follows_savedIn mirrored.sequential after
  have taken : session.store.takes after = true := by
    rw [← follows.takes_eq]
    refine allTakenAfter (after.id, after) ?_
    rw [entries]
    exact Table.mem_of_get? ((Table.get?_put _ _ _ _).trans (if_pos rfl))
  have indexed : Indexed (session.withTemplate number after) :=
    mirrored.indexed.withTemplate regular.manifest fun also =>
      mirrored.indexed.id_unique held also
  refine ⟨⟨indexed.congr sameIndex templates, fun {other template} present => ?_,
    follows.sequential, ?_⟩, ?_, fun id isCurrent => ?_⟩
  · unfold template? at present
    rw [templates] at present
    exact regular_withTemplate mirrored.regular regular present
  · rw [allTakenAfter.filter_eq, entries, store, Store.shelf_savedIn mirrored.sequential taken]
    exact (mirrored.pairs allTaken).put after.id after.kept_literal
  · rw [store, sameCurrent, Store.marker_savedIn mirrored.sequential after]
    exact mirrored.marker
  · unfold holds
    rw [sameIndex]
    exact mirrored.current id (sameCurrent ▸ isCurrent)

/-- A changed template that is taken off the shelf under its old id and saved under its new one. -/
theorem Mirrored.renamed
    (mirrored : Mirrored session)
    (allTaken : AllTaken session)
    {number : Nat}
    {old : String}
    {after : Template}
    (held : session.number? old = some number)
    (free : session.holds after.id = false)
    (regular : after.Regular)
    {later : Session}
    {cleared : Store}
    (index : later.index = Table.put (Table.remove session.index old) after.id number)
    (templates : later.templates = (session.withTemplate number after).templates)
    (follows : Store.Follows session.store cleared)
    (shelf : cleared.shelf = Table.remove session.store.shelf old)
    (store : later.store = (savedIn cleared after).1)
    (marker : cleared.marker = .ok (Json.ofText? later.current))
    (current : ∀ id ∈ later.current, later.holds id = true)
    (allTakenAfter : AllTaken later) : Mirrored later := by
  have followsAfter : Store.Follows session.store later.store :=
    follows.trans (store ▸ Store.follows_savedIn follows.sequential after)
  have indexed := mirrored.indexed.rekeyed held regular.manifest
  have present : (session.withTemplate number after).template? number = some after := by
    rw [template?_withTemplate, if_pos ⟨rfl, number?_lt mirrored.indexed held⟩]
  have notHeld : after.id ∉ Table.names session.index := fun member =>
    absurd ((holds_iff_mem_names session after.id).2 member) (Bool.eq_false_iff.1 free)
  have entries : later.entries = Table.remove session.entries old ++ [(after.id, after)] := by
    have rekeyed := @entries_rekeyed _ _ old _ _ present notHeld
    rw [entries_withTemplate mirrored.indexed held, Table.remove_put] at rekeyed
    exact (@entries_congr ((session.withTemplate number after).rekeyed old after.id number) later
      index templates).trans rekeyed
  have taken : cleared.takes after = true := by
    rw [follows.takes_eq, ← followsAfter.takes_eq]
    refine allTakenAfter (after.id, after) ?_
    rw [entries]
    exact List.mem_append_right _ List.mem_cons_self
  have absent : after.id ∉ Table.names cleared.shelf := by
    rw [shelf, Table.names_remove]
    exact fun member => mirrored.notMem_shelf free (List.mem_filter.1 member).1
  refine ⟨⟨indexed.congr index templates, fun {other template} there => ?_, followsAfter.sequential,
    ?_⟩, ?_, current⟩
  · unfold template? at there
    rw [templates] at there
    exact regular_withTemplate mirrored.regular regular there
  · rw [allTakenAfter.filter_eq, entries, store, Store.shelf_savedIn follows.sequential taken,
      Table.put_of_notMem absent, shelf]
    exact ((mirrored.pairs allTaken).remove old).append (.cons ⟨rfl, after.kept_literal⟩ .nil)
  · rw [store, Store.marker_savedIn follows.sequential after]
    exact marker

/-- An edit that is followed keeps the mirror if the store takes everything afterwards. -/
theorem Mirrored.followed
    (mirrored : Mirrored session)
    (allTaken : AllTaken session)
    {number : Nat}
    {later : Session}
    (followed : Followed session number later)
    (allTakenAfter : AllTaken later) : Mirrored later := by
  cases followed with
  | unnoticed free regular => exact mirrored.withTemplate_of_free free regular
  | resaved held regular sameIndex templates store sameCurrent =>
    exact mirrored.resaved allTaken held regular sameIndex templates store sameCurrent allTakenAfter
  | renamed held free regular index templates follows shelf store marker current =>
    exact mirrored.renamed allTaken held free regular index templates follows shelf store marker
      current allTakenAfter

/-- A command keeps the mirror if the store takes everything before and afterwards. -/
theorem Mirrored.performed
    (mirrored : Mirrored session)
    (allTaken : AllTaken session)
    {command : Command}
    (installsNone : command.installsComponent = false)
    (allTakenAfter : AllTaken (command.perform session).2) :
    Mirrored (command.perform session).2 := by
  rcases mirrored.perform_cases installsNone with kept | ⟨number, followed⟩
  · exact kept
  · exact mirrored.followed allTaken followed allTakenAfter

/-- Every run of commands keeps the mirror that installs no component source and at every point of
which the store takes every template that is held. -/
theorem Mirrored.performAll
    (mirrored : Mirrored session)
    (commands : List Command)
    (installNone : ∀ command ∈ commands, command.installsComponent = false)
    (allTaken : ∀ before, before <+: commands -> AllTaken (performAll before session)) :
    Mirrored (performAll commands session) := by
  induction commands generalizing session with
  | nil => exact mirrored
  | cons command rest ih =>
    obtain ⟨here, later⟩ := List.forall_mem_cons.1 installNone
    refine ih (mirrored.performed (allTaken [] List.nil_prefix) here ?_) later
      fun before isPrefix => ?_
    · exact allTaken [command] (List.prefix_cons_inj command |>.2 List.nil_prefix)
    · exact allTaken (command :: before) ((List.prefix_cons_inj command).2 isPrefix)

end Mirrored

end Session
end BroadcastGraphics
