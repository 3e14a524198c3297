import BroadcastGraphics.Proofs.SessionRestart

/-!
# The books of a session

A session keeps three books: the index, which names every template that is held under its id; the
current id, which is one of the index; and the marker in the store, which repeats the current id.
Everything that can be done in a session keeps them in agreement, whether it succeeds or not.

A template that the session no longer holds is not in the books.  It can still be called, and it
then answers for itself: nothing of what is done to it reaches the index, the store or the marker.
-/

namespace BroadcastGraphics
namespace Session

/-- The marker in the store names the current template, which is held. -/
structure Marked (session : Session) : Prop where
  sequential : session.store.Sequential
  marker : session.store.marker = .ok (Json.ofText? session.current)
  current : ∀ id ∈ session.current, session.holds id = true

/-- The books of a session agree. -/
structure Booked (session : Session) : Prop extends Marked session where
  indexed : Indexed session

section Marked

variable {session : Session}

/-- What is done to templates and to further ids leaves the marker alone. -/
theorem Marked.congr
    (marked : Marked session)
    {later : Session}
    (follows : Store.Follows session.store later.store)
    (marker : later.store.marker = session.store.marker)
    (sameCurrent : later.current = session.current)
    (keeps : ∀ id ∈ session.current, later.holds id = true) : Marked later where
  sequential := follows.sequential
  marker := by
    rw [marker, sameCurrent]
    exact marked.marker
  current := fun id isCurrent => keeps id (sameCurrent ▸ isCurrent)

/-- Saving a template leaves the marker alone, whether the store takes it or not. -/
theorem Marked.save
    (marked : Marked session)
    {number : Nat}
    {template : Template}
    (present : session.template? number = some template) :
    Marked (resultOf (save number) session).2 := by
  rw [resultOf_save_eq_savedIn present]
  exact marked.congr (Store.follows_savedIn marked.sequential template)
    (Store.marker_savedIn marked.sequential template) rfl marked.current

theorem Marked.withTemplate
    (marked : Marked session)
    (number : Nat)
    (template : Template) : Marked (session.withTemplate number template) :=
  ⟨marked.sequential, marked.marker, marked.current⟩

theorem Marked.tracked
    (marked : Marked session)
    (template : Template) : Marked (session.tracked template) :=
  ⟨marked.sequential, marked.marker, fun id isCurrent =>
    holds_tracked template (marked.current id isCurrent)⟩

end Marked

section Booked

variable {session : Session}

/-- Making a held template the current one, or none, marks it. -/
theorem Booked.makeCurrent
    (indexed : Indexed session)
    (sequential : session.store.Sequential)
    (id? : Option String)
    (held : ∀ id ∈ id?, session.holds id = true) :
    ∃ after, resultOf (makeCurrent id?) session = (.ok (), after) ∧ Booked after := by
  obtain ⟨store, marks, follows, _, marker⟩ := Store.mark_id sequential
    fun id isCurrent => indexed.bindable_of_holds (held id isCurrent)
  rw [resultOf_makeCurrent, marks]
  exact ⟨_, rfl, ⟨follows.sequential, marker, held⟩, indexed.congr rfl rfl⟩

theorem Booked.add
    (booked : Booked session)
    {template : Template}
    (valid : template.manifest.Valid)
    (isCurrent : Bool) : Booked (resultOf (add template isCurrent) session).2 := by
  have present := template?_tracked session template
  have indexed := steady_indexed.keeps_save session.templates.length _
    (booked.indexed.tracked valid)
  have marked := (booked.toMarked.tracked template).save present
  simp only [Session.add, resultOf_bind, resultOf_get, resultOf_modify]
  rw [resultOf_save_eq_savedIn present] at indexed marked ⊢
  cases (savedIn (session.tracked template).store template).2 with
  | error fault => exact ⟨marked, indexed⟩
  | ok _ =>
    cases isCurrent with
    | false => exact ⟨marked, indexed⟩
    | true =>
      have held := holds_tracked_self session template
      obtain ⟨after, made, also⟩ := Booked.makeCurrent indexed marked.sequential
        (some template.id) fun _ same => Option.some.inj same ▸ held
      simp only [if_true, resultOf_bind, made]
      exact also

theorem keeps_delete_booked (id : String) : Keeps Booked (delete id) := by
  intro session booked
  simp only [delete, resultOf_bind, resultOf_get]
  split
  · rename_i held
    have bindable := booked.indexed.bindable_of_holds held
    have follows := Store.follows_delete booked.sequential bindable
    obtain ⟨known, deleted⟩ := Store.outcome_delete booked.sequential bindable
    have indexed : Indexed { session with
        index := Table.remove session.index id, store := (session.store.delete id).1 } :=
      (booked.indexed.released id).congr rfl rfl
    simp only [resultOf_bind, resultOf_modify, resultOf_onStore, deleted, resultOf_get]
    split
    · obtain ⟨after, made, also⟩ := Booked.makeCurrent indexed follows.sequential none
        fun _ same => by cases same
      simp only [resultOf_bind, made]
      exact also
    · rename_i isOther
      refine ⟨booked.toMarked.congr follows
        (Store.marker_delete booked.sequential bindable) rfl fun other isCurrent => ?_, indexed⟩
      refine holds_released rfl (booked.current other isCurrent) ?_
      rintro rfl
      exact isOther isCurrent
  · exact booked

theorem keeps_select_booked (id : String) : Keeps Booked (select id) := by
  intro session booked
  simp only [select, resultOf_bind, resultOf_get]
  split
  · rename_i held
    obtain ⟨after, made, also⟩ := Booked.makeCurrent booked.indexed booked.sequential (some id)
      fun _ same => Option.some.inj same ▸ held
    simp only [resultOf_bind, made]
    exact also
  · exact booked

/-- Following an edit, through a new id or back to the old one, keeps the marker up to date. -/
theorem Booked.followed
    (booked : Booked session)
    {number : Nat}
    {template after : Template}
    {request : Template.Call}
    (present : session.template? number = some template)
    (revision : Template.Revision template request after) :
    Marked (resultOf (follow number) (session.withTemplate number after)).2 := by
  have indexed := booked.indexed
  have validBefore := indexed.valid present
  have valid := revision.manifest_valid validBefore
  have presentAfter := template?_withTemplate_self present after
  have marked := booked.toMarked.withTemplate number after
  cases held : (session.withTemplate number after).keyOf? number with
  | none =>
    rw [resultOf_follow_of_not_held held]
    exact marked
  | some key =>
    have leads := (indexed.keyOf?_eq_some_iff number key).1 held
    have sameKey := indexed.id_of_keyOf? held present
    have slug : Identifier.isSlug key = true := sameKey ▸ validBefore.id
    by_cases same : key = after.id
    · subst same
      rw [resultOf_follow_of_same held presentAfter]
      exact marked.save presentAfter
    cases taken : session.holds after.id with
    | true =>
      -- the id was edited, and so the manifest can be edited back
      have clear : after.manifest.Clear :=
        (revision.id_eq_or_clear validBefore).resolve_left fun kept =>
          same (sameKey.symm.trans kept.symm)
      rw [resultOf_follow_of_taken held presentAfter same taken,
        resultOf_revertId valid clear slug same]
      exact (marked.withTemplate number (after.underId key)).save
        (template?_withTemplate_self presentAfter _)
    | false =>
      obtain ⟨cleared, current, renames, follows, _, marker, isHeld⟩ :=
        @resultOf_followRename (session.withTemplate number after) number key after.id
          booked.sequential booked.marker booked.current (Store.Database.bindable_of_isSlug slug)
          valid.id
      rw [resultOf_follow_of_free held presentAfter same taken, resultOf_bind, renames]
      dsimp only
      exact Marked.save ⟨follows.sequential, marker, isHeld⟩ presentAfter

theorem Booked.committed
    {α : Type}
    (booked : Booked session)
    {number : Nat}
    {template : Template}
    {edit : Edit α}
    {request : Template.Call}
    (present : session.template? number = some template)
    (carries : edit.Carries template request) :
    Booked (resultOf (commit number edit) session).2 := by
  refine ⟨?_, booked.indexed.committed present carries⟩
  rcases carries with ⟨quiet, _⟩ | ⟨announced, ⟨answer, answered⟩, revision⟩
  · rw [resultOf_commit_of_quiet quiet]
    exact booked.toMarked.withTemplate number edit.template
  · rw [resultOf_commit_of_announced announced answered]
    exact booked.followed present revision

/-- The books agree after everything that can be done in a session. -/
theorem maintained_booked :
    Maintained (fun template => template.manifest.Valid) Booked where
  added valid _ booked isCurrent := booked.add valid isCurrent
  deleted := keeps_delete_booked
  selected := keeps_select_booked
  readOut present booked :=
    booked.committed present (Template.readComponent_carries _ .readComponent)
  committed present carries booked := booked.committed present carries

/-- Templates that are taken over are held under their ids, and they change nothing else. -/
theorem Booked.takenOver
    (booked : Booked session)
    {snapshots : Table Snapshot}
    (valid : ∀ entry ∈ snapshots, entry.2.manifest.Valid) :
    let after := snapshots.foldl
      (fun session entry => session.tracked (Template.ofSnapshot entry.2)) session
    Booked after ∧ after.store = session.store := by
  induction snapshots generalizing session with
  | nil => exact ⟨booked, rfl⟩
  | cons entry rest ih =>
    obtain ⟨here, later⟩ := List.forall_mem_cons.1 valid
    have tracked : Booked (session.tracked (Template.ofSnapshot entry.2)) :=
      { toMarked := booked.toMarked.tracked _, indexed := booked.indexed.tracked here }
    exact ih tracked later

/-- Taking over what the store holds once more leaves the current template as it is: it is the one
that is marked. -/
theorem keeps_takeOver_booked : Keeps Booked takeOver := by
  intro session booked
  simp only [takeOver, resultOf_bind, resultOf_get, resultOf_lift]
  cases given : session.store.snapshots with
  | error fault => exact booked
  | ok snapshots =>
    have valid : ∀ entry ∈ snapshots, entry.2.manifest.Valid := by
      intro entry member
      obtain ⟨value, read⟩ := read_of_mem_snapshots given entry member
      exact (Snapshot.valid_of_read read).manifest
    obtain ⟨after, sameStore⟩ := booked.takenOver valid
    simp only [resultOf_modify]
    rw [← sameStore, after.marker]
    generalize snapshots.foldl
      (fun session entry => session.tracked (Template.ofSnapshot entry.2)) session = taken at after
    cases current : taken.current with
    | none => exact after
    | some id =>
      have held := after.current id current
      have found : (taken.number? id).isSome = true := held
      simp only [Json.ofText?, numberOfValue, found, if_true, resultOf_modify, Json.str?]
      rw [← current]
      exact after

/-! ## Templates that are no longer held -/

/-- A template that is not held answers a call for itself, and the session takes no note of it. -/
theorem resultOf_call_of_not_held
    {number : Nat}
    {template : Template}
    (present : session.template? number = some template)
    (free : session.keyOf? number = none)
    (request : Template.Call) :
    resultOf (call number request) session =
      ((template.run request).outcome,
        session.withTemplate number (template.run request).template) := by
  simp only [call, resultOf_bind, resultOf_get, present]
  rcases template.run_carries request with ⟨quiet, _⟩ | ⟨announced, ⟨answer, answered⟩, _⟩
  · exact resultOf_commit_of_quiet quiet
  · have stillFree : (session.withTemplate number (template.run request).template).keyOf? number =
        none := free
    rw [resultOf_commit_of_announced announced answered, resultOf_follow_of_not_held stillFree,
      answered]
    rfl

/-- Nothing in the books changed, and neither did a template that is held. -/
structure SameBooks (session later : Session) : Prop where
  index : later.index = session.index
  entries : later.entries = session.entries
  store : later.store = session.store
  current : later.current = session.current

theorem SameBooks.call
    (indexed : Indexed session)
    {number : Nat}
    (free : session.keyOf? number = none)
    (request : Template.Call) :
    SameBooks session ((Command.callNumbered number request).perform session).2 := by
  change SameBooks session (resultOf (Command.callNumbered number request).run session).2
  rw [Command.run, resultOf_map]
  cases present : session.template? number with
  | none =>
    simp only [Session.call, resultOf_bind, resultOf_get, present]
    exact ⟨rfl, rfl, rfl, rfl⟩
  | some template =>
    rw [resultOf_call_of_not_held present free request]
    exact ⟨rfl, entries_withTemplate_of_free indexed free _, rfl, rfl⟩

/-- However a template is called that is not held, the books stay as they are. -/
theorem Booked.sameBooks_performAll
    (booked : Booked session)
    {number : Nat}
    (free : session.keyOf? number = none)
    (requests : List Template.Call) :
    SameBooks session (performAll (requests.map (.callNumbered number)) session) := by
  induction requests generalizing session with
  | nil => exact ⟨rfl, rfl, rfl, rfl⟩
  | cons request rest ih =>
    have here := SameBooks.call booked.indexed free request
    have next : Booked ((Command.callNumbered number request).perform session).2 :=
      maintained_booked.keeps_command arising_valid _ session booked
    have stillFree : ((Command.callNumbered number request).perform session).2.keyOf? number =
        none := by
      unfold keyOf?
      rw [here.index]
      exact free
    have later := ih next stillFree
    exact ⟨later.index.trans here.index, later.entries.trans here.entries,
      later.store.trans here.store, later.current.trans here.current⟩

end Booked

/-! ## Runs -/

/-- What can be done in a session: a command is carried out, or what the store holds is taken over
once more. -/
inductive Deed where
  | commanded (command : Command)
  | takenOver

/-- The session after a deed, whether it succeeds or not. -/
def Deed.perform (session : Session) : Deed -> Session
  | .commanded command => (command.perform session).2
  | .takenOver => (resultOf Session.takeOver session).2

theorem Booked.deeds
    {session : Session}
    (booked : Booked session)
    (deeds : List Deed) : Booked (deeds.foldl Deed.perform session) := by
  induction deeds generalizing session with
  | nil => exact booked
  | cons deed rest ih =>
    refine ih ?_
    cases deed with
    | commanded command =>
      exact maintained_booked.keeps_command arising_valid command session booked
    | takenOver => exact keeps_takeOver_booked session booked

theorem booked_of_vacant
    {store : Store}
    (vacant : Vacant store)
    (config : StudioConfig) : Booked (opened config store).2 := by
  have mirrored := mirrored_of_vacant vacant config
  rw [opened_of_vacant vacant config]
  exact ⟨⟨mirrored.sequential, mirrored.marker, mirrored.current⟩, mirrored.indexed⟩

/-- The books of a session over an empty store in memory agree after every run of deeds: each id of
the index is named once and leads to a template of that id, the current id is one of the index, and
the store marks it.  A template that is no longer held can be called in any way without a change in
the index, in what is held, in the store or in the current id. -/
theorem books_agree_after_deeds
    (config : StudioConfig)
    (clock : Moment)
    (deeds : List Deed) :
    let session := deeds.foldl Deed.perform
      (opened config { backend := .memory {}, clock }).2
    Table.Distinct session.index ∧
      (∀ entry ∈ session.index, ∃ template,
        session.template? entry.2 = some template ∧ template.id = entry.1) ∧
      (∀ id ∈ session.current, session.holds id = true) ∧
      session.store.marker = .ok (Json.ofText? session.current) ∧
      ∀ number, session.keyOf? number = none -> ∀ requests : List Template.Call,
        SameBooks session (performAll (requests.map (.callNumbered number)) session) := by
  have booked := (booked_of_vacant (.memory clock) config).deeds deeds
  intro session
  refine ⟨booked.indexed.names, fun entry member => ?_, booked.current, booked.marker,
    fun number free requests => booked.sameBooks_performAll free requests⟩
  exact booked.indexed.leads (Table.get?_of_mem booked.indexed.names member)

/-- A template that was replaced can still be renamed, and neither its successor nor the books
notice. -/
theorem replaced_template_is_not_followed :
    let session := [Deed.commanded importsDemo, .commanded (.importTemplate
        { manifest := .obj [("id", .str "demo"), ("name", .str "New")] } (.str "replace"))].foldl
      Deed.perform (opened {} { backend := .memory {} }).2
    let renames : Template.Call := .updateManifest (.obj [("id", .str "other")])
    session.number? "demo" = some 1 ∧ session.keyOf? 0 = none ∧
      SameBooks session (performAll [.callNumbered 0 renames] session) ∧
      ((performAll [.callNumbered 0 renames] session).template? 0).map Template.id =
        some "other" := by
  intro session renames
  have free : session.keyOf? 0 = none := by decide +kernel
  refine ⟨by decide +kernel, free, ?_, by decide +kernel⟩
  exact (books_agree_after_deeds {} Moment.beginning _).2.2.2.2 0 free [renames]

end Session
end BroadcastGraphics
