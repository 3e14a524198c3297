import BroadcastGraphics.Proofs.IncomingTemplate

/-!
# Commands of a session and what they maintain

A property of sessions that is kept by the few things which commands are made of is kept by every
command.  Templates are only ever added under free ids; commands that edit no template need less than
those that do.
-/

namespace BroadcastGraphics
namespace Session

variable {α β : Type}

/-! ## What commands maintain -/

/-- A property of sessions that everything keeps which commands are made of, edits apart: templates
that fit are added under free ids, templates are deleted and made current, and their component source
is read. -/
structure Curated (Fits : Template -> Prop) (Holds : Session -> Prop) : Prop where
  added : ∀ {session template}, Fits template -> session.holds template.id = false -> Holds session ->
    ∀ isCurrent, Holds (resultOf (add template isCurrent) session).2
  deleted : ∀ id, Keeps Holds (delete id)
  selected : ∀ id, Keeps Holds (select id)
  readOut : ∀ {session number template}, session.template? number = some template ->
    Holds session -> Holds (resultOf (commit number template.readComponent) session).2

/-- A property of sessions that edits keep as well. -/
structure Maintained (Fits : Template -> Prop) (Holds : Session -> Prop) : Prop
    extends Curated Fits Holds where
  committed : ∀ {α : Type} {session number template} {edit : Edit α} {request},
    session.template? number = some template -> edit.Carries template request -> Holds session ->
      Holds (resultOf (commit number edit) session).2

section Maintained

variable {Fits : Template -> Prop} {Holds : Session -> Prop}

/-- What every move keeps is maintained. -/
theorem Stable.maintained
    (stable : Stable Fits Holds)
    (arising : Arising Fits) : Maintained Fits Holds := by
  have committed {α : Type} {session : Session} {number : Nat} {template : Template} {edit : Edit α}
      {request : Template.Call} (present : session.template? number = some template)
      (carries : edit.Carries template request) (holds : Holds session) :
      Holds (resultOf (commit number edit) session).2 :=
    stable.keeps_commit arising _ (arising.carried carries (stable.fits holds present)) _ holds
  exact {
    added := fun fits _ holds isCurrent => stable.keeps_add fits isCurrent _ holds
    deleted := stable.keeps_delete
    selected := stable.keeps_select
    readOut := fun present holds =>
      committed present (Template.readComponent_carries _ .readComponent) holds
    committed := committed }

theorem keeps_require_bind
    (id : String)
    {next : Nat × Template -> Action β}
    (nextHolds : ∀ {session number template}, Holds session ->
      session.template? number = some template ->
        Holds (resultOf (next (number, template)) session).2) :
    Keeps Holds (require id >>= next) := by
  intro session holds
  rw [resultOf_bind]
  rcases resultOf_require id session with missing | ⟨number, template, _, present, found⟩
  · rw [missing]
    exact holds
  · rw [found]
    exact nextHolds holds present

theorem Curated.keeps_create
    (curated : Curated Fits Holds)
    (arising : Arising Fits)
    (kind id name description : Json) : Keeps Holds (create kind id name description) := by
  refine keeps_get_bind fun session holds => ?_
  rw [resultOf_bind, resultOf_lift]
  cases looked : session.numberOfValue id with
  | error fault => exact holds
  | ok taken =>
    dsimp only
    split
    · exact holds
    · rename_i notTaken
      rw [resultOf_bind, resultOf_lift]
      cases made : newTemplate session.config kind id name description with
      | error fault => exact holds
      | ok template =>
        have sameId := id_of_newTemplate made
        exact curated.added (arising.created made) (free_of_numberOfValue looked sameId notTaken)
          holds true

/-- A copy is read from the written form of what it copies. -/
theorem fits_of_renamedCopy
    (arising : Arising Fits)
    {template copy : Template}
    {id name : Json}
    (copied : renamedCopy template id name = .ok copy) : Fits copy := by
  obtain ⟨_, _, copied⟩ := ok_of_bind copied
  obtain ⟨snapshot, read, copied⟩ := ok_of_bind copied
  cases copied
  exact arising.read read

theorem Curated.keeps_duplicate
    (curated : Curated Fits Holds)
    (arising : Arising Fits)
    (id : String)
    (newId newName : Json) : Keeps Holds (duplicate id newId newName) := by
  refine keeps_require_bind id fun {session number source} holds present => ?_
  dsimp only
  rw [resultOf_bind, resultOf_get]
  dsimp only
  rw [resultOf_bind, resultOf_lift]
  cases looked : session.numberOfValue newId with
  | error fault => exact holds
  | ok taken =>
    dsimp only
    split
    · exact holds
    · rename_i notTaken
      rw [resultOf_bind, resultOf_lift]
      cases made : renamedCopy source newId newName with
      | error fault => exact holds
      | ok copy =>
        have sameId := id_of_renamedCopy made
        exact curated.added (fits_of_renamedCopy arising made)
          (free_of_numberOfValue looked sameId notTaken) holds false

theorem Curated.keeps_importTemplate
    (curated : Curated Fits Holds)
    (arising : Arising Fits)
    (source : ImportSource)
    (policy : Json) : Keeps Holds (importTemplate source policy) := by
  intro session holds
  rw [resultOf_importTemplate]
  cases planned : session.plan source policy with
  | error fault => exact holds
  | ok plan =>
    cases plan with
    | keep number => exact holds
    | add template replaced =>
      obtain ⟨known, id, _, _, ⟨members, _, made⟩, place⟩ := plan_of_add planned
      have fits := arising.imported made
      rcases place with ⟨free, sameId, rfl⟩ | ⟨_, _, _, sameId, rfl⟩ | ⟨_, _, _, sameId, rfl⟩
      · exact curated.added fits (not_holds_of_number? (sameId ▸ free)) holds true
      · obtain ⟨place, numbered, _, free, _⟩ := freeId_spec session id
        exact curated.added fits (sameId ▸ numbered ▸ free) holds true
      · change Holds (resultOf (delete id >>= fun _ => add template true) session).2
        have released := not_holds_delete id session
        have deleted := curated.deleted id session holds
        rw [resultOf_bind]
        rcases result : resultOf (delete id) session with ⟨fault | known, after⟩
        · rw [result] at deleted
          exact deleted
        · rw [result] at released deleted
          exact curated.added fits (sameId ▸ released) deleted true

theorem Curated.keeps_importEditor
    (curated : Curated Fits Holds)
    (arising : Arising Fits)
    (template policy : Json) : Keeps Holds (importEditor template policy) :=
  keeps_bind (keeps_lift _) fun source => curated.keeps_importTemplate arising source policy

theorem Curated.keeps_importEntries
    (curated : Curated Fits Holds)
    (arising : Arising Fits)
    (policy : Json)
    (templates : Table Json) : Keeps Holds (importEntries policy templates) := by
  induction templates with
  | nil => exact keeps_pure _
  | cons entry rest ih =>
    refine keeps_bind (keeps_lift _) fun known => ?_
    have entryKeeps : Keeps Holds (importEntry entry.2 policy) := by
      refine keeps_tryCatch (keeps_map _ (curated.keeps_importEditor arising _ _)) fun fault => ?_
      split
      · exact keeps_pure _
      · exact keeps_throw _
    refine keeps_get_bind fun session holds => ?_
    split
    · exact ih session holds
    · exact keeps_bind entryKeeps (fun _ => keeps_bind ih fun _ => keeps_pure _) session holds

theorem Curated.keeps_importDocument
    (curated : Curated Fits Holds)
    (arising : Arising Fits)
    (document policy : Json) : Keeps Holds (importDocument document policy) := by
  refine keeps_bind (keeps_lift _) fun kind => ?_
  cases kind with
  | multiBundle =>
    dsimp only [importMany]
    split
    · exact curated.keeps_importEntries arising _ _
    · exact keeps_throw _
  | editorTemplate =>
    exact keeps_bind (curated.keeps_importEditor arising _ _) fun _ => keeps_pure _
  | exportBundle =>
    refine keeps_bind (keeps_lift _) fun _ => ?_
    exact keeps_bind (curated.keeps_importTemplate arising _ _) fun _ => keeps_pure _
  | rawManifest =>
    exact keeps_bind (curated.keeps_importTemplate arising _ _) fun _ => keeps_pure _

/-- Files are exported by reading component source. -/
theorem keeps_exportFiles
    (readOut : ∀ {session number template}, session.template? number = some template ->
      Holds session -> Holds (resultOf (commit number template.readComponent) session).2)
    (id : String) : Keeps Holds (exportFiles id) := by
  refine keeps_require_bind id fun {session number template} holds present => ?_
  rw [resultOf_bind, resultOf_lift]
  cases manifestText template.manifest with
  | error fault => exact holds
  | ok text =>
    exact holds_bind (readOut present holds) fun _ => keeps_pure _

theorem Curated.keeps_exportFiles
    (curated : Curated Fits Holds)
    (id : String) : Keeps Holds (exportFiles id) :=
  Session.keeps_exportFiles curated.readOut id

theorem keeps_exportMany
    (ids : List String)
    (name date : Json) : Keeps Holds (exportMany ids name date) := by
  refine keeps_get_bind fun session holds => ?_
  refine keeps_bind ?_ (fun _ => keeps_pure _) session holds
  induction ids.filterMap _ with
  | nil => exact keeps_pure _
  | cons entry rest ih =>
    rw [List.mapM_cons]
    refine keeps_bind ?_ fun _ => keeps_bind ih fun _ => keeps_pure _
    exact keeps_bind (keeps_lift _) fun _ => keeps_pure _

theorem keeps_exportAs
    (readOut : ∀ {session number template}, session.template? number = some template ->
      Holds session -> Holds (resultOf (commit number template.readComponent) session).2)
    (form : ExportForm)
    (id : String)
    (date : Json) : Keeps Holds (exportAs form id date) := by
  cases form with
  | editor =>
    refine keeps_require_bind id fun {session number template} holds present => ?_
    exact keeps_bind (keeps_lift _) (fun _ => keeps_pure _) session holds
  | bundle => exact keeps_bind (keeps_exportFiles readOut id) fun _ => keeps_pure _
  | many => exact keeps_exportMany _ _ _

theorem Curated.keeps_exportAs
    (curated : Curated Fits Holds)
    (form : ExportForm)
    (id : String)
    (date : Json) : Keeps Holds (exportAs form id date) :=
  Session.keeps_exportAs curated.readOut form id date

/-- An edit of the template held under an id is kept if it does to every template what some call
does. -/
theorem Maintained.keeps_edit
    (maintained : Maintained Fits Holds)
    (id : String)
    {change : Template -> Edit α}
    (carries : ∀ template, ∃ request, (change template).Carries template request) :
    Keeps Holds (edit id change) := by
  refine keeps_require_bind id fun {session number template} holds present => ?_
  obtain ⟨request, carried⟩ := carries template
  exact holds_bind (maintained.committed present carried holds) fun _ => keeps_pure _

/-- The command calls a template. -/
def Command.isCall : Command -> Bool
  | .callHeld _ _ => true
  | .callNumbered _ _ => true
  | _ => false

/-- What needs no edits to be kept, every command keeps that calls no template. -/
theorem Curated.keeps_command
    (curated : Curated Fits Holds)
    (arising : Arising Fits)
    {command : Command}
    (notCall : command.isCall = false) : Keeps Holds command.run := by
  cases command with
  | create kind id name description => exact keeps_map _ (curated.keeps_create arising _ _ _ _)
  | delete id => exact keeps_map _ (curated.deleted id)
  | duplicate id newId newName => exact keeps_map _ (curated.keeps_duplicate arising _ _ _)
  | select id => exact keeps_map _ (curated.selected id)
  | importTemplate source policy => exact keeps_map _ (curated.keeps_importTemplate arising _ _)
  | importDocument document policy => exact keeps_map _ (curated.keeps_importDocument arising _ _)
  | exportFiles id => exact keeps_map _ (curated.keeps_exportFiles id)
  | exportAs form id date => exact keeps_map _ (curated.keeps_exportAs form id date)
  | exportMany ids name date => exact keeps_map _ (keeps_exportMany ids name date)
  | callHeld id request => cases notCall
  | callNumbered number request => cases notCall

/-- What is maintained, every command keeps, whether it fails or not. -/
theorem Maintained.keeps_command
    (maintained : Maintained Fits Holds)
    (arising : Arising Fits)
    (command : Command) : Keeps Holds command.run := by
  cases isCall : command.isCall with
  | false => exact maintained.toCurated.keeps_command arising isCall
  | true =>
    cases command with
    | callHeld id request =>
      exact keeps_map _ (maintained.keeps_edit id fun template =>
        ⟨request, template.run_carries request⟩)
    | callNumbered number request =>
      refine keeps_map _ (keeps_get_bind fun session holds => ?_)
      cases present : session.template? number with
      | none => exact holds
      | some template => exact maintained.committed present (template.run_carries request) holds
    | _ => cases isCall

/-- What is maintained, every run of commands keeps. -/
theorem Maintained.holds_performAll
    (maintained : Maintained Fits Holds)
    (arising : Arising Fits)
    {session : Session}
    (holds : Holds session)
    (commands : List Command) : Holds (performAll commands session) := by
  induction commands generalizing session with
  | nil => exact holds
  | cons command rest ih => exact ih (maintained.keeps_command arising command session holds)

/-! ### Opening a session -/

/-- Every snapshot that a store gives has been read from a value. -/
theorem read_of_mem_snapshots
    {store : Store}
    {snapshots : Table Snapshot}
    (given : store.snapshots = .ok snapshots) :
    ∀ entry ∈ snapshots, ∃ value, Snapshot.read value = .ok entry.2 := by
  unfold Store.snapshots at given
  have start : ∀ entry ∈ ([] : Table Snapshot), ∃ value, Snapshot.read value = .ok entry.2 :=
    fun _ member => nomatch member
  generalize ([] : Table Snapshot) = before at given start
  generalize store.ids = ids at given
  induction ids generalizing before with
  | nil =>
    cases given
    exact start
  | cons id rest ih =>
    rw [List.foldlM_cons] at given
    obtain ⟨after, step, given⟩ := ok_of_bind given
    obtain ⟨found, loaded, step⟩ := ok_of_bind step
    refine ih after ?_ given
    cases found with
    | none =>
      cases step
      exact start
    | some snapshot =>
      cases step
      intro entry member
      rcases Table.mem_put member with new | old
      · rw [new]
        unfold Store.snapshot? at loaded
        split at loaded
        · cases loaded
        · rename_i value _
          refine ⟨value, ?_⟩
          cases read : Snapshot.read value with
          | error fault =>
            rw [read] at loaded
            cases loaded
          | ok snapshot =>
            rw [read] at loaded
            cases loaded
            rfl
        · split at loaded
          · cases loaded
          · cases loaded
      · exact start entry old

theorem Steady.keeps_takeOver
    (steady : Steady Fits Holds)
    (arising : Arising Fits) : Keeps Holds takeOver := by
  refine keeps_get_bind fun session holds => ?_
  rw [resultOf_bind, resultOf_lift]
  cases given : session.store.snapshots with
  | error fault => exact holds
  | ok snapshots =>
    have takenOver : Keeps Holds (modify fun session => snapshots.foldl
        (fun session entry => session.tracked (Template.ofSnapshot entry.2)) session) := by
      refine keeps_modify fun session holds => ?_
      have allRead := read_of_mem_snapshots given
      clear given
      induction snapshots generalizing session with
      | nil => exact holds
      | cons entry rest ih =>
        obtain ⟨value, read⟩ := allRead entry List.mem_cons_self
        exact ih _ (steady.tracked (arising.read read) holds)
          fun entry member => allRead entry (List.mem_cons_of_mem _ member)
    refine keeps_bind takenOver (fun _ => ?_) session holds
    refine keeps_bind (keeps_lift _) fun marker => ?_
    refine keeps_get_bind fun session holds => ?_
    refine keeps_bind (keeps_lift _) (fun number? => ?_) session holds
    split
    · exact keeps_modify fun session holds => steady.selected _ holds
    · exact keeps_pure _

/-- What holds of a session without templates holds of every session that commands lead to. -/
theorem Stable.holds_performAll
    (stable : Stable Fits Holds)
    (arising : Arising Fits)
    {config : StudioConfig}
    {store : Store}
    (atFirst : Holds { config, store })
    (commands : List Command) :
    Holds (performAll commands (Session.opened config store).2) := by
  have opened : Holds (Session.opened config store).2 :=
    stable.keeps_takeOver arising _ atFirst
  exact (stable.maintained arising).holds_performAll arising opened commands

end Maintained

end Session
end BroadcastGraphics
