import BroadcastGraphics.Proofs.BundleEntries
import BroadcastGraphics.Proofs.SessionMirror
import BroadcastGraphics.Proofs.WrittenImport

/-!
# Documents bring templates into another session

The templates of a session leave it as editor documents or all in one bundle, and come into an empty
session when such a document is imported there.  They come under the same ids and in the same order,
and are written as before but for what writing loses; those that an import refuses are left out of a
bundle, and refused by themselves.
-/

namespace BroadcastGraphics

/-! ## What comes back of a template -/

namespace Template

variable {template : Template}

instance (template : Template) : Decidable template.Writable :=
  inferInstanceAs (Decidable (∀ value ∈ template.manifest.freeValues, _))

theorem writable_imported (writable : template.Writable) : template.imported.Writable :=
  writable_reread writable

/-- A store in memory takes every template that can be written. -/
theorem takes_of_memory
    (writable : template.Writable)
    (memory : Store.Memory)
    (clock : Moment) : Store.takes { backend := .memory memory, clock } template = true := by
  rw [Store.takes_iff, Store.savedIn_of_writable writable]
  rfl

/-- A template comes back as another one: under its id and with the same elements and settings, and
with the same manifest exactly if every free value has digits. -/
structure ComesBackAs (template back : Template) : Prop where
  id : back.id = template.id
  elements : back.elements.map Element.toJson = template.elements.map Element.toJson
  animation : Snapshot.animationJson back.animation = Snapshot.animationJson template.animation
  manifest : back.manifest.toJson = template.manifest.toJson ↔
    ∀ value ∈ template.manifest.freeValues, value.HasDigits

theorem comesBackAs_imported (template : Template) : template.ComesBackAs template.imported where
  id := rfl
  elements := (List.map_map).trans
    (List.map_congr_left fun element _ => element.toJson_settled)
  animation := rfl
  manifest := Manifest.toJson_settled_iff template.manifest

end Template

namespace Session

/-- A property of templates that comes with every template is one of all templates of a session. -/
theorem stable_allFit
    {Fits : Template -> Prop} :
    Stable Fits fun session => ∀ template ∈ session.templates, Fits template where
  saved _ _ all := all
  deleted _ all := all
  marked _ all := all
  selected _ all := all
  tracked fits all := fun template member => by
    rcases List.mem_append.1 member with old | new
    · exact all template old
    · rw [List.mem_singleton] at new
      exact new ▸ fits
  released _ all := all
  fits all present := all _ (List.mem_of_getElem? present)
  edited number fits all := fun template member => by
    rcases List.mem_or_eq_of_mem_set member with old | rfl
    · exact all template old
    · exact fits
  rekeyed _ _ _ all := all

/-- All templates of a session that commands lead to are regular. -/
theorem Reached.regular
    {session : Session}
    (reached : Reached session) : ∀ template ∈ session.templates, template.Regular := by
  obtain ⟨config, store, commands, rfl⟩ := reached
  exact stable_allFit.holds_performAll arising_regular (fun _ member => nomatch member) commands

/-! ## Importing one template -/

section Importing

variable {session : Session}

/-- A template that the store takes comes last when it is added under a free id, and becomes the
current one. -/
theorem resultOf_add_of_takes
    (sequential : session.store.Sequential)
    {template : Template}
    (slug : Identifier.isSlug template.id = true)
    (taken : session.store.takes template = true) :
    ∃ store, Store.Follows session.store store ∧
      resultOf (add template true) session =
        (.ok session.templates.length,
          { session.tracked template with current := some template.id, store := store }) := by
  have writable := Store.writable_of_takes taken
  have saved : session.store.save template.id template.toJson =
      ((savedIn session.store template).1, .ok ()) := by
    rw [← Store.savedIn_of_writable writable, ← Store.takes_iff.1 taken]
  have follows := Store.follows_savedIn sequential template
  have bindable : ∀ id ∈ some template.id, Store.Database.bindable id = .ok id :=
    fun id same => Option.some.inj same ▸ Store.Database.bindable_of_isSlug slug
  obtain ⟨store, marked, marks, _⟩ := Store.mark_id follows.sequential bindable
  exact ⟨store, follows.trans marks,
    resultOf_add true (template.written_of_writable writable) saved fun _ => marked⟩

/-- Every id of a session leads to a template, over a store that takes what the store of another
session takes; and behind the templates of that session some more are held. -/
structure Gains (before after : Session) (gained : Table Template) : Prop where
  follows : Store.Follows before.store after.store
  inRange : ∀ entry ∈ after.index, entry.2 < after.templates.length
  templates : after.templates = before.templates ++ gained.map Prod.snd
  entries : after.entries = before.entries ++ gained

theorem Gains.trans
    {between after : Session}
    {first second : Table Template}
    (earlier : Gains session between first)
    (later : Gains between after second) : Gains session after (first ++ second) where
  follows := earlier.follows.trans later.follows
  inRange := later.inRange
  templates := by
    rw [later.templates, earlier.templates, List.append_assoc, List.map_append]
  entries := by
    rw [later.entries, earlier.entries, List.append_assoc]

variable (inRange : ∀ entry ∈ session.index, entry.2 < session.templates.length)
include inRange

/-- A free id stays free unless a template comes in under it. -/
theorem Gains.free
    {after : Session}
    {gained : Table Template}
    (gains : Gains session after gained)
    {id : String}
    (free : session.number? id = none)
    (apart : id ∉ Table.names gained) : after.number? id = none := by
  have names : Table.names after.index = Table.names session.index ++ Table.names gained := by
    rw [← names_entries gains.inRange, ← names_entries inRange, gains.entries]
    exact List.map_append
  refine (Table.get?_eq_none_iff _ _).2 fun held => ?_
  rcases List.mem_append.1 (names ▸ held) with old | new
  · exact (Table.get?_eq_none_iff _ _).1 free old
  · exact apart new

variable (sequential : session.store.Sequential)
  {policy : Json} {known : ConflictPolicy}
  (isPolicy : ConflictPolicy.ofJson policy = .ok known)
include sequential

theorem Gains.refl : Gains session session [] :=
  ⟨.refl sequential, inRange, (List.append_nil _).symm, (List.append_nil _).symm⟩

include isPolicy

/-- A template that can be imported comes in under its free id, and another one is refused. -/
theorem resultOf_importEditor
    {template : Template}
    (regular : template.Regular)
    (taken : session.store.takes template.imported = true)
    (free : session.number? template.id = none) :
    if template.Importable then
      ∃ after, resultOf (importEditor template.toJson policy) session =
          (.ok session.templates.length, after) ∧
        Gains session after [(template.id, template.imported)]
    else ∃ fault, resultOf (importEditor template.toJson policy) session = (.error fault, session) ∧
      isEntryFault fault = true := by
  have opened : resultOf (importEditor template.toJson policy) session =
      resultOf (importTemplate template.source policy) session := by
    rw [resultOf_importEditor_eq, Template.editorSource_toJson]
  have planned := plan_source regular free isPolicy
  rw [opened, resultOf_importTemplate]
  split
  · rename_i importable
    rw [if_pos importable] at planned
    rw [planned]
    have slug : Identifier.isSlug template.imported.id = true := regular.manifest.id
    obtain ⟨store, follows, added⟩ := resultOf_add_of_takes sequential slug taken
    refine ⟨_, added, follows, fun entry member => ?_, rfl, entries_tracked inRange free⟩
    change entry ∈ Table.put session.index template.id session.templates.length at member
    change entry.2 < (session.templates ++ [template.imported]).length
    rw [List.length_append]
    rcases Table.mem_put member with new | old
    · exact new ▸ Nat.lt_succ_self _
    · exact Nat.lt_succ_of_lt (inRange entry old)
  · rename_i refused
    rw [if_neg refused] at planned
    obtain ⟨fault, failed, ofEntry⟩ := planned
    exact ⟨fault, by rw [failed], ofEntry⟩

end Importing

/-! ## Importing a bundle -/

/-- What comes back of some templates: those that can be imported, as they are imported. -/
def returning (templates : Table Template) : Table Template :=
  Table.mapEntries Template.imported (templates.filter fun entry => decide entry.2.Importable)

theorem returning_cons_of_importable
    {template : Template}
    (importable : template.Importable)
    (id : String)
    (rest : Table Template) :
    returning ((id, template) :: rest) = (id, template.imported) :: returning rest := by
  unfold returning
  rw [List.filter_cons_of_pos (by simpa using importable)]
  rfl

theorem returning_cons_of_refused
    {template : Template}
    (refused : ¬ template.Importable)
    (id : String)
    (rest : Table Template) :
    returning ((id, template) :: rest) = returning rest := by
  unfold returning
  rw [List.filter_cons_of_neg (by simpa using refused)]

/-- The entries of a bundle come in one after the other, but for those that cannot be imported. -/
theorem resultOf_importEntries
    {session : Session}
    (inRange : ∀ entry ∈ session.index, entry.2 < session.templates.length)
    (sequential : session.store.Sequential)
    {policy : Json}
    {known : ConflictPolicy}
    (isPolicy : ConflictPolicy.ofJson policy = .ok known)
    {templates : Table Template}
    (distinct : Table.Distinct templates)
    (ids : ∀ entry ∈ templates, entry.2.id = entry.1)
    (regular : ∀ entry ∈ templates, entry.2.Regular)
    (taken : ∀ entry ∈ templates, session.store.takes entry.2.imported = true)
    (free : ∀ entry ∈ templates, session.number? entry.1 = none) :
    ∃ after, resultOf (importEntries policy (Table.mapEntries Template.toJson templates)) session =
        (.ok (List.range' session.templates.length (returning templates).length), after) ∧
      Gains session after (returning templates) := by
  induction templates generalizing session with
  | nil => exact ⟨session, rfl, Gains.refl inRange sequential⟩
  | cons entry rest ih =>
    obtain ⟨id, template⟩ := entry
    obtain ⟨others, distinct⟩ := List.nodup_cons.1 distinct
    obtain ⟨sameId, ids⟩ := List.forall_mem_cons.1 ids
    obtain ⟨firstRegular, regular⟩ := List.forall_mem_cons.1 regular
    obtain ⟨firstTaken, taken⟩ := List.forall_mem_cons.1 taken
    obtain ⟨firstFree, free⟩ := List.forall_mem_cons.1 free
    have single := resultOf_importEditor inRange sequential isPolicy firstRegular firstTaken
      (sameId ▸ firstFree)
    change ∃ after, resultOf (importEntries policy ((id, template.toJson) ::
      Table.mapEntries Template.toJson rest)) session = _ ∧ _
    have considered : ¬ passesOver known session id = true := by
      simp [passesOver, not_holds_of_number? firstFree]
    rw [resultOf_importEntries_cons isPolicy, if_neg considered, resultOf_importEntry]
    split at single
    · rename_i importable
      obtain ⟨between, imported, gains⟩ := single
      rw [sameId] at gains
      have stillFree : ∀ entry ∈ rest, between.number? entry.1 = none := by
        intro entry member
        refine gains.free inRange (free entry member) fun taken => others ?_
        exact List.mem_singleton.1 taken ▸ Table.mem_names_of_mem member
      obtain ⟨after, rested, restGains⟩ := ih gains.inRange gains.follows.sequential distinct ids
        regular (fun entry member => (gains.follows.takes_eq _).trans (taken entry member)) stillFree
      have returned := returning_cons_of_importable importable id rest
      have grown : between.templates.length = session.templates.length + 1 := by
        rw [gains.templates]
        exact List.length_append
      refine ⟨after, ?_, returned ▸ gains.trans restGains⟩
      rw [imported]
      dsimp only
      rw [rested, returned, grown]
      rfl
    · rename_i refused
      obtain ⟨fault, failed, ofEntry⟩ := single
      obtain ⟨after, rested, restGains⟩ := ih inRange sequential distinct ids regular taken free
      have returned := returning_cons_of_refused refused id rest
      refine ⟨after, ?_, returned ▸ restGains⟩
      rw [failed]
      dsimp only
      rw [if_pos ofEntry]
      dsimp only
      rw [rested, returned]
      rfl

/-! ## Exporting -/

section Exporting

variable {session : Session}

/-- A template that is held is looked up under its id. -/
theorem resultOf_require_of_held
    {id : String}
    {number : Nat}
    {template : Template}
    (held : session.number? id = some number)
    (present : session.template? number = some template) :
    resultOf (require id) session = (.ok (number, template), session) := by
  unfold require
  rw [resultOf_bind, resultOf_get]
  dsimp only
  rw [held]
  dsimp only
  rw [present]
  rfl

/-- Templates are written one after the other; one that cannot be written keeps all from being
written. -/
theorem resultOf_writeEach
    (session : Session)
    (templates : Table Template) :
    resultOf (templates.mapM fun (id, template) => do return (id, <- template.written)) session =
      if ∀ entry ∈ templates, entry.2.Writable then
        (.ok (Table.mapEntries Template.toJson templates), session)
      else (.error (.misuse .tooDeepToWrite), session) := by
  induction templates with
  | nil => rfl
  | cons entry rest ih =>
    obtain ⟨id, template⟩ := entry
    have all : (∀ entry ∈ (id, template) :: rest, entry.2.Writable) ↔
        template.Writable ∧ ∀ entry ∈ rest, entry.2.Writable := List.forall_mem_cons
    rw [List.mapM_cons, resultOf_bind, resultOf_bind, resultOf_lift]
    by_cases writable : template.Writable
    · rw [template.written_of_writable writable]
      dsimp only [resultOf_pure]
      rw [resultOf_bind, ih]
      by_cases others : ∀ entry ∈ rest, entry.2.Writable
      · rw [if_pos others, if_pos (all.2 ⟨writable, others⟩)]
        rfl
      · rw [if_neg others, if_neg fun each => others (all.1 each).2]
    · rw [template.written_of_not_writable writable, if_neg fun each => writable (all.1 each).1]

section Indexed

variable (indexed : Indexed session)
include indexed

/-- What is held under all ids is all that is held. -/
theorem filterMap_held?_names :
    (Table.names session.index).filterMap
        (fun id => (session.held? id).map fun template => (id, template)) = session.entries := by
  unfold Table.names entries
  rw [List.filterMap_map]
  refine List.filterMap_congr fun entry member => ?_
  dsimp only [Function.comp]
  unfold held? number?
  have found : Table.get? session.index entry.1 = some entry.2 :=
    Table.get?_of_mem indexed.names member
  rw [found]
  rfl

/-- The bundle of all templates that are held. -/
theorem resultOf_exportMany_names (name date : Json) :
    resultOf (exportMany (Table.names session.index) name date) session =
      if ∀ entry ∈ session.entries, entry.2.Writable then
        (.ok (Exchange.multiBundle (Table.mapEntries Template.toJson session.entries) name date),
          session)
      else (.error (.misuse .tooDeepToWrite), session) := by
  unfold exportMany
  rw [resultOf_bind, resultOf_get]
  dsimp only
  rw [filterMap_held?_names indexed, resultOf_bind, resultOf_writeEach]
  by_cases writable : ∀ entry ∈ session.entries, entry.2.Writable
  · rw [if_pos writable, if_pos writable]
    rfl
  · rw [if_neg writable, if_neg writable]

/-- The editor document of a template that is held. -/
theorem resultOf_exportEditor
    {entry : String × Template}
    (member : entry ∈ session.entries)
    (date : Json) :
    resultOf (exportEditor entry.1 date) session =
      if entry.2.Writable then (.ok (Exchange.editorDocument entry.2.toJson date), session)
      else (.error (.misuse .tooDeepToWrite), session) := by
  obtain ⟨number, held, present, _⟩ := indexed.entry member
  unfold exportEditor
  rw [resultOf_bind, resultOf_require_of_held held present]
  dsimp only
  rw [resultOf_bind, resultOf_lift]
  by_cases writable : entry.2.Writable
  · rw [if_pos writable, entry.2.written_of_writable writable]
    rfl
  · rw [if_neg writable, entry.2.written_of_not_writable writable]

end Indexed

end Exporting

/-! ## Importing what was exported -/

/-- A bundle is imported entry by entry. -/
theorem resultOf_importDocument_multiBundle
    {templates : Table Json}
    (distinct : Table.Distinct templates)
    (name date policy : Json)
    (session : Session) :
    resultOf (importDocument (Exchange.multiBundle templates name date) policy) session =
      resultOf (importEntries policy templates) session := by
  have merged : Table.merge [] templates = templates :=
    Table.merge_eq_append distinct fun _ _ => List.not_mem_nil
  unfold importDocument Exchange.multiBundle
  rw [merged]
  rfl

/-- An editor document is imported as the template in it. -/
theorem resultOf_importDocument_editorDocument
    (template date policy : Json)
    (session : Session) :
    resultOf (importDocument (Exchange.editorDocument template date) policy) session =
      ((resultOf (importEditor template policy) session).1.map fun number => [number],
        (resultOf (importEditor template policy) session).2) := by
  change resultOf (importEditor template policy >>= fun number => pure [number]) session = _
  rw [resultOf_bind]
  rcases resultOf (importEditor template policy) session with ⟨_ | number, after⟩ <;> rfl

/-- Numbers that are counted on lead to the templates that have come in. -/
theorem Gains.answers
    {before after : Session}
    {gained : Table Template}
    (gains : Gains before after gained) :
    (List.range' before.templates.length gained.length).map after.template? =
      gained.map fun entry => some entry.2 := by
  refine List.ext_getElem (by simp) fun place _ inRange => ?_
  have bound : place < gained.length := by simpa using inRange
  rw [List.getElem_map, List.getElem_map, List.getElem_range', Nat.one_mul, template?,
    gains.templates, List.getElem?_append_right (Nat.le_add_right _ _), Nat.add_sub_cancel_left,
    List.getElem?_map, List.getElem?_eq_getElem bound]
  rfl

section IntoNothing

variable {fresh : Session} (empty : fresh.index = []) (sequential : fresh.store.Sequential)
  {policy : Json} {known : ConflictPolicy}
  (isPolicy : ConflictPolicy.ofJson policy = .ok known)

include empty in
theorem inRange_of_empty : ∀ entry ∈ fresh.index, entry.2 < fresh.templates.length := by
  rw [empty]
  exact fun _ member => nomatch member

include empty in
theorem free_of_empty (id : String) : fresh.number? id = none := by
  unfold number?
  rw [empty]
  rfl

include empty in
/-- All that a session holds has come in if it held nothing before. -/
theorem Gains.entries_of_empty
    {after : Session}
    {gained : Table Template}
    (gains : Gains fresh after gained) : after.entries = gained := by
  have nothing : fresh.entries = [] := by
    unfold Session.entries
    rw [empty]
    rfl
  rw [gains.entries, nothing, List.nil_append]

include empty sequential isPolicy

/-- The templates of a bundle come back in their order, but for those that cannot be imported. -/
theorem bundle_comes_back
    {templates : Table Template}
    (distinct : Table.Distinct templates)
    (ids : ∀ entry ∈ templates, entry.2.id = entry.1)
    (regular : ∀ entry ∈ templates, entry.2.Regular)
    (taken : ∀ entry ∈ templates, fresh.store.takes entry.2.imported = true)
    (name date : Json) :
    ∃ numbers after,
      resultOf (importDocument (Exchange.multiBundle (Table.mapEntries Template.toJson templates)
        name date) policy) fresh = (.ok numbers, after) ∧
      numbers.map after.template? = after.entries.map (fun entry => some entry.2) ∧
      Table.Pairs Template.ComesBackAs
        (templates.filter fun entry => decide entry.2.Importable) after.entries := by
  obtain ⟨after, imported, gains⟩ := resultOf_importEntries (inRange_of_empty empty) sequential
    isPolicy distinct ids regular taken fun entry _ => free_of_empty empty entry.1
  have written : Table.Distinct (Table.mapEntries Template.toJson templates) := by
    unfold Table.Distinct Table.names Table.mapEntries
    rw [List.map_map]
    exact distinct
  have held := gains.entries_of_empty empty
  refine ⟨_, after,
    (resultOf_importDocument_multiBundle written name date policy fresh).trans imported,
    held ▸ gains.answers, ?_⟩
  rw [held]
  exact List.forall₂_map_right_iff.2
    (List.forall₂_same.2 fun entry _ => ⟨rfl, entry.2.comesBackAs_imported⟩)

/-- By itself a template comes back if it can be imported, and is refused otherwise. -/
theorem template_comes_back
    {template : Template}
    (regular : template.Regular)
    (taken : fresh.store.takes template.imported = true)
    (date : Json) :
    if template.Importable then
      ∃ number after back,
        resultOf (importDocument (Exchange.editorDocument template.toJson date) policy) fresh =
          (.ok [number], after) ∧
        after.template? number = some back ∧ after.entries = [(template.id, back)] ∧
        template.ComesBackAs back
    else ∃ fault,
      resultOf (importDocument (Exchange.editorDocument template.toJson date) policy) fresh =
        (.error fault, fresh) := by
  have single := resultOf_importEditor (inRange_of_empty empty) sequential isPolicy regular taken
    (free_of_empty empty template.id)
  rw [resultOf_importDocument_editorDocument]
  split
  · rename_i importable
    rw [if_pos importable] at single
    obtain ⟨after, imported, gains⟩ := single
    exact ⟨_, after, template.imported, by rw [imported]; rfl,
      List.singleton_inj.1 gains.answers, gains.entries_of_empty empty,
      template.comesBackAs_imported⟩
  · rename_i refused
    rw [if_neg refused] at single
    obtain ⟨fault, failed, _⟩ := single
    exact ⟨fault, by rw [failed]; rfl⟩

end IntoNothing

/-- What comes of the templates of a session when they leave it in one bundle or one by one, and the
document is imported into a session that holds nothing, over a store that takes them.  Under every
policy, all that can be imported come back under their ids and in their order; in a bundle the others
are left out, and by themselves they are refused.  Templates that cannot be written do not leave. -/
theorem exported_templates_come_back
    {session fresh : Session}
    (reached : Reached session)
    (empty : fresh.index = [])
    (sequential : fresh.store.Sequential)
    (taken : ∀ entry ∈ session.entries, entry.2.Writable ->
      fresh.store.takes entry.2.imported = true)
    {policy : Json}
    {known : ConflictPolicy}
    (isPolicy : ConflictPolicy.ofJson policy = .ok known)
    (name date : Json) :
    (if ∀ entry ∈ session.entries, entry.2.Writable then
      ∃ document numbers after,
        resultOf (exportMany (Table.names session.index) name date) session =
          (.ok document, session) ∧
        resultOf (importDocument document policy) fresh = (.ok numbers, after) ∧
        numbers.map after.template? = after.entries.map (fun entry => some entry.2) ∧
        Table.Pairs Template.ComesBackAs
          (session.entries.filter fun entry => decide entry.2.Importable) after.entries
    else resultOf (exportMany (Table.names session.index) name date) session =
      (.error (.misuse .tooDeepToWrite), session)) ∧
    ∀ entry ∈ session.entries,
      if entry.2.Writable then
        ∃ document, resultOf (exportEditor entry.1 date) session = (.ok document, session) ∧
          if entry.2.Importable then
            ∃ number after back,
              resultOf (importDocument document policy) fresh = (.ok [number], after) ∧
              after.template? number = some back ∧ after.entries = [(entry.1, back)] ∧
              entry.2.ComesBackAs back
          else ∃ fault, resultOf (importDocument document policy) fresh = (.error fault, fresh)
      else resultOf (exportEditor entry.1 date) session =
        (.error (.misuse .tooDeepToWrite), session) := by
  have indexed := reached.indexed
  have regular : ∀ entry ∈ session.entries, entry.2.Regular := by
    intro entry member
    obtain ⟨number, _, present, _⟩ := indexed.entry member
    exact reached.regular _ (List.mem_of_getElem? present)
  have ids : ∀ entry ∈ session.entries, entry.2.id = entry.1 := by
    intro entry member
    obtain ⟨_, _, _, sameId⟩ := indexed.entry member
    exact sameId
  constructor
  · rw [resultOf_exportMany_names indexed]
    split
    · rename_i writable
      obtain ⟨numbers, after, imported, answers, pairs⟩ := bundle_comes_back empty sequential
        isPolicy (distinct_entries indexed) ids regular
        (fun entry member => taken entry member (writable entry member)) name date
      exact ⟨_, numbers, after, rfl, imported, answers, pairs⟩
    · rfl
  · intro entry member
    rw [resultOf_exportEditor indexed member]
    split
    · rename_i writable
      refine ⟨_, rfl, ?_⟩
      rw [← ids entry member]
      exact template_comes_back empty sequential isPolicy (regular entry member)
        (taken entry member writable) date
    · rfl

/-- The creation of a template from the plain preset. -/
def creation (id name : String) : Command :=
  .create (.str "custom") (.str id) (.str name) (.str "")

/-- Of a template with a name and one without, the first comes back from a bundle of both, and the
other one is refused by itself. -/
theorem named_template_comes_back :
    let session := performAll [creation "nameless" "", creation "demo" "Demo"] (opened {} {}).2
    (∃ document numbers after,
      resultOf (exportMany ["nameless", "demo"] (.str "pack") (.str "today")) session =
        (.ok document, session) ∧
      resultOf (importDocument document (.str "skip")) {} = (.ok numbers, after) ∧
      Table.names after.entries = ["demo"]) ∧
    ∃ document fault,
      resultOf (exportEditor "nameless" (.str "today")) session = (.ok document, session) ∧
      resultOf (importDocument document (.str "skip")) {} = (.error fault, {}) := by
  intro session
  have writable : ∀ entry ∈ session.entries, entry.2.Writable := by decide +kernel
  have reached : Reached session := ⟨{}, {}, _, rfl⟩
  have isPolicy : ConflictPolicy.ofJson (.str "skip") = .ok .skip := rfl
  obtain ⟨together, single⟩ := exported_templates_come_back reached (rfl : ({} : Session).index = [])
    (.memory _ _)
    (fun _ _ writable => Template.takes_of_memory (Template.writable_imported writable) _ _)
    isPolicy (.str "pack") (.str "today")
  constructor
  · rw [if_pos writable] at together
    obtain ⟨document, numbers, after, exported, imported, _, pairs⟩ := together
    exact ⟨document, numbers, after, exported, imported,
      pairs.names_eq.symm.trans (by decide +kernel)⟩
  · obtain ⟨template, member, refused⟩ : ∃ template, ("nameless", template) ∈ session.entries ∧
        ¬ template.Importable := ⟨_, List.mem_cons_self, by decide +kernel⟩
    have single := single _ member
    rw [if_pos (writable _ member)] at single
    obtain ⟨document, exported, imported⟩ := single
    rw [if_neg refused] at imported
    obtain ⟨fault, failed⟩ := imported
    exact ⟨document, fault, exported, failed⟩

/-- A template without a name is exported in a bundle and does not come back from it. -/
theorem nameless_template_stays_away :
    let session := performAll [creation "nameless" ""] (opened {} {}).2
    Table.names session.entries = ["nameless"] ∧
      ∃ document, resultOf (exportMany ["nameless"] (.str "pack") (.str "today")) session =
          (.ok document, session) ∧
        resultOf (importDocument document (.str "replace")) {} = (.ok [], {}) := by
  intro session
  refine ⟨by decide +kernel, _, by rfl, by rfl⟩

end Session
end BroadcastGraphics
