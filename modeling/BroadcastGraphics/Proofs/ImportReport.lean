import BroadcastGraphics.Proofs.BundleEntries
import BroadcastGraphics.Proofs.FailedSave

/-!
# What an import reports

An import answers with the templates that it has brought in, or that it has found in the place of what
it was to bring in.  The answer to the import of one template names a template that is held.  An entry
of a bundle can replace the template of an entry before it, or be kept out by that template: only then
does the answer name a template that is no longer held, or the same one twice.
-/

namespace BroadcastGraphics

theorem ConflictPolicy.eq_name_of_ofJson
    {policy : Json}
    {known : ConflictPolicy}
    (isPolicy : ofJson policy = .ok known) : policy = .str known.name := by
  cases policy with
  | str text =>
    unfold ofJson at isPolicy
    cases found : ofJson? (.str text) with
    | none =>
      rw [found] at isPolicy
      cases isPolicy
    | some other =>
      rw [found] at isPolicy
      cases isPolicy
      have member : (text, known) ∈ options := Table.mem_of_get? found
      simp only [options, List.mem_cons, Prod.mk.injEq, List.not_mem_nil, or_false] at member
      rcases member with ⟨rfl, rfl⟩ | ⟨rfl, rfl⟩ | ⟨rfl, rfl⟩ <;> rfl
  | _ => cases isPolicy

namespace Session

theorem ok_of_toOption
    {outcome : Except Fault Nat}
    {number : Nat}
    (given : outcome.toOption = some number) : outcome = .ok number := by
  cases outcome with
  | error fault => cases given
  | ok other => exact congrArg Except.ok (Option.some.inj given)

/-! ## What is held after a template has come in -/

section Holdings

variable {session : Session}

/-- The template with a number is held, under whatever id. -/
def Holding (session : Session) (number : Nat) : Prop :=
  ∃ id, session.number? id = some number

theorem Indexed.lt_of_holding
    (indexed : Indexed session)
    {number : Nat}
    (holding : session.Holding number) : number < session.templates.length := by
  obtain ⟨_, held⟩ := holding
  exact number?_lt indexed held

/-- A template that is added is held, also when it cannot be saved. -/
theorem holdings_add
    (template : Template)
    (isCurrent : Bool)
    (session : Session) :
    let result := resultOf (add template isCurrent) session
    result.2.index = (session.tracked template).index ∧
      result.2.templates = (session.tracked template).templates ∧
      ((∃ fault, result.1 = .error fault) ∨ result.1 = .ok session.templates.length) := by
  have saved := resultOf_save_eq_savedIn (template?_tracked session template)
  simp only [add, resultOf_bind, resultOf_get, resultOf_modify, saved]
  cases (savedIn (session.tracked template).store template).2 with
  | error fault => exact ⟨rfl, rfl, Or.inl ⟨fault, rfl⟩⟩
  | ok =>
    cases isCurrent with
    | false => exact ⟨rfl, rfl, Or.inr rfl⟩
    | true =>
      simp only [if_true, resultOf_bind, resultOf_makeCurrent]
      generalize Store.mark _ _ = marked
      obtain ⟨store, fault | _⟩ := marked
      · exact ⟨rfl, rfl, Or.inl ⟨fault, rfl⟩⟩
      · exact ⟨rfl, rfl, Or.inr rfl⟩

/-- A template that is deleted is no longer held, also when the store fails. -/
theorem holdings_clear
    {replaced : Option String}
    (held : ∀ id ∈ replaced, session.holds id = true) :
    (resultOf (clear replaced) session).2.index = (session.cleared replaced).index ∧
      (resultOf (clear replaced) session).2.templates = session.templates := by
  cases replaced with
  | none => exact ⟨rfl, rfl⟩
  | some id =>
    simp only [clear, delete, resultOf_bind, resultOf_get, held id rfl, if_true, resultOf_modify,
      resultOf_onStore]
    cases (session.store.delete id).2 with
    | error fault => exact ⟨rfl, rfl⟩
    | ok found =>
      by_cases selected : session.current = some id
      · simp only [selected, if_true, resultOf_bind, resultOf_makeCurrent]
        generalize Store.mark _ _ = marked
        obtain ⟨store, fault | _⟩ := marked <;> exact ⟨rfl, rfl⟩
      · simp only [if_neg selected]
        exact ⟨rfl, rfl⟩

end Holdings

section Brings

variable {session : Session} {action : Action Nat} {template : Template} {replaced : Option String}

/-- An action that comes to the saving of a template has taken away what is replaced, and fails, or it
has brought in the template as well. -/
theorem Brings.holdings
    (brings : Brings session action template replaced) :
    let result := resultOf action session
    (result.2.index = (session.cleared replaced).index ∧ result.2.templates = session.templates ∧
        ∃ fault, result.1 = .error fault) ∨
      (result.2.index = ((session.cleared replaced).tracked template).index ∧
        result.2.templates = session.templates ++ [template] ∧
        ((∃ fault, result.1 = .error fault) ∨ result.1 = .ok session.templates.length)) := by
  obtain ⟨isCurrent, same⟩ := brings.resultOf_eq
  obtain ⟨index, templates⟩ := holdings_clear brings.free.1
  intro result
  have cleared : result = resultOf (clear replaced >>= fun _ => add template isCurrent) session := same
  rw [cleared, resultOf_bind]
  cases done : (resultOf (clear replaced) session).1 with
  | error fault =>
    left
    rw [(Prod.ext done rfl : resultOf (clear replaced) session = (.error fault, _))]
    exact ⟨index, templates, fault, rfl⟩
  | ok =>
    right
    rw [resultOf_clear brings.free.1 done, ← session.templates_cleared replaced]
    exact holdings_add template isCurrent (session.cleared replaced)

/-- Of the templates that were held, all but the one that is replaced are held under their ids. -/
theorem Brings.number?_eq_some_iff
    (brings : Brings session action template replaced)
    {number : Nat}
    (old : number < session.templates.length)
    (id : String) :
    (resultOf action session).2.number? id = some number ↔
      session.number? id = some number ∧ replaced ≠ some id := by
  rw [← number?_cleared_eq_some_iff]
  rcases brings.holdings with ⟨index, _⟩ | ⟨index, _⟩
  · unfold number?
    rw [index]
  · have found : (resultOf action session).2.number? id =
        if template.id = id then some (session.cleared replaced).templates.length
        else (session.cleared replaced).number? id := by
      unfold number?
      rw [index]
      exact Table.get?_put _ _ _ _
    rw [found, templates_cleared]
    split
    · rename_i here
      have free := number?_cleared brings.free.2
      rw [here] at free
      rw [free, Option.some.injEq]
      exact iff_of_false (Nat.ne_of_gt old) nofun
    · rfl

/-- The template that is brought in is a new one and is held under its id. -/
theorem Brings.answer
    (brings : Brings session action template replaced)
    {number : Nat}
    (answered : (resultOf action session).1 = .ok number) :
    number = session.templates.length ∧
      (resultOf action session).2.number? template.id = some number := by
  rcases brings.holdings with ⟨_, _, fault, failed⟩ | ⟨index, _, ⟨fault, failed⟩ | done⟩
  · cases failed.symm.trans answered
  · cases failed.symm.trans answered
  · obtain rfl := Except.ok.inj (done.symm.trans answered)
    refine ⟨rfl, ?_⟩
    unfold number?
    rw [index, ← session.templates_cleared replaced]
    exact (Table.get?_put _ _ _ _).trans (if_pos rfl)

theorem Brings.length_le
    (brings : Brings session action template replaced) :
    session.templates.length ≤ (resultOf action session).2.templates.length := by
  rcases brings.holdings with ⟨_, templates, _⟩ | ⟨_, templates, _⟩
  · rw [templates]
  · rw [templates, List.length_append]
    exact Nat.le_add_right _ _

end Brings

/-! ## Templates that are overtaken -/

/-- The import leads by its id to a template that is held, and the policy is to replace that or to keep
it. -/
def ImportSource.Overtakes
    (source : ImportSource)
    (policy : ConflictPolicy)
    (session : Session)
    (number : Nat) : Prop :=
  policy ≠ .rename ∧ ∃ id plan, source.id? = some id ∧ session.number? id = some number ∧
    session.plan source (.str policy.name) = .ok plan

/-- The entry is not passed over, and leads by the id in its manifest to a template that is held and
that it replaces or is kept out by. -/
def Overtakes
    (policy : ConflictPolicy)
    (session : Session)
    (entry : String × Json)
    (number : Nat) : Prop :=
  passesOver policy session entry.1 = false ∧
    ∃ source, editorSource entry.2 = .ok source ∧ source.Overtakes policy session number

/-- What comes of one import for what is held: an overtaken template is answered with or is gone, and
any other that was held is held. -/
structure Advances (before after : Session) (overtaken : Nat -> Prop) (gained : Option Nat) : Prop where
  grows : before.templates.length ≤ after.templates.length
  wasHeld : ∀ {number}, overtaken number -> before.Holding number
  stays : ∀ {number}, number < before.templates.length -> ¬ overtaken number ->
    (after.Holding number ↔ before.Holding number)
  answer : ∀ {number}, gained = some number -> after.Holding number
  isNew : ∀ {number}, gained = some number -> ¬ overtaken number -> before.templates.length ≤ number
  isGone : ∀ {number}, overtaken number -> gained = some number ∨ ¬ after.Holding number

section Advances

variable {session : Session} {source : ImportSource} {policy : ConflictPolicy}

theorem advances_of_unchanged
    {overtaken : Nat -> Prop}
    (none : ∀ number, ¬ overtaken number) : Advances session session overtaken .none where
  grows := Nat.le_refl _
  wasHeld overtakes := absurd overtakes (none _)
  stays _ _ := Iff.rfl
  answer given := nomatch given
  isNew given := nomatch given
  isGone overtakes := absurd overtakes (none _)

/-- A template that is kept is overtaken and answered with. -/
theorem advances_of_kept
    {kept : Nat}
    (holding : session.Holding kept) : Advances session session (· = kept) (some kept) where
  grows := Nat.le_refl _
  wasHeld overtakes := overtakes ▸ holding
  stays _ _ := Iff.rfl
  answer given := Option.some.inj given ▸ holding
  isNew given notTaken := absurd (Option.some.inj given).symm notTaken
  isGone overtakes := Or.inl (congrArg some overtakes.symm)

/-- What is replaced is overtaken and gone, and what is answered with is new. -/
theorem Brings.advances
    (indexed : Indexed session)
    {action : Action Nat}
    {template : Template}
    {replaced : Option String}
    (brings : Brings session action template replaced) :
    Advances session (resultOf action session).2
      (fun number => ∃ id, replaced = some id ∧ session.number? id = some number)
      (resultOf action session).1.toOption where
  grows := brings.length_le
  wasHeld := by
    rintro number ⟨id, _, held⟩
    exact ⟨id, held⟩
  stays {number} old notReplaced := by
    refine exists_congr fun id => (brings.number?_eq_some_iff old id).trans ?_
    exact and_iff_left_of_imp fun held same => notReplaced ⟨id, same, held⟩
  answer given := ⟨template.id, (brings.answer (ok_of_toOption given)).2⟩
  isNew given _ := (brings.answer (ok_of_toOption given)).1.ge
  isGone := by
    rintro number ⟨id, same, held⟩
    refine Or.inr ?_
    rintro ⟨other, still⟩
    obtain ⟨before, differs⟩ :=
      (brings.number?_eq_some_iff (number?_lt indexed held) other).1 still
    rw [indexed.id_unique before held] at differs
    exact differs same

/-- A template is overtaken by what replaces it. -/
theorem overtakes_iff_of_add
    {template : Template}
    {replaced : Option String}
    (planned : session.plan source (.str policy.name) = .ok (.add template replaced))
    (number : Nat) :
    source.Overtakes policy session number ↔
      ∃ id, replaced = some id ∧ session.number? id = some number := by
  obtain ⟨known, id, isKnown, asked, _, place⟩ := plan_of_add planned
  obtain rfl := Except.ok.inj (isKnown.symm.trans policy.ofJson_name)
  unfold ImportSource.Overtakes
  rw [asked, planned]
  rcases place with ⟨free, _, rfl⟩ | ⟨_, _, rfl, _, rfl⟩ | ⟨_, held, rfl, _, rfl⟩
  · simp [free]
  · simp
  · simp

/-- A template is overtaken when it is kept under a policy of skipping. -/
theorem overtakes_iff_of_keep
    {kept : Nat}
    (planned : session.plan source (.str policy.name) = .ok (.keep kept))
    (number : Nat) :
    (source.Overtakes policy session number ↔ number = kept) ∧ session.Holding kept := by
  obtain ⟨known, members, isKnown, identified, found⟩ := plan_cases planned
  obtain rfl := Except.ok.inj (isKnown.symm.trans policy.ofJson_name)
  rcases found with ⟨id, other, given, held, byPolicy⟩ | ⟨_, _, same, _⟩
  · have asked := id?_of_identified identified given
    cases known with
    | skip =>
      cases byPolicy
      refine ⟨?_, id, held⟩
      unfold ImportSource.Overtakes
      rw [asked, planned]
      simp [held, eq_comm]
    | rename =>
      obtain ⟨_, same, _⟩ := byPolicy
      cases same
    | replace =>
      obtain ⟨_, same, _⟩ := byPolicy
      cases same
  · cases same

/-- What the import of a template comes to for what is held. -/
theorem advances_importTemplate
    (indexed : Indexed session)
    (source : ImportSource)
    (policy : ConflictPolicy) :
    let result := resultOf (importTemplate source (.str policy.name)) session
    Advances session result.2 (source.Overtakes policy session) result.1.toOption := by
  intro result
  have resolved := resultOf_importTemplate session source (.str policy.name)
  cases planned : session.plan source (.str policy.name) with
  | error fault =>
    rw [planned] at resolved
    have refused : result = (.error fault, session) := resolved
    rw [refused]
    refine advances_of_unchanged fun number overtakes => ?_
    obtain ⟨_, _, _, _, _, other⟩ := overtakes
    cases planned.symm.trans other
  | ok plan =>
    cases plan with
    | keep kept =>
      rw [planned] at resolved
      have found : result = (.ok kept, session) := resolved
      rw [found]
      have same : source.Overtakes policy session = (· = kept) := by
        funext number
        exact propext (overtakes_iff_of_keep planned number).1
      rw [same]
      exact advances_of_kept (overtakes_iff_of_keep planned kept).2
    | add template replaced =>
      have brings : Brings session (importTemplate source (.str policy.name)) template replaced :=
        .importTemplate planned
      have same : source.Overtakes policy session =
          fun number => ∃ id, replaced = some id ∧ session.number? id = some number := by
        funext number
        exact propext (overtakes_iff_of_add planned number)
      rw [same]
      exact brings.advances indexed

/-- What an entry comes to for what is held. -/
theorem advances_afterEntry
    (indexed : Indexed session)
    (policy : ConflictPolicy)
    (entry : String × Json) :
    Advances session (afterEntry policy session entry) (Overtakes policy session entry)
      (gained? policy session entry) := by
  unfold afterEntry gained? Overtakes
  cases passesOver policy session entry.1 with
  | true => exact advances_of_unchanged fun _ overtakes => Bool.false_ne_true overtakes.1.symm
  | false =>
    rw [resultOf_importEditor_eq]
    cases editorSource entry.2 with
    | error fault =>
      refine advances_of_unchanged fun number overtakes => ?_
      obtain ⟨_, _, same, _⟩ := overtakes
      cases same
    | ok source =>
      have advances := advances_importTemplate indexed source policy
      simpa using advances

end Advances

/-! ## Reports -/

/-- The templates with the numbers are held, and none of them is listed twice. -/
structure Reports (session : Session) (numbers : List Nat) : Prop where
  held : ∀ number ∈ numbers, session.Holding number
  once : numbers.Nodup

/-- Then every template is the one that is held under its id, and no id is listed twice. -/
theorem Indexed.reports_iff
    {session : Session}
    (indexed : Indexed session)
    (numbers : List Nat) :
    session.Reports numbers ↔
      (∀ number ∈ numbers, ∃ template, session.template? number = some template ∧
          session.number? template.id = some number) ∧
        (numbers.map fun number => (session.template? number).map Template.id).Nodup := by
  constructor
  · rintro ⟨held, once⟩
    have isHeld : ∀ number ∈ numbers, ∃ template, session.template? number = some template ∧
        session.number? template.id = some number := by
      intro number member
      obtain ⟨id, leads⟩ := held number member
      obtain ⟨template, present, rfl⟩ := indexed.leads leads
      exact ⟨template, present, leads⟩
    refine ⟨isHeld, once.map_on fun first isFirst second isSecond same => ?_⟩
    obtain ⟨template, present, leads⟩ := isHeld first isFirst
    obtain ⟨other, otherPresent, otherLeads⟩ := isHeld second isSecond
    rw [present, otherPresent, Option.map_some, Option.map_some, Option.some.injEq] at same
    rw [same] at leads
    exact Option.some.inj (leads.symm.trans otherLeads)
  · rintro ⟨isHeld, once⟩
    refine ⟨fun number member => ?_, once.of_map _⟩
    obtain ⟨template, _, leads⟩ := isHeld number member
    exact ⟨template.id, leads⟩

theorem reports_nil (session : Session) : session.Reports [] :=
  ⟨nofun, List.nodup_nil⟩

/-! ## Entry by entry -/

section Entries

variable {policy : ConflictPolicy} {session : Session} {entry : String × Json} {numbers : List Nat}
  {number : Nat} (indexed : Indexed session)
include indexed

theorem Indexed.afterEntry
    (policy : ConflictPolicy)
    (entry : String × Json) : Indexed (afterEntry policy session entry) := by
  unfold Session.afterEntry
  split
  · exact indexed
  · exact maintained_indexed.keeps_importEditor arising_valid _ _ session indexed

/-- What has been listed goes on to be held, with what the entry gives, unless the entry overtakes it. -/
theorem Reports.afterEntry
    (reports : session.Reports numbers)
    (untouched : ∀ number ∈ numbers, ¬ Overtakes policy session entry number) :
    (afterEntry policy session entry).Reports (numbers ++ (gained? policy session entry).toList) := by
  have advances := advances_afterEntry indexed policy entry
  have old {number : Nat} (member : number ∈ numbers) :=
    indexed.lt_of_holding (reports.held number member)
  refine ⟨fun number member => ?_, List.nodup_append.2 ⟨reports.once, ?_, ?_⟩⟩
  · rcases List.mem_append.1 member with listed | given
    · exact (advances.stays (old listed) (untouched number listed)).2 (reports.held number listed)
    · exact advances.answer (Option.mem_toList.1 given)
  · cases gained? policy session entry <;> simp
  · rintro number listed _ given rfl
    have new := advances.isNew (Option.mem_toList.1 given) (untouched number listed)
    exact absurd (old listed) (Nat.not_lt.2 new)

/-- A template that is no longer held is not held again. -/
theorem not_holding_foldl
    (old : number < session.templates.length)
    (gone : ¬ session.Holding number)
    (entries : Table Json) :
    ¬ (entries.foldl (Session.afterEntry policy) session).Holding number := by
  induction entries generalizing session with
  | nil => exact gone
  | cons entry rest ih =>
    have advances := advances_afterEntry indexed policy entry
    refine ih (indexed.afterEntry policy entry) (old.trans_le advances.grows) ?_
    rwa [advances.stays old fun overtakes => gone (advances.wasHeld overtakes)]

/-- What has been overtaken is no longer held in the end or is listed twice. -/
theorem not_reports_of_overtakes
    (listed : number ∈ numbers)
    (overtakes : Overtakes policy session entry number)
    (rest : Table Json) :
    ¬ ((entry :: rest).foldl (Session.afterEntry policy) session).Reports
      (numbers ++ gained policy session (entry :: rest)) := by
  intro reports
  have advances := advances_afterEntry indexed policy entry
  rcases advances.isGone overtakes with given | gone
  · have again : number ∈ gained policy session (entry :: rest) :=
      List.mem_append_left _ (Option.mem_toList.2 given)
    exact (List.nodup_append.1 reports.once).2.2 number listed number again rfl
  · have old := (indexed.lt_of_holding (advances.wasHeld overtakes)).trans_le advances.grows
    have still := reports.held number (List.mem_append_left _ listed)
    exact not_holding_foldl (indexed.afterEntry policy entry) old gone rest still

/-- Entries leave what has been listed before them, and what they give, to be held and listed once,
exactly if none of them overtakes what has been listed by then. -/
theorem reports_foldl_iff
    (reports : session.Reports numbers)
    (entries : Table Json) :
    (entries.foldl (Session.afterEntry policy) session).Reports
        (numbers ++ gained policy session entries) ↔
      ∀ before entry rest, entries = before ++ entry :: rest ->
        ∀ number ∈ numbers ++ gained policy session before,
          ¬ Overtakes policy (before.foldl (Session.afterEntry policy) session) entry number := by
  induction entries generalizing session numbers with
  | nil =>
    refine iff_of_true ?_ fun before entry rest split => ?_
    · rw [gained, List.append_nil]
      exact reports
    · cases before <;> cases split
  | cons first others ih =>
    have next (untouched : ∀ number ∈ numbers, ¬ Overtakes policy session first number) :=
      ih (indexed.afterEntry policy first) (Reports.afterEntry indexed reports untouched)
    simp only [List.append_assoc] at next
    constructor
    · intro final
      have untouched : ∀ number ∈ numbers, ¬ Overtakes policy session first number :=
        fun number listed overtakes => not_reports_of_overtakes indexed listed overtakes others final
      intro before entry rest split number listed
      cases before with
      | nil =>
        cases split
        rw [gained, List.append_nil] at listed
        exact untouched number listed
      | cons head tail =>
        cases split
        exact (next untouched).1 final tail entry rest rfl number listed
    · intro untouched
      have here : ∀ number ∈ numbers, ¬ Overtakes policy session first number :=
        fun number listed => untouched [] first others rfl number (List.mem_append_left _ listed)
      exact (next here).2 fun before entry rest split number listed =>
        untouched (first :: before) entry rest (congrArg (first :: ·) split) number listed

end Entries

/-! ## Documents -/

/-- The document is a bundle with some entries. -/
def IsBundle (document : Json) (entries : Table Json) : Prop :=
  Exchange.kindOf document = .ok .multiBundle ∧
    Json.memberOrNull (document.obj?.getD []) "templates" = .obj entries

section Documents

variable {session after : Session} (indexed : Indexed session)
include indexed

theorem reports_of_importTemplate
    {source : ImportSource}
    {policy : Json}
    {number : Nat}
    (imported : resultOf (importTemplate source policy) session = (.ok number, after)) :
    after.Reports [number] := by
  have planned := resultOf_importTemplate session source policy
  rw [imported] at planned
  cases plan : session.plan source policy with
  | error fault =>
    rw [plan] at planned
    cases planned
  | ok known =>
    obtain ⟨known, _, isPolicy, _⟩ := plan_cases plan
    have advances := advances_importTemplate indexed source known
    rw [← ConflictPolicy.eq_name_of_ofJson isPolicy, imported] at advances
    exact ⟨List.forall_mem_singleton.2 (advances.answer rfl), List.nodup_singleton number⟩

theorem reports_of_importEditor
    {template policy : Json}
    {number : Nat}
    (imported : resultOf (importEditor template policy) session = (.ok number, after)) :
    after.Reports [number] := by
  rw [resultOf_importEditor_eq] at imported
  cases source : editorSource template with
  | error fault =>
    rw [source] at imported
    cases imported
  | ok source =>
    rw [source] at imported
    exact reports_of_importTemplate indexed imported

/-- The numbers that the import of a bundle is answered with name templates that are held, each of them
once, exactly if no entry overtakes what an entry before it has given. -/
theorem reports_importEntries_iff
    {policy : Json}
    {entries : Table Json}
    {numbers : List Nat}
    (imported : resultOf (importEntries policy entries) session = (.ok numbers, after)) :
    after.Reports numbers ↔
      ∀ known, ConflictPolicy.ofJson policy = .ok known ->
        ∀ before entry rest, entries = before ++ entry :: rest ->
          ∀ number ∈ gained known session before,
            ¬ Overtakes known (before.foldl (afterEntry known) session) entry number := by
  cases entries with
  | nil =>
    cases imported
    refine iff_of_true (reports_nil _) fun known _ before entry rest split => ?_
    cases before <;> cases split
  | cons first others =>
    cases isPolicy : ConflictPolicy.ofJson policy with
    | error fault =>
      rw [importEntries, isPolicy, resultOf_bind, resultOf_lift] at imported
      cases imported
    | ok known =>
      obtain rfl := ConflictPolicy.eq_name_of_ofJson isPolicy
      have undisturbed := resultOf_importEntries_of_undisturbed fun comes =>
        not_breaksOff_of_ok (congrArg Prod.fst imported) comes
      cases imported.symm.trans undisturbed
      have runs : ((first :: others).foldl (afterEntry known) session).Reports
          ([] ++ gained known session (first :: others)) ↔ _ :=
        reports_foldl_iff indexed (reports_nil session) (first :: others)
      simp only [List.nil_append] at runs
      simp only [Except.ok.injEq, forall_eq']
      exact runs

omit indexed in
theorem ok_of_single
    {action : Action Nat}
    {numbers : List Nat}
    (imported : resultOf (action >>= fun number => pure [number]) session = (.ok numbers, after)) :
    ∃ number, numbers = [number] ∧ resultOf action session = (.ok number, after) := by
  rw [resultOf_bind] at imported
  rcases result : resultOf action session with ⟨fault | number, between⟩
  · rw [result] at imported
    cases imported
  · rw [result] at imported
    cases imported
    exact ⟨number, rfl, rfl⟩

/-- A document is imported as a bundle of entries, or the answer reports its template. -/
theorem importDocument_cases
    {document policy : Json}
    {numbers : List Nat}
    (imported : resultOf (importDocument document policy) session = (.ok numbers, after)) :
    (∃ entries, IsBundle document entries ∧
        resultOf (importEntries policy entries) session = (.ok numbers, after)) ∨
      ((∀ entries, ¬ IsBundle document entries) ∧ after.Reports numbers) := by
  unfold importDocument at imported
  rw [resultOf_bind, resultOf_lift] at imported
  unfold IsBundle
  cases isKind : Exchange.kindOf document with
  | error fault =>
    rw [isKind] at imported
    cases imported
  | ok kind =>
    rw [isKind] at imported
    cases kind with
    | multiBundle =>
      left
      dsimp only at imported
      cases given : Json.memberOrNull (document.obj?.getD []) "templates" with
      | obj entries =>
        rw [given] at imported
        exact ⟨entries, ⟨rfl, rfl⟩, imported⟩
      | _ =>
        rw [given] at imported
        cases imported
    | editorTemplate =>
      obtain ⟨number, rfl, ran⟩ := ok_of_single imported
      exact Or.inr ⟨nofun, reports_of_importEditor indexed ran⟩
    | exportBundle =>
      dsimp only at imported
      rw [resultOf_bind, resultOf_lift] at imported
      cases split : Exchange.splitBundle document with
      | error fault =>
        rw [split] at imported
        cases imported
      | ok parts =>
        rw [split] at imported
        obtain ⟨number, rfl, ran⟩ := ok_of_single imported
        exact Or.inr ⟨nofun, reports_of_importTemplate indexed ran⟩
    | rawManifest =>
      obtain ⟨number, rfl, ran⟩ := ok_of_single imported
      exact Or.inr ⟨nofun, reports_of_importTemplate indexed ran⟩

end Documents

/-- Every template that the import of a document is answered with is the one that the session holds
under its id, and no id is listed twice, unless the document is a bundle in which an entry replaces, or
is kept out by, what an entry before it has given. -/
theorem imported_templates_held_iff
    {session after : Session}
    (reached : Reached session)
    {document policy : Json}
    {numbers : List Nat}
    (imported : resultOf (importDocument document policy) session = (.ok numbers, after)) :
    ((∀ number ∈ numbers, ∃ template, after.template? number = some template ∧
          after.number? template.id = some number) ∧
        (numbers.map fun number => (after.template? number).map Template.id).Nodup) ↔
      ∀ entries known, IsBundle document entries -> ConflictPolicy.ofJson policy = .ok known ->
        ∀ before entry rest, entries = before ++ entry :: rest ->
          ∀ number ∈ gained known session before,
            ¬ Overtakes known (before.foldl (afterEntry known) session) entry number := by
  have indexedAfter : Indexed after := by
    have kept := maintained_indexed.keeps_importDocument arising_valid document policy session
      reached.indexed
    rwa [imported] at kept
  rw [← indexedAfter.reports_iff]
  rcases importDocument_cases reached.indexed imported with
    ⟨entries, isBundle, imported⟩ | ⟨noBundle, reports⟩
  · rw [reports_importEntries_iff reached.indexed imported]
    constructor
    · intro untouched others known alsoBundle
      cases isBundle.2.symm.trans alsoBundle.2
      exact untouched known
    · exact fun untouched known => untouched entries known isBundle
  · exact iff_of_true reports fun entries _ isBundle => absurd isBundle (noBundle entries)

/-- A bundle that has one id twice is answered with both templates under a policy of replacement, and
the first of them is not held. -/
theorem replaced_entry_is_listed :
    let session := (opened {} {}).2
    let named (name : String) : Json :=
      .obj [("manifest", .obj [("id", .str "x"), ("name", .str name)])]
    let document : Json := .obj [("format", .str "ograf-editor-bundle"),
      ("templates", .obj [("a", named "A"), ("b", named "B")])]
    let result := resultOf (importDocument document (.str "replace")) session
    result.1 = .ok [0, 1] ∧
      ¬ ((∀ number ∈ [0, 1], ∃ template, result.2.template? number = some template ∧
          result.2.number? template.id = some number) ∧
        ([0, 1].map fun number => (result.2.template? number).map Template.id).Nodup) := by
  intro session named document result
  have reached : Reached session := ⟨{}, {}, [], rfl⟩
  have answered : result.1 = .ok [0, 1] := by decide +kernel
  have imported : result = (.ok [0, 1], result.2) := by rw [← answered]
  refine ⟨answered, fun reports => ?_⟩
  have untouched := (imported_templates_held_iff reached imported).1 reports
    [("a", named "A"), ("b", named "B")] .replace ⟨by decide +kernel, rfl⟩ rfl
    [("a", named "A")] ("b", named "B") [] rfl 0 (by decide +kernel)
  let between : Session := afterEntry .replace session ("a", named "A")
  let source : ImportSource := { manifest := .obj [("id", .str "x"), ("name", .str "B")] }
  have held : between.number? "x" = some 0 := by decide +kernel
  have isPlanned : (between.plan source (.str "replace")).toOption.isSome = true := by
    decide +kernel
  cases planned : between.plan source (.str "replace") with
  | error fault =>
    rw [planned] at isPlanned
    cases isPlanned
  | ok plan => exact untouched ⟨rfl, source, rfl, nofun, "x", plan, rfl, held, planned⟩

end Session
end BroadcastGraphics
