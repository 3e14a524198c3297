import BroadcastGraphics.Proofs.SessionCommand

/-!
# Imports obey their conflict policy

An import into a session over a store in memory either is given up, or it leaves the session and the
store as its policy says.  Giving up leaves everything as it was, with one exception: a template that
cannot be written is found out only when it has taken its place.  So imports obey their policies
exactly where the planned template can be written.
-/

namespace BroadcastGraphics

/-- A template can be written: no value that can be anything has too many levels. -/
def Template.Writable (template : Template) : Prop :=
  ∀ value ∈ template.manifest.freeValues, value.levels ≤ Json.mostLevels

theorem Template.written_of_writable
    {template : Template}
    (writable : template.Writable) : template.written = .ok template.toJson := by
  refine if_pos ?_
  rw [List.all_eq_true]
  exact fun value member => decide_eq_true (writable value member)

theorem Template.written_of_not_writable
    {template : Template}
    (unwritable : ¬ template.Writable) :
    template.written = .error (.misuse .tooDeepToWrite) := by
  refine if_neg fun shallow => unwritable fun value member => ?_
  exact of_decide_eq_true (List.all_eq_true.1 shallow value member)

namespace Session

/-! ## What an import has to do -/

/-- The templates that a session holds, under their ids and in order. -/
def entries (session : Session) : Table Template :=
  session.index.filterMap fun entry =>
    (session.template? entry.2).map fun template => (entry.1, template)

/-- Behind the entries that are kept the session has one more template, which is current, and in the
store only its text and the marker are new. -/
structure Appends
    (template : Template)
    (kept : Table Template)
    (before after : Session) : Prop where
  entries : after.entries = kept ++ [(template.id, template)]
  current : after.current = some template.id
  stored : ∃ old new, before.store.backend = .memory old ∧ after.store.backend = .memory new ∧
    new.marker = .str template.id ∧
    Table.get? new.texts template.id = some (template.toJson.literal none) ∧
    Table.remove new.texts template.id = Table.remove old.texts template.id

/-- What an import that gives a template leaves behind: under a free id the template is appended,
and under a taken one the policy decides. -/
def Resolves
    (source : ImportSource)
    (policy : ConflictPolicy)
    (before after : Session)
    (number : Nat) : Prop :=
  ∃ id, source.id? = some id ∧
    match before.number? id, policy with
    | none, _ =>
        ∃ template, template.id = id ∧ after.template? number = some template ∧
          Describes source id template ∧ Appends template before.entries before after
    | some existing, .skip => number = existing ∧ after = before
    | some _, .rename =>
        ∃ place template, 2 ≤ place ∧ before.holds (numberedId id place) = false ∧
          (∀ earlier, 2 ≤ earlier -> earlier < place ->
            before.holds (numberedId id earlier) = true) ∧
          template.id = numberedId id place ∧ after.template? number = some template ∧
          Describes source id template ∧ Appends template before.entries before after
    | some _, .replace =>
        ∃ template, template.id = id ∧ after.template? number = some template ∧
          Describes source id template ∧
          Appends template (Table.remove before.entries id) before after

/-- An import obeys its policy: a failed one leaves all as it was, and one that gives a template
resolves a conflict as the policy says. -/
def ObeysPolicy
    (source : ImportSource)
    (policy : Json)
    (before : Session) : Except Fault Nat × Session -> Prop
  | (.error _, after) => after = before
  | (.ok number, after) =>
      ∃ known, ConflictPolicy.ofJson policy = .ok known ∧
        Resolves source known before after number

/-- What a plan adds can be written. -/
def ImportPlan.Writable : ImportPlan -> Prop
  | .keep _ => True
  | .add template _ => template.Writable

/-! ## Sessions over a store in memory -/

/-- The store lies in memory and does not fail. -/
structure InMemory (store : Store) : Prop where
  memory : ∃ memory, store.backend = .memory memory
  saves : store.failsToSave = false
  marks : store.failsToMark = false

/-- The session lies over a store in memory, and every id leads to a template. -/
structure Settled (session : Session) : Prop where
  store : InMemory session.store
  inRange : ∀ entry ∈ session.index, entry.2 < session.templates.length

section InMemory

variable {store : Store} {memory : Store.Memory}

theorem save_of_memory
    (inMemory : store.backend = .memory memory)
    (saves : store.failsToSave = false)
    (id : String)
    (snapshot : Json) :
    store.save id snapshot =
      ({ store with backend := .memory (memory.save id snapshot) }, .ok ()) := by
  unfold Store.save
  rw [if_neg (by rw [saves]; exact Bool.false_ne_true), inMemory]

theorem delete_of_memory
    (inMemory : store.backend = .memory memory)
    (id : String) :
    store.delete id =
      ({ store with backend := .memory (memory.delete id) }, .ok (memory.holds id)) := by
  unfold Store.delete
  rw [inMemory]

theorem mark_of_memory
    (inMemory : store.backend = .memory memory)
    (marks : store.failsToMark = false)
    (marker : Json) :
    store.mark marker = ({ store with backend := .memory (memory.mark marker) }, .ok ()) := by
  unfold Store.mark
  rw [if_neg (by rw [marks]; exact Bool.false_ne_true), inMemory]

theorem InMemory.save
    (sound : InMemory store)
    (id : String)
    (snapshot : Json) : InMemory (store.save id snapshot).1 := by
  obtain ⟨memory, inMemory⟩ := sound.memory
  rw [save_of_memory inMemory sound.saves]
  exact ⟨⟨_, rfl⟩, sound.saves, sound.marks⟩

theorem InMemory.delete
    (sound : InMemory store)
    (id : String) : InMemory (store.delete id).1 := by
  obtain ⟨memory, inMemory⟩ := sound.memory
  rw [delete_of_memory inMemory]
  exact ⟨⟨_, rfl⟩, sound.saves, sound.marks⟩

theorem InMemory.mark
    (sound : InMemory store)
    (marker : Json) : InMemory (store.mark marker).1 := by
  obtain ⟨memory, inMemory⟩ := sound.memory
  rw [mark_of_memory inMemory sound.marks]
  exact ⟨⟨_, rfl⟩, sound.saves, sound.marks⟩

end InMemory

/-- Any template may come into a settled session. -/
theorem arising_true : Arising fun _ => True :=
  ⟨fun _ _ => trivial, fun _ => trivial, fun _ => trivial, fun _ => trivial⟩

/-- Sessions stay settled whatever is done in them. -/
theorem stable_settled : Stable (fun _ => True) Settled where
  fits _ _ := trivial
  saved id snapshot settled := ⟨settled.store.save id snapshot, settled.inRange⟩
  deleted id settled := ⟨settled.store.delete id, settled.inRange⟩
  marked marker settled := ⟨settled.store.mark marker, settled.inRange⟩
  selected _ settled := ⟨settled.store, settled.inRange⟩
  edited number _ settled := by
    refine ⟨settled.store, fun entry member => ?_⟩
    rw [withTemplate, List.length_set]
    exact settled.inRange entry member
  tracked _ settled := by
    refine ⟨settled.store, fun entry member => ?_⟩
    rw [tracked, List.length_append, List.length_singleton]
    rcases Table.mem_put member with new | old
    · rw [new]
      exact Nat.lt_succ_self _
    · exact Nat.lt_succ_of_lt (settled.inRange entry old)
  rekeyed old new inRange settled := by
    refine ⟨settled.store, fun entry member => ?_⟩
    rcases Table.mem_put member with here | other
    · rw [here]
      exact inRange
    · exact settled.inRange entry (Table.mem_of_mem_remove other)
  released id settled :=
    ⟨settled.store, fun entry member => settled.inRange entry (Table.mem_of_mem_remove member)⟩

/-! ## The plan of an import and what it does -/

/-- Templates that come in later do not change what earlier numbers lead to. -/
theorem entries_append
    {session : Session}
    (template : Template)
    (inRange : ∀ entry ∈ session.index, entry.2 < session.templates.length) :
    (session.index.filterMap fun entry =>
        ((session.templates ++ [template])[entry.2]?).map fun found => (entry.1, found)) =
      session.entries := by
  refine List.filterMap_congr fun entry member => ?_
  rw [List.getElem?_append_left (inRange entry member)]
  rfl

/-- A template that comes in under a free id comes last. -/
theorem entries_tracked
    {session : Session}
    (inRange : ∀ entry ∈ session.index, entry.2 < session.templates.length)
    {template : Template}
    (free : session.number? template.id = none) :
    (session.tracked template).entries = session.entries ++ [(template.id, template)] := by
  have absent : template.id ∉ Table.names session.index :=
    (Table.get?_eq_none_iff _ _).1 free
  change (Table.put session.index template.id session.templates.length).filterMap _ = _
  rw [Table.put_of_notMem absent, List.filterMap_append]
  refine congrArg₂ _ (entries_append template inRange) ?_
  refine List.filterMap_cons_some ?_
  rw [template?_tracked session template]
  rfl

/-- Removing a name from a table and from what becomes of its entries is the same. -/
theorem filterMap_remove
    {α β : Type}
    {change : String × α -> Option (String × β)}
    (sameName : ∀ entry made, change entry = some made -> made.1 = entry.1)
    (table : Table α)
    (name : String) :
    (Table.remove table name).filterMap change = Table.remove (table.filterMap change) name := by
  induction table with
  | nil => rfl
  | cons entry rest ih =>
    cases made : change entry with
    | none =>
      rw [List.filterMap_cons_none made, ← ih, Table.remove]
      split
      · rfl
      · rw [List.filterMap_cons_none made]
    | some result =>
      have name_eq := sameName entry result made
      rw [List.filterMap_cons_some made, Table.remove, Table.remove, name_eq]
      split
      · exact ih
      · rw [List.filterMap_cons_some made, ih, ← name_eq]

theorem entries_released
    (session : Session)
    (id : String) :
    ({ session with index := Table.remove session.index id } : Session).entries =
      Table.remove session.entries id := by
  refine filterMap_remove (fun entry made found => ?_) session.index id
  obtain ⟨template, _, rfl⟩ := Option.map_eq_some_iff.1 found
  rfl

/-! ### Adding and deleting over a store in memory -/

/-- Adding a template that can be written under a free id appends it. -/
theorem add_appends
    {session : Session}
    {template : Template}
    (settled : Settled session)
    (free : session.number? template.id = none)
    (writable : template.Writable) :
    ∃ after, resultOf (add template true) session = (.ok session.templates.length, after) ∧
      after.template? session.templates.length = some template ∧
      Appends template session.entries session after := by
  obtain ⟨memory, inMemory⟩ := settled.store.memory
  have marked := @mark_of_memory
    { session.store with backend := .memory (memory.save template.id template.toJson) } _ rfl
    settled.store.marks (.str template.id)
  have added := resultOf_add true (template.written_of_writable writable)
    (save_of_memory inMemory settled.store.saves _ _) fun _ => marked
  refine ⟨_, added, template?_tracked session template, ?_, rfl, memory, _, inMemory, rfl, rfl, ?_,
    Table.remove_put memory.texts template.id _⟩
  · exact entries_tracked settled.inRange free
  · exact (Table.get?_put memory.texts template.id template.id _).trans (if_pos rfl)

/-- Deleting a template that is held removes it from the session and its text from the store. -/
theorem delete_releases
    {session : Session}
    {id : String}
    (settled : Settled session)
    (held : session.holds id = true) :
    ∃ after, resultOf (delete id) session = (.ok true, after) ∧ Settled after ∧
      after.number? id = none ∧ after.templates = session.templates ∧
      after.entries = Table.remove session.entries id ∧
      ∃ old new, session.store.backend = .memory old ∧ after.store.backend = .memory new ∧
        new.texts = Table.remove old.texts id := by
  obtain ⟨memory, inMemory⟩ := settled.store.memory
  have marked := @mark_of_memory
    { session.store with backend := .memory (memory.delete id) } _ rfl
    settled.store.marks .null
  have deleted := resultOf_delete held (delete_of_memory inMemory id) fun _ => marked
  have settledAfter := stable_settled.keeps_delete id session settled
  have released : Table.get? (Table.remove session.index id) id = none := by
    rw [Table.get?_remove, if_pos rfl]
  rw [deleted] at settledAfter
  refine ⟨_, deleted, settledAfter, ?_⟩
  split
  · exact ⟨released, rfl, entries_released session id, memory, _, inMemory, rfl, rfl⟩
  · exact ⟨released, rfl, entries_released session id, memory, _, inMemory, rfl, rfl⟩

/-- Replacing a template that is held appends the new one behind the others. -/
theorem replace_appends
    {session : Session}
    {template : Template}
    (settled : Settled session)
    (held : session.holds template.id = true)
    (writable : template.Writable) :
    ∃ after, resultOf (carryOut (.add template (some template.id))) session =
        (.ok session.templates.length, after) ∧
      after.template? session.templates.length = some template ∧
      Appends template (Table.remove session.entries template.id) session after := by
  obtain ⟨between, deleted, settledBetween, free, sameTemplates, entriesBetween, old, new, inOld,
    inNew, texts⟩ := delete_releases settled held
  obtain ⟨after, added, present, appended⟩ := add_appends settledBetween free writable
  obtain ⟨_, last, inBetween, inLast, marker, text, others⟩ := appended.stored
  rw [sameTemplates] at added present
  refine ⟨after, ?_, present, ?_, appended.current, old, last, inOld, inLast, marker, text, ?_⟩
  · simp only [carryOut, resultOf_bind, deleted, added]
  · rw [appended.entries, entriesBetween]
  · rw [inNew] at inBetween
    cases inBetween
    rw [others, texts, Table.remove_of_notMem (Table.notMem_names_remove _ _)]

/-- A planned template that cannot be written is found out only after it is held. -/
theorem carryOut_of_not_writable
    {session : Session}
    {template : Template}
    {replaced : Option String}
    (settled : Settled session)
    (taken : ∀ id, replaced = some id -> session.holds id = true)
    (unwritable : ¬ template.Writable) :
    ∃ after, resultOf (carryOut (.add template replaced)) session =
        (.error (.misuse .tooDeepToWrite), after) ∧
      after.templates.length = session.templates.length + 1 := by
  have failed := Template.written_of_not_writable unwritable
  cases replaced with
  | none =>
    refine ⟨_, resultOf_add_of_error session true failed, ?_⟩
    exact List.length_append
  | some id =>
    obtain ⟨between, deleted, _, _, sameTemplates, _⟩ := delete_releases settled (taken id rfl)
    refine ⟨between.tracked template, ?_, ?_⟩
    · simp only [carryOut, resultOf_bind, deleted, resultOf_add_of_error between true failed]
    · rw [← sameTemplates]
      exact List.length_append

/-- Carrying out a plan whose template can be written resolves the conflict as the policy says. -/
theorem carryOut_resolves
    {session : Session}
    {source : ImportSource}
    {policy : Json}
    {plan : ImportPlan}
    (settled : Settled session)
    (planned : session.plan source policy = .ok plan)
    (writable : plan.Writable) :
    ∃ number after known, resultOf (carryOut plan) session = (.ok number, after) ∧
      ConflictPolicy.ofJson policy = .ok known ∧ Resolves source known session after number := by
  cases plan with
  | keep number =>
    obtain ⟨known, members, policyKnown, identified, found⟩ := plan_cases planned
    rcases found with ⟨id, existing, given, held, byPolicy⟩ | ⟨_, _, same, _⟩
    · cases known with
      | skip =>
        cases byPolicy
        refine ⟨number, session, .skip, rfl, policyKnown, id, id?_of_identified identified given, ?_⟩
        rw [held]
        exact ⟨rfl, rfl⟩
      | rename =>
        obtain ⟨_, same, _⟩ := byPolicy
        cases same
      | replace =>
        obtain ⟨_, same, _⟩ := byPolicy
        cases same
    · cases same
  | add template replaced =>
    obtain ⟨known, id, policyKnown, asked, describes, place⟩ := plan_of_add planned
    rcases place with ⟨free, sameId, rfl⟩ | ⟨number, held, rfl, renamed, rfl⟩ |
      ⟨number, held, rfl, sameId, rfl⟩
    · obtain ⟨after, added, present, appended⟩ :=
        add_appends settled (sameId ▸ free) writable
      refine ⟨_, after, known, added, policyKnown, id, asked, ?_⟩
      rw [free]
      exact ⟨template, sameId, present, describes, appended⟩
    · obtain ⟨place, numbered, fromTwo, free, earlier⟩ := freeId_spec session id
      have sameId : template.id = numberedId id place := renamed.trans numbered
      obtain ⟨after, added, present, appended⟩ :=
        add_appends settled (sameId ▸ number?_eq_none_of_holds free) writable
      refine ⟨_, after, .rename, added, policyKnown, id, asked, ?_⟩
      rw [held]
      exact ⟨place, template, fromTwo, free, earlier, sameId, present, describes, appended⟩
    · subst sameId
      obtain ⟨after, replacedBy, present, appended⟩ :=
        replace_appends settled (holds_of_number? held) writable
      refine ⟨_, after, .replace, replacedBy, policyKnown, template.id, asked, ?_⟩
      rw [held]
      exact ⟨template, rfl, present, describes, appended⟩

/-- Everything done in a session over a store in memory leaves it settled. -/
theorem settled_performAll
    (config : StudioConfig)
    (memory : Store.Memory)
    (commands : List Command) :
    Settled (performAll commands (Session.opened config { backend := .memory memory }).2) :=
  stable_settled.holds_performAll arising_true
    ⟨⟨⟨memory, rfl⟩, rfl, rfl⟩, fun _ member => nomatch member⟩ commands

/-- In every session over a store in memory, an import gives a template exactly when it can be
planned and what it adds can be written; and it obeys its policy, and is all or nothing, except where
a planned template cannot be written. -/
theorem importTemplate_obeys_policy_iff
    (config : StudioConfig)
    (memory : Store.Memory)
    (commands : List Command)
    (source : ImportSource)
    (policy : Json) :
    let before := performAll commands (Session.opened config { backend := .memory memory }).2
    let result := resultOf (importTemplate source policy) before
    ((∃ number, result.1 = .ok number) ↔
        ∃ plan, before.plan source policy = .ok plan ∧ plan.Writable) ∧
      (ObeysPolicy source policy before result ↔
        ∀ plan, before.plan source policy = .ok plan -> plan.Writable) := by
  intro before result
  have settled : Settled before := settled_performAll config memory commands
  have resultEq : result = _ := resultOf_importTemplate before source policy
  cases planned : before.plan source policy with
  | error fault =>
    rw [planned] at resultEq
    rw [resultEq]
    refine ⟨⟨?_, ?_⟩, fun _ _ isOk => (nomatch isOk), fun _ => rfl⟩
    · rintro ⟨_, isOk⟩
      cases isOk
    · rintro ⟨_, isOk, _⟩
      cases isOk
  | ok plan =>
    rw [planned] at resultEq
    by_cases writable : plan.Writable
    · obtain ⟨number, after, known, carried, policyKnown, resolves⟩ :=
        carryOut_resolves settled planned writable
      rw [resultEq]
      dsimp only
      rw [carried]
      refine ⟨⟨fun _ => ⟨plan, rfl, writable⟩, fun _ => ⟨number, rfl⟩⟩, fun _ plan' same => ?_,
        fun _ => ⟨known, policyKnown, resolves⟩⟩
      cases same
      exact writable
    · cases plan with
      | keep number => exact absurd trivial writable
      | add template replaced =>
        obtain ⟨after, carried, longer⟩ :=
          carryOut_of_not_writable settled (holds_of_plan_replaced planned) writable
        rw [resultEq]
        dsimp only
        rw [carried]
        refine ⟨⟨fun ⟨_, isOk⟩ => (nomatch isOk), fun ⟨_, same, canWrite⟩ => ?_⟩,
          fun unchanged => ?_, fun canWrite => absurd (canWrite _ rfl) writable⟩
        · cases same
          exact absurd canWrite writable
        · rw [show after = before from unchanged] at longer
          omega

/-- A value of too many levels is refused after the template to be replaced has gone. -/
example :
    let named : Table Json := [("id", .str "demo"), ("name", .str "Demo")]
    let deep := (List.range 300).foldl (fun value _ => Json.arr [value]) .null
    let before := performAll [.importTemplate { manifest := .obj named } (.str "replace")]
      (Session.opened {} {}).2
    let result := resultOf
      (importTemplate { manifest := .obj (named ++ [("x", deep)]) } (.str "replace")) before
    before.store.ids = ["demo"] ∧ result.1 = .error (.misuse .tooDeepToWrite) ∧
      result.2.store.ids = [] := by
  decide +kernel

end Session
end BroadcastGraphics
