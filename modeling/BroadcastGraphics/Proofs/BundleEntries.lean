import BroadcastGraphics.Proofs.ImportPolicy

/-!
# Entries of a bundle

The entries of a bundle are imported one after the other, each into the session that those before it
have left.  An entry that cannot be imported is left out and does not keep the others from coming in,
as long as its fault lies in its content.  Any other fault breaks the import off, and the entries
behind it are lost: so it is with a manifest of which no members can be made, and with an id that has
parts.
-/

namespace BroadcastGraphics

theorem ConflictPolicy.ofJson_name
    (policy : ConflictPolicy) : ofJson (.str policy.name) = .ok policy := by
  cases policy <;> rfl

namespace Session

/-! ## One entry -/

/-- An entry is passed over: there is a template under its name, and the policy is to skip it. -/
def passesOver (policy : ConflictPolicy) (session : Session) (name : String) : Bool :=
  policy = .skip && session.holds name

/-- The template that an entry gives by itself, by its number, if it is not passed over. -/
def gained? (policy : ConflictPolicy) (session : Session) (entry : String × Json) : Option Nat :=
  if passesOver policy session entry.1 then none
  else (resultOf (importEditor entry.2 (.str policy.name)) session).1.toOption

/-- The session after an entry. -/
def afterEntry (policy : ConflictPolicy) (session : Session) (entry : String × Json) : Session :=
  if passesOver policy session entry.1 then session
  else (resultOf (importEditor entry.2 (.str policy.name)) session).2

/-- The entry is refused for a fault that lies elsewhere than in the content of an entry. -/
def BreaksOff (policy : ConflictPolicy) (session : Session) (entry : String × Json) : Prop :=
  passesOver policy session entry.1 = false ∧
    ∃ fault, (resultOf (importEditor entry.2 (.str policy.name)) session).1 = .error fault ∧
      isEntryFault fault = false

section Entry

variable {policy : ConflictPolicy} {session : Session} {entry : String × Json}

theorem gained?_eq_some_iff
    (number : Nat) :
    gained? policy session entry = some number ↔
      passesOver policy session entry.1 = false ∧
        (resultOf (importEditor entry.2 (.str policy.name)) session).1 = .ok number := by
  unfold gained?
  cases passesOver policy session entry.1 with
  | false => cases (resultOf (importEditor entry.2 (.str policy.name)) session).1 <;>
      simp [Except.toOption]
  | true => simp

theorem resultOf_importEditor_eq
    (template policy : Json)
    (session : Session) :
    resultOf (importEditor template policy) session =
      match editorSource template with
      | .error fault => (.error fault, session)
      | .ok source => resultOf (importTemplate source policy) session := by
  unfold importEditor
  rw [resultOf_bind, resultOf_lift]
  cases editorSource template <;> rfl

theorem resultOf_importEntry
    (template policy : Json)
    (session : Session) :
    resultOf (importEntry template policy) session =
      match resultOf (importEditor template policy) session with
      | (.ok number, after) => (.ok (some number), after)
      | (.error fault, after) =>
          (if isEntryFault fault then .ok none else .error fault, after) := by
  rw [importEntry, resultOf_tryCatch, resultOf_map]
  rcases resultOf (importEditor template policy) session with ⟨fault | number, after⟩
  · dsimp only [Except.map]
    split <;> rfl
  · rfl

theorem resultOf_importEntries_cons
    {known : ConflictPolicy}
    {policy : Json}
    (isPolicy : ConflictPolicy.ofJson policy = .ok known)
    (entry : String × Json)
    (rest : Table Json)
    (session : Session) :
    resultOf (importEntries policy (entry :: rest)) session =
      if passesOver known session entry.1 then resultOf (importEntries policy rest) session
      else match resultOf (importEntry entry.2 policy) session with
        | (.ok number?, between) =>
            ((resultOf (importEntries policy rest) between).1.map (number?.toList ++ ·),
              (resultOf (importEntries policy rest) between).2)
        | (.error fault, between) => (.error fault, between) := by
  rw [importEntries, isPolicy, resultOf_bind, resultOf_lift]
  dsimp only
  rw [resultOf_bind, resultOf_get]
  dsimp only
  unfold passesOver
  split
  · rfl
  · rw [resultOf_bind]
    rcases resultOf (importEntry entry.2 policy) session with ⟨_ | number?, between⟩
    · rfl
    · dsimp only
      rw [resultOf_bind]
      rcases resultOf (importEntries policy rest) between with ⟨_ | numbers, after⟩ <;> rfl

/-- An entry that does not break the import off gives its template, if it gives one, before the
others. -/
theorem resultOf_importEntries_of_not_breaking
    (goesOn : ¬ BreaksOff policy session entry)
    (rest : Table Json) :
    resultOf (importEntries (.str policy.name) (entry :: rest)) session =
      ((resultOf (importEntries (.str policy.name) rest) (afterEntry policy session entry)).1.map
          ((gained? policy session entry).toList ++ ·),
        (resultOf (importEntries (.str policy.name) rest) (afterEntry policy session entry)).2) := by
  rw [resultOf_importEntries_cons policy.ofJson_name, afterEntry, gained?]
  split
  · rcases resultOf (importEntries (.str policy.name) rest) session with ⟨_ | numbers, after⟩ <;> rfl
  · rename_i considered
    rw [resultOf_importEntry]
    rcases result : resultOf (importEditor entry.2 (.str policy.name)) session with
      ⟨fault | number, after⟩
    · have content : isEntryFault fault = true := by
        refine Bool.of_not_eq_false fun other => goesOn ?_
        exact ⟨Bool.of_not_eq_true considered, fault, congrArg Prod.fst result, other⟩
      dsimp only
      rw [if_pos content]
      rfl
    · rfl

/-- An entry that breaks the import off is the last one. -/
theorem resultOf_importEntries_of_breaking
    (breaks : BreaksOff policy session entry)
    (rest : Table Json) :
    ∃ fault, resultOf (importEntries (.str policy.name) (entry :: rest)) session =
      (.error fault, afterEntry policy session entry) := by
  obtain ⟨considered, fault, failed, other⟩ := breaks
  refine ⟨fault, ?_⟩
  rw [resultOf_importEntries_cons policy.ofJson_name, afterEntry, resultOf_importEntry]
  rw [if_neg (ne_true_of_eq_false considered), if_neg (ne_true_of_eq_false considered)]
  rcases result : resultOf (importEditor entry.2 (.str policy.name)) session with ⟨_ | _, after⟩
  · rw [result] at failed
    cases failed
    dsimp only
    rw [if_neg (ne_true_of_eq_false other)]
  · rw [result] at failed
    cases failed

end Entry

/-! ## All entries -/

/-- Entries are considered one after the other, each in the session that those before it have left. -/
inductive Comes (policy : ConflictPolicy) :
    Session -> Table Json -> Session -> String × Json -> Prop where
  | here {session : Session} {entry : String × Json} {rest : Table Json} :
      Comes policy session (entry :: rest) session entry
  | later {session reached : Session} {first entry : String × Json} {rest : Table Json}
      (comes : Comes policy (afterEntry policy session first) rest reached entry) :
      Comes policy session (first :: rest) reached entry

/-- The templates that entries give by themselves, by their numbers and in order. -/
def gained (policy : ConflictPolicy) : Session -> Table Json -> List Nat
  | _, [] => []
  | session, entry :: rest =>
      (gained? policy session entry).toList ++ gained policy (afterEntry policy session entry) rest

section Entries

variable {policy : ConflictPolicy} {session : Session} {entries : Table Json}

theorem mem_gained_iff
    (number : Nat) :
    number ∈ gained policy session entries ↔
      ∃ reached entry, Comes policy session entries reached entry ∧
        gained? policy reached entry = some number := by
  induction entries generalizing session with
  | nil => exact ⟨fun member => (nomatch member), fun ⟨_, _, comes, _⟩ => nomatch comes⟩
  | cons first rest ih =>
    rw [gained, List.mem_append, Option.mem_toList, ih]
    constructor
    · rintro (own | ⟨reached, entry, comes, gives⟩)
      · exact ⟨session, first, .here, own⟩
      · exact ⟨reached, entry, .later comes, gives⟩
    · rintro ⟨reached, entry, comes, gives⟩
      cases comes with
      | here => exact Or.inl gives
      | later comes => exact Or.inr ⟨reached, entry, comes, gives⟩

/-- If no entry breaks the import off, it comes to its end with the templates that the entries give by
themselves. -/
theorem resultOf_importEntries_of_undisturbed
    (undisturbed : ∀ {reached entry}, Comes policy session entries reached entry ->
      ¬ BreaksOff policy reached entry) :
    resultOf (importEntries (.str policy.name) entries) session =
      (.ok (gained policy session entries), entries.foldl (afterEntry policy) session) := by
  induction entries generalizing session with
  | nil => rfl
  | cons first rest ih =>
    rw [resultOf_importEntries_of_not_breaking (undisturbed .here), ih fun comes =>
      undisturbed (.later comes)]
    rfl

/-- If the import comes to its end, no entry has broken it off. -/
theorem not_breaksOff_of_ok
    {numbers : List Nat}
    (done : (resultOf (importEntries (.str policy.name) entries) session).1 = .ok numbers)
    {reached : Session}
    {entry : String × Json}
    (comes : Comes policy session entries reached entry) : ¬ BreaksOff policy reached entry := by
  induction comes generalizing numbers with
  | here =>
    intro breaks
    obtain ⟨fault, failed⟩ := resultOf_importEntries_of_breaking breaks _
    rw [failed] at done
    cases done
  | @later session reached first entry rest comes ih =>
    by_cases breaks : BreaksOff policy session first
    · obtain ⟨fault, failed⟩ := resultOf_importEntries_of_breaking breaks rest
      rw [failed] at done
      cases done
    · rw [resultOf_importEntries_of_not_breaking breaks] at done
      cases others : (resultOf (importEntries (.str policy.name) rest)
        (afterEntry policy session first)).1 with
      | error fault =>
        rw [others] at done
        cases done
      | ok later => exact ih others

/-- If the import does not come to its end, an entry has broken it off, and the session is as that
entry has left it. -/
theorem breaksOff_of_error
    {fault : Fault}
    (failed : (resultOf (importEntries (.str policy.name) entries) session).1 = .error fault) :
    ∃ reached entry, Comes policy session entries reached entry ∧ BreaksOff policy reached entry ∧
      (resultOf (importEntries (.str policy.name) entries) session).2 =
        afterEntry policy reached entry := by
  induction entries generalizing session fault with
  | nil => cases failed
  | cons first rest ih =>
    by_cases breaks : BreaksOff policy session first
    · obtain ⟨_, ended⟩ := resultOf_importEntries_of_breaking breaks rest
      exact ⟨session, first, .here, breaks, congrArg Prod.snd ended⟩
    · rw [resultOf_importEntries_of_not_breaking breaks] at failed ⊢
      cases others : (resultOf (importEntries (.str policy.name) rest)
        (afterEntry policy session first)).1 with
      | error _ =>
        obtain ⟨reached, entry, comes, breaks, left⟩ := ih others
        exact ⟨reached, entry, .later comes, breaks, left⟩
      | ok numbers =>
        rw [others] at failed
        cases failed

end Entries

/-! ## What breaks an import off -/

/-- No members can be made of the manifest, its text is nested too deep, or its id has parts. -/
def ImportSource.Upsets (source : ImportSource) : Prop :=
  manifestMembers source.manifest = .error .wrongShape ∨
    manifestMembers source.manifest = .error .tooDeep ∨
    ∃ members, identifiedMembers source.manifest = .ok members ∧
      (Json.memberOrNull members "id").isScalar = false

/-- The entry has a manifest that an import cannot work on. -/
def Upsets (entry : Json) : Prop :=
  ∃ source, editorSource entry = .ok source ∧ source.Upsets

section Faults

theorem fault_of_pairAt
    {item : Json}
    {index : Nat}
    {fault : Fault}
    (failed : Json.pairAt index item = .error fault) :
    fault = .wrongShape ∨ fault.isContent = true := by
  unfold Json.pairAt at failed
  split at failed
  · cases failed
  · cases failed
    exact Or.inr rfl
  · split at failed
    · cases failed
    · cases failed
      exact Or.inr rfl
  · cases failed
  · cases failed
    exact Or.inr rfl
  · cases failed
    exact Or.inl rfl

/-- Pairs are refused for their shape or for their content. -/
theorem fault_of_putPairs
    {items : List Json}
    {before after : Table Json}
    {index : Nat}
    {fault : Fault}
    (failed : Json.putPairs before index items = (after, .error fault)) :
    fault = .wrongShape ∨ fault.isContent = true := by
  induction items generalizing before index with
  | nil => cases failed
  | cons item rest ih =>
    unfold Json.putPairs at failed
    split at failed
    · exact ih failed
    · rename_i put
      cases failed
      unfold Json.putPair at put
      cases pair : Json.pairAt index item with
      | error refusal =>
        rw [pair] at put
        cases put
        exact fault_of_pairAt pair
      | ok named =>
        rw [pair] at put
        change (if named.1.isScalar then _ else _) = _ at put
        split at put <;> cases put
        exact Or.inl rfl

theorem fault_of_toMembers
    {value : Json}
    {fault : Fault}
    (failed : value.toMembers = .error fault) :
    fault = .wrongShape ∨ fault.isContent = true := by
  have ofPut (failed : (Json.putMembers [] value).2 = .error fault) :
      fault = .wrongShape ∨ fault.isContent = true := by
    cases value with
    | obj members => cases failed
    | arr items => exact fault_of_putPairs (Prod.ext rfl failed)
    | str text => exact fault_of_putPairs (Prod.ext rfl failed)
    | _ =>
      cases failed
      exact Or.inl rfl
  unfold Json.toMembers at failed
  split at failed
  · cases failed
  · split at failed
    · cases failed
    · rename_i put
      cases failed
      exact ofPut (congrArg Prod.snd put)

/-- A manifest of which no members can be made is refused as an entry, or it has the wrong shape or a
text that is nested too deep. -/
theorem fault_of_manifestMembers
    {manifest : Json}
    {fault : Fault}
    (failed : manifestMembers manifest = .error fault) :
    fault = .wrongShape ∨ fault = .tooDeep ∨ isEntryFault fault = true := by
  have ofContent (content : fault.isContent = true) : isEntryFault fault = true := by
    cases fault <;> first | rfl | exact content
  unfold manifestMembers at failed
  split at failed
  · split at failed
    · cases failed
      exact Or.inr (Or.inr rfl)
    · rename_i refusal notMalformed _
      cases failed
      cases refusal with
      | malformed offset => exact absurd rfl (notMalformed offset)
      | longInteger digits => exact Or.inr (Or.inr rfl)
      | tooDeep => exact Or.inr (Or.inl rfl)
    · cases failed
    · cases failed
      exact Or.inr (Or.inr rfl)
  · exact (fault_of_toMembers failed).imp_right fun content => Or.inr (ofContent content)

theorem isEntryFault_of_editorSource
    {template : Json}
    {fault : Fault}
    (failed : editorSource template = .error fault) : isEntryFault fault = true := by
  unfold editorSource at failed
  split at failed
  · split at failed
    · cases failed
    · cases failed
      rfl
  · cases failed
    rfl

/-- The members of a manifest are refused with it, or for the want of an identity. -/
theorem fault_of_identifiedMembers
    {manifest : Json}
    {fault : Fault}
    (failed : identifiedMembers manifest = .error fault) :
    manifestMembers manifest = .error fault ∨ isEntryFault fault = true := by
  unfold identifiedMembers at failed
  cases read : manifestMembers manifest with
  | error refusal =>
    rw [read] at failed
    cases failed
    exact Or.inl rfl
  | ok members =>
    rw [read] at failed
    change (if _ then _ else _) = _ at failed
    split at failed <;> cases failed
    exact Or.inr rfl

theorem plan_of_unidentified
    (session : Session)
    {source : ImportSource}
    (policy : ConflictPolicy)
    {fault : Fault}
    (failed : identifiedMembers source.manifest = .error fault) :
    session.plan source (.str policy.name) = .error fault := by
  unfold plan
  rw [policy.ofJson_name, failed]
  rfl

/-- Once the members are known, a plan fails only as that of an entry, unless the id has parts. -/
theorem fault_of_plan_of_identified
    {session : Session}
    {source : ImportSource}
    {policy : ConflictPolicy}
    {members : Table Json}
    {fault : Fault}
    (identified : identifiedMembers source.manifest = .ok members)
    (isScalar : (Json.memberOrNull members "id").isScalar = true)
    (failed : session.plan source (.str policy.name) = .error fault) :
    isEntryFault fault = true := by
  have imported {members : Table Json} {givenId : Json} {replaced : Option String}
      (failed : (importedTemplate source members givenId >>= fun template =>
        .ok (ImportPlan.add template replaced)) = .error fault) : isEntryFault fault = true := by
    cases made : importedTemplate source members givenId with
    | error refusal =>
      rw [made] at failed
      cases failed
      obtain ⟨_, _, rfl⟩ := invalid_of_importedTemplate made
      rfl
    | ok template =>
      rw [made] at failed
      cases failed
  unfold plan at failed
  rw [policy.ofJson_name, identified] at failed
  change (session.numberOfValue (Json.memberOrNull members "id") >>= _) = _ at failed
  cases given : Json.memberOrNull members "id" with
  | arr items =>
    rw [given] at isScalar
    cases isScalar
  | obj parts =>
    rw [given] at isScalar
    cases isScalar
  | str id =>
    have looked : session.numberOfValue (.str id) = .ok (session.number? id) := rfl
    rw [given, looked] at failed
    cases taken : session.number? id with
    | none =>
      rw [taken] at failed
      exact imported failed
    | some number =>
      rw [taken] at failed
      cases policy with
      | skip => cases failed
      | rename => exact imported failed
      | replace => exact imported failed
  | _ =>
    -- any other scalar is the id of no template and is only refused with the manifest
    rw [given] at failed
    exact imported failed

/-- The import of a manifest is planned, or refused as that of an entry, unless the manifest upsets
it. -/
theorem plan_breaks_iff
    (session : Session)
    (source : ImportSource)
    (policy : ConflictPolicy) :
    (∃ fault, session.plan source (.str policy.name) = .error fault ∧ isEntryFault fault = false) ↔
      source.Upsets := by
  have ofMembers {fault : Fault} (failed : manifestMembers source.manifest = .error fault) :
      session.plan source (.str policy.name) = .error fault := by
    refine plan_of_unidentified session policy ?_
    unfold identifiedMembers
    rw [failed]
    rfl
  constructor
  · rintro ⟨fault, failed, other⟩
    cases identified : identifiedMembers source.manifest with
    | error refusal =>
      cases failed.symm.trans (plan_of_unidentified session policy identified)
      rcases fault_of_identifiedMembers identified with read | content
      · rcases fault_of_manifestMembers read with rfl | rfl | content
        · exact Or.inl read
        · exact Or.inr (Or.inl read)
        · exact absurd content (ne_true_of_eq_false other)
      · exact absurd content (ne_true_of_eq_false other)
    | ok members =>
      refine Or.inr (Or.inr ⟨members, identified, Bool.of_not_eq_true fun isScalar => ?_⟩)
      have content := fault_of_plan_of_identified identified isScalar failed
      exact absurd content (ne_true_of_eq_false other)
  · rintro (shape | deep | ⟨members, identified, hasParts⟩)
    · exact ⟨_, ofMembers shape, rfl⟩
    · exact ⟨_, ofMembers deep, rfl⟩
    · refine ⟨.wrongShape, ?_, rfl⟩
      unfold plan
      rw [policy.ofJson_name, identified]
      change (session.numberOfValue (Json.memberOrNull members "id") >>= _) = _
      cases given : Json.memberOrNull members "id" with
      | arr items => rfl
      | obj parts => rfl
      | _ =>
        rw [given] at hasParts
        cases hasParts

end Faults

/-- Over a store in memory, a planned import fails only as that of an entry. -/
theorem isEntryFault_of_carryOut
    {session : Session}
    (settled : Settled session)
    {source : ImportSource}
    {policy : Json}
    {plan : ImportPlan}
    (planned : session.plan source policy = .ok plan)
    {fault : Fault}
    (failed : (resultOf (carryOut plan) session).1 = .error fault) : isEntryFault fault = true := by
  by_cases writable : plan.Writable
  · obtain ⟨number, after, _, carried, _⟩ := carryOut_resolves settled planned writable
    rw [carried] at failed
    cases failed
  · cases plan with
    | keep number => exact absurd trivial writable
    | add template replaced =>
      obtain ⟨after, carried, _⟩ :=
        carryOut_of_not_writable settled (holds_of_plan_replaced planned) writable
      rw [carried] at failed
      cases failed
      rfl

/-- In a settled session, an entry breaks the import off exactly if it is not passed over and its
manifest upsets it. -/
theorem breaksOff_iff
    {session : Session}
    (settled : Settled session)
    (policy : ConflictPolicy)
    (entry : String × Json) :
    BreaksOff policy session entry ↔
      passesOver policy session entry.1 = false ∧ Upsets entry.2 := by
  refine and_congr_right fun _ => ?_
  rw [resultOf_importEditor_eq]
  unfold Upsets
  cases opened : editorSource entry.2 with
  | error fault =>
    refine ⟨fun ⟨_, failed, other⟩ => ?_, fun ⟨_, found, _⟩ => nomatch found⟩
    cases failed
    exact absurd (isEntryFault_of_editorSource opened) (ne_true_of_eq_false other)
  | ok source =>
    simp only [Except.ok.injEq, exists_eq_left']
    rw [← plan_breaks_iff session source policy, resultOf_importTemplate]
    cases planned : session.plan source (.str policy.name) with
    | error fault => simp only [Except.error.injEq]
    | ok plan =>
      refine iff_of_false ?_ fun ⟨_, failed, _⟩ => nomatch failed
      exact fun ⟨fault, failed, other⟩ =>
        absurd (isEntryFault_of_carryOut settled planned failed) (ne_true_of_eq_false other)

/-- Every entry that comes up in a settled session does so in a settled one. -/
theorem Settled.of_comes
    {policy : ConflictPolicy}
    {session reached : Session}
    {entries : Table Json}
    {entry : String × Json}
    (settled : Settled session)
    (comes : Comes policy session entries reached entry) : Settled reached := by
  induction comes with
  | here => exact settled
  | later comes ih =>
    refine ih ?_
    unfold afterEntry
    split
    · exact settled
    · exact (stable_settled.maintained arising_true).keeps_importEditor arising_true _ _ _ settled

end Session
end BroadcastGraphics
