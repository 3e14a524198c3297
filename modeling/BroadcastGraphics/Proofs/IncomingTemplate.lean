import BroadcastGraphics.Proofs.FreshNames
import BroadcastGraphics.Proofs.RecordReading
import BroadcastGraphics.Proofs.SessionAction

/-!
# Templates that come into a session

Every template that a command adds comes under an id that is free at that moment: a new template and a
copy have the id that was asked for, which is looked up first, and an import is planned so that its
template has a free id or the one of a template that goes before.
-/

namespace BroadcastGraphics

namespace Session

/-! ## Free ids -/

theorem holds_of_number?
    {session : Session}
    {id : String}
    {number : Nat}
    (held : session.number? id = some number) : session.holds id = true := by
  unfold holds Table.has
  change (session.number? id).isSome = true
  rw [held]
  rfl

theorem number?_eq_none_of_holds
    {session : Session}
    {id : String}
    (free : session.holds id = false) : session.number? id = none :=
  Option.isNone_iff_eq_none.1 (by rw [← Option.not_isSome]; exact congrArg not free)

theorem not_holds_of_number?
    {session : Session}
    {id : String}
    (free : session.number? id = none) : session.holds id = false := by
  unfold holds Table.has
  change (session.number? id).isSome = false
  rw [free]
  rfl

/-- Under a text a template can be held; under any other value none is. -/
theorem numberOfValue_eq_none
    {session : Session}
    {id : String}
    (free : session.numberOfValue (.str id) = .ok none) : session.number? id = none :=
  Except.ok.inj free

/-- An id that is looked up as the value that it is and is not taken is free. -/
theorem free_of_numberOfValue
    {session : Session}
    {value : Json}
    {taken : Option Nat}
    {id : String}
    (looked : session.numberOfValue value = .ok taken)
    (isId : value = .str id)
    (notTaken : ∀ number other, taken = some number -> value = .str other -> False) :
    session.holds id = false := by
  subst isId
  cases looked
  refine not_holds_of_number? ?_
  cases held : session.number? id with
  | none => rfl
  | some number => exact (notTaken number id held rfl).elim

/-- After a deletion nothing is held under the id, whatever became of the store. -/
theorem not_holds_delete
    (id : String)
    (session : Session) : (resultOf (delete id) session).2.holds id = false := by
  let Free (session : Session) : Prop := session.holds id = false
  have forgets : Keeps Free (onStore fun store => store.delete id) := fun session free => by
    rw [resultOf_onStore]
    exact free
  have unmarks : Keeps Free (makeCurrent none) := fun session free => by
    rw [resultOf_makeCurrent]
    exact free
  change Free (resultOf (get >>= _) session).2
  rw [resultOf_bind, resultOf_get]
  dsimp only
  split
  · have released : Free { session with index := Table.remove session.index id } :=
      Bool.eq_false_iff.2 fun held =>
        Table.notMem_names_remove _ _ ((Table.has_iff_mem_names _ _).1 held)
    refine holds_bind released fun _ => keeps_bind forgets fun _ => ?_
    refine keeps_get_bind fun session free => ?_
    split
    · exact keeps_bind unmarks (fun _ => keeps_pure _) session free
    · exact free
  · rename_i free
    exact Bool.eq_false_iff.2 free

/-! ## New templates and copies -/

/-- A manifest has the id that is among the members from which it is read. -/
theorem get?_id_of_ofMembers
    {members : Table Json}
    {manifest : Manifest}
    (read : Manifest.ofMembers members = .accepted manifest) :
    Table.get? members "id" = some (.str manifest.id) := by
  obtain ⟨_, idAccepted, _⟩ := (Manifest.ofMembers_accepted_iff members manifest).1 read
  obtain ⟨value, present, checked⟩ := (Field.required_plain_accepted_iff _ _ _ _).1 idAccepted
  cases value with
  | str id => rw [present, Manifest.eq_of_checkId_str checked]
  | _ => cases checked

/-- An edit of the settings leaves the manifest alone. -/
theorem manifest_updateAnimation
    (template : Template)
    (updates : Json) : (template.updateAnimation updates).template.manifest = template.manifest := by
  rcases (template.updateAnimation_performs updates).carries with ⟨_, same⟩ | ⟨_, _, revision⟩
  · exact same.manifest.symm
  · generalize template.updateAnimation updates = edit at revision
    obtain ⟨after, _, _⟩ := edit
    cases revision
    rfl

/-- A new template has the id that was asked for. -/
theorem id_of_newTemplate
    {config : StudioConfig}
    {kind id name description : Json}
    {template : Template}
    (made : newTemplate config kind id name description = .ok template) : id = .str template.id := by
  obtain ⟨known, _, made⟩ := ok_of_bind made
  obtain ⟨fresh, ofPreset, made⟩ := ok_of_bind made
  have sameManifest : template.manifest = fresh.manifest := by
    split at made
    · cases made
      rfl
    · obtain ⟨_, _, made⟩ := ok_of_bind made
      cases made
      exact manifest_updateAnimation fresh _
  have asked : id = .str fresh.id := by
    unfold Template.ofPreset at ofPreset
    dsimp only at ofPreset
    split at ofPreset
    · cases ofPreset
    · obtain ⟨manifest, read, ofPreset⟩ := ok_of_bind ofPreset
      cases ofPreset
      have present := get?_id_of_ofMembers ((Checked.orInvalid_eq_ok _ _ _).1 read)
      rw [Table.get?_merge_of_notMem (by simp [newMembers, Table.remove])] at present
      exact Option.some.inj present
  rw [asked, Template.id, Template.id, sameManifest]

/-- A copy has the id that was asked for. -/
theorem id_of_renamedCopy
    {template copy : Template}
    {id name : Json}
    (copied : renamedCopy template id name = .ok copy) : id = .str copy.id := by
  obtain ⟨_, _, copied⟩ := ok_of_bind copied
  obtain ⟨snapshot, read, copied⟩ := ok_of_bind copied
  cases copied
  obtain ⟨members, same, read⟩ :=
    (Check.record_accepted_iff _ _ _ _).1 ((Checked.orInvalid_eq_ok _ _ _).1 read)
  cases same
  obtain ⟨manifest, _⟩ := (Snapshot.ofMembers_accepted_iff _ _).1 read
  obtain ⟨value, present, checked⟩ := (Field.required_plain_accepted_iff _ _ _ _).1 manifest
  rw [Table.get?_put, if_neg (by decide), Table.get?_put, if_pos rfl] at present
  cases present
  have given := get?_id_of_ofMembers checked
  rw [Table.get?_put, if_neg (by decide), Table.get?_put, if_pos rfl] at given
  exact Option.some.inj given

/-! ## The plan of an import -/

/-- The id that the manifest of an import asks for. -/
def ImportSource.id? (source : ImportSource) : Option String :=
  match identifiedMembers source.manifest with
  | .ok members => (Json.memberOrNull members "id").str?
  | .error _ => none

/-- The template is the one that an import asking for an id describes, under the id that it has. -/
def Describes
    (source : ImportSource)
    (id : String)
    (template : Template) : Prop :=
  ∃ members, identifiedMembers source.manifest = .ok members ∧
    importedTemplate source (Table.put members "id" (.str template.id)) (.str id) = .ok template

/-- What a plan can be.  Under an id that is taken it is the one of the policy; under any other it
adds what the import describes. -/
theorem plan_cases
    {session : Session}
    {source : ImportSource}
    {policy : Json}
    {plan : ImportPlan}
    (planned : session.plan source policy = .ok plan) :
    ∃ known members, ConflictPolicy.ofJson policy = .ok known ∧
      identifiedMembers source.manifest = .ok members ∧
      ((∃ id number, Json.memberOrNull members "id" = .str id ∧
          session.number? id = some number ∧
          match known with
          | .skip => plan = .keep number
          | .rename => ∃ template, plan = .add template none ∧
              importedTemplate source (Table.put members "id" (.str (session.freeId id)))
                (.str id) = .ok template
          | .replace => ∃ template, plan = .add template (some id) ∧
              importedTemplate source members (.str id) = .ok template) ∨
        (session.numberOfValue (Json.memberOrNull members "id") = .ok none ∧
          ∃ template, plan = .add template none ∧
            importedTemplate source members (Json.memberOrNull members "id") = .ok template)) := by
  obtain ⟨known, policyKnown, planned⟩ := ok_of_bind planned
  obtain ⟨members, identified, planned⟩ := ok_of_bind planned
  obtain ⟨taken, looked, planned⟩ := ok_of_bind planned
  refine ⟨known, members, policyKnown, identified, ?_⟩
  generalize Json.memberOrNull members "id" = givenId at looked planned ⊢
  cases taken with
  | none =>
    right
    obtain ⟨template, made, planned⟩ := ok_of_bind planned
    cases planned
    exact ⟨looked, template, rfl, made⟩
  | some number =>
    left
    cases givenId with
    | str id =>
      refine ⟨id, number, rfl, Except.ok.inj looked, ?_⟩
      cases known with
      | skip =>
        cases planned
        rfl
      | rename =>
        obtain ⟨template, made, planned⟩ := ok_of_bind planned
        cases planned
        exact ⟨template, rfl, made⟩
      | replace =>
        obtain ⟨template, made, planned⟩ := ok_of_bind planned
        cases planned
        exact ⟨template, rfl, made⟩
    | _ => cases looked

/-- Once the manifest and the snapshot are read, the template is there: with component source only
if it was written for the id of the template. -/
theorem importedTemplate_of_read
    {source : ImportSource}
    {members : Table Json}
    {givenId : Json}
    {manifest : Manifest}
    {snapshot : Snapshot}
    (manifestRead : importedManifest members = .accepted manifest)
    (snapshotRead :
      importedSnapshot manifest source.elements source.animation = .accepted snapshot) :
    importedTemplate source members givenId =
      .ok { Template.ofSnapshot snapshot with
        component :=
          if givenId = .str manifest.id then
            (ComponentSource.ofJson? source.component).map ComponentSource.cleaned
          else none } := by
  have bare : snapshot.component = none := by
    obtain ⟨_, _, mapped, _, rfl⟩ := (Checked.seq_accepted_iff _ _ _).1 snapshotRead
    obtain ⟨_, _, rfl⟩ := (Checked.map_accepted_iff _ _ _).1 mapped
    rfl
  have same : Template.ofSnapshot snapshot =
      { Template.ofSnapshot snapshot with component := none } := by
    unfold Template.ofSnapshot
    rw [bare]
  unfold importedTemplate
  rw [manifestRead]
  change ((importedSnapshot manifest source.elements source.animation).orInvalid _ >>= _) = _
  rw [snapshotRead]
  change Except.bind (.ok snapshot) _ = _
  unfold Except.bind
  dsimp only
  cases ComponentSource.ofJson? source.component with
  | none => rw [Option.map_none, ite_self, ← same]
  | some component =>
    dsimp only
    split
    · rfl
    · rw [← same]

/-- What an import describes fails to be read only where it is not valid. -/
theorem invalid_of_importedTemplate
    {source : ImportSource}
    {members : Table Json}
    {givenId : Json}
    {fault : Fault}
    (failed : importedTemplate source members givenId = .error fault) :
    ∃ record issues, fault = .invalid record issues := by
  cases manifestRead : importedManifest members with
  | refused issues =>
    unfold importedTemplate at failed
    rw [manifestRead] at failed
    exact ⟨_, issues, (Except.error.inj failed).symm⟩
  | accepted manifest =>
    cases snapshotRead : importedSnapshot manifest source.elements source.animation with
    | refused issues =>
      unfold importedTemplate at failed
      rw [manifestRead] at failed
      change ((importedSnapshot manifest source.elements source.animation).orInvalid _ >>= _) = _
        at failed
      rw [snapshotRead] at failed
      exact ⟨_, issues, (Except.error.inj failed).symm⟩
    | accepted snapshot =>
      rw [importedTemplate_of_read manifestRead snapshotRead] at failed
      cases failed

/-- The template of an import has the manifest that its members describe. -/
theorem manifest_of_importedTemplate
    {source : ImportSource}
    {members : Table Json}
    {givenId : Json}
    {template : Template}
    (described : importedTemplate source members givenId = .ok template) :
    Manifest.ofMembers members = .accepted template.manifest := by
  obtain ⟨manifest, manifestOk, described⟩ := ok_of_bind described
  obtain ⟨snapshot, snapshotOk, described⟩ := ok_of_bind described
  rw [Checked.orInvalid_eq_ok] at manifestOk snapshotOk
  have read : Manifest.ofMembers members = .accepted manifest := by
    obtain ⟨_, _, mapped, _, same⟩ := (Checked.seq_accepted_iff _ _ _).1 manifestOk
    obtain ⟨inner, read, rfl⟩ := (Checked.map_accepted_iff _ _ _).1 mapped
    exact same ▸ read
  have sameManifest : snapshot.manifest = manifest := by
    obtain ⟨_, _, mapped, _, rfl⟩ := (Checked.seq_accepted_iff _ _ _).1 snapshotOk
    obtain ⟨_, _, rfl⟩ := (Checked.map_accepted_iff _ _ _).1 mapped
    rfl
  have kept : template.manifest = snapshot.manifest := by
    dsimp only at described
    split at described
    · split at described
      · cases described
        rfl
      · cases described
        rfl
    · cases described
      rfl
  rw [kept, sameManifest]
  exact read

/-- The template of an import has the id that its members give. -/
theorem id_of_importedTemplate
    {source : ImportSource}
    {members : Table Json}
    {givenId : Json}
    {template : Template}
    {id : String}
    (described : importedTemplate source members givenId = .ok template)
    (given : Table.get? members "id" = some (.str id)) : template.id = id :=
  Manifest.id_of_ofMembers (manifest_of_importedTemplate described) given

theorem id?_of_identified
    {source : ImportSource}
    {members : Table Json}
    {id : String}
    (identified : identifiedMembers source.manifest = .ok members)
    (given : Json.memberOrNull members "id" = .str id) : source.id? = some id := by
  unfold ImportSource.id?
  rw [identified]
  dsimp only
  rw [given]
  rfl

/-- What a plan that adds is made of: the id that is asked for, and a template under an id that is
free, or that is taken and to be replaced. -/
theorem plan_of_add
    {session : Session}
    {source : ImportSource}
    {policy : Json}
    {template : Template}
    {replaced : Option String}
    (planned : session.plan source policy = .ok (.add template replaced)) :
    ∃ known id, ConflictPolicy.ofJson policy = .ok known ∧ source.id? = some id ∧
      Describes source id template ∧
      ((session.number? id = none ∧ template.id = id ∧ replaced = none) ∨
        (∃ number, session.number? id = some number ∧ known = .rename ∧
          template.id = session.freeId id ∧ replaced = none) ∨
        (∃ number, session.number? id = some number ∧ known = .replace ∧
          template.id = id ∧ replaced = some id)) := by
  obtain ⟨known, members, policyKnown, identified, found⟩ := plan_cases planned
  -- a template under the id that is asked for is described by the members as they are
  have direct : ∀ id, Json.memberOrNull members "id" = .str id ->
      importedTemplate source members (.str id) = .ok template ->
      template.id = id ∧ Describes source id template := by
    intro id given described
    have present := Json.get?_of_memberOrNull given Json.noConfusion
    have sameId := id_of_importedTemplate described present
    refine ⟨sameId, members, identified, ?_⟩
    rw [sameId, Table.put_of_get? present]
    exact described
  refine ⟨known, ?_⟩
  rcases found with ⟨id, number, given, held, byPolicy⟩ | ⟨free, made, same, described⟩
  · refine ⟨id, policyKnown, id?_of_identified identified given, ?_⟩
    cases known with
    | skip => cases byPolicy
    | rename =>
      obtain ⟨made, same, described⟩ := byPolicy
      cases same
      have renamed : template.id = session.freeId id := by
        refine id_of_importedTemplate described ?_
        rw [Table.get?_put, if_pos rfl]
      refine ⟨⟨members, identified, ?_⟩, Or.inr (Or.inl ⟨number, held, rfl, renamed, rfl⟩)⟩
      rw [renamed]
      exact described
    | replace =>
      obtain ⟨made, same, described⟩ := byPolicy
      cases same
      obtain ⟨sameId, describes⟩ := direct id given described
      exact ⟨describes, Or.inr (Or.inr ⟨number, held, rfl, sameId, rfl⟩)⟩
  · cases same
    obtain ⟨_, idAccepted, _⟩ := (Manifest.ofMembers_accepted_iff members template.manifest).1
      (manifest_of_importedTemplate described)
    obtain ⟨value, inMembers, checked⟩ := (Field.required_plain_accepted_iff _ _ _ _).1 idAccepted
    have given := Json.memberOrNull_of_get? inMembers
    cases value with
    | str id =>
      rw [given] at free described
      obtain ⟨sameId, describes⟩ := direct id given described
      exact ⟨id, policyKnown, id?_of_identified identified given, describes,
        Or.inl ⟨numberOfValue_eq_none free, sameId, rfl⟩⟩
    | _ => cases checked

/-- The id of a renamed import is the first free one that is numbered from two on. -/
theorem freeId_spec
    (session : Session)
    (id : String) :
    ∃ place, session.freeId id = numberedId id place ∧ 2 ≤ place ∧
      session.holds (numberedId id place) = false ∧
      ∀ earlier, 2 ≤ earlier -> earlier < place ->
        session.holds (numberedId id earlier) = true := by
  have injective : Function.Injective (numberedId id) := stem_append_injective (id ++ "-")
  refine ⟨FreshName.firstFree (Table.names session.index) (numberedId id) 2, rfl,
    FreshName.le_firstFree 2, ?_, fun earlier fromTwo before => ?_⟩
  · refine Bool.eq_false_iff.2 fun held => ?_
    exact FreshName.name_firstFree_notMem injective 2 ((Table.has_iff_mem_names _ _).1 held)
  · exact (Table.has_iff_mem_names _ _).2 (FreshName.mem_of_lt_firstFree fromTwo before)

/-- A plan only replaces what is held. -/
theorem holds_of_plan_replaced
    {session : Session}
    {source : ImportSource}
    {policy : Json}
    {template : Template}
    {replaced : Option String}
    (planned : session.plan source policy = .ok (.add template replaced))
    (id : String)
    (replaces : replaced = some id) : session.holds id = true := by
  obtain ⟨_, asked, _, _, _, place⟩ := plan_of_add planned
  rcases place with ⟨_, _, none⟩ | ⟨_, _, _, _, none⟩ | ⟨number, held, _, _, some⟩
  · cases none.symm.trans replaces
  · cases none.symm.trans replaces
  · cases some.symm.trans replaces
    exact holds_of_number? held

theorem resultOf_importTemplate
    (session : Session)
    (source : ImportSource)
    (policy : Json) :
    resultOf (importTemplate source policy) session =
      match session.plan source policy with
      | .error fault => (.error fault, session)
      | .ok plan => resultOf (carryOut plan) session := by
  simp only [importTemplate, resultOf_bind, resultOf_get, resultOf_lift]
  cases session.plan source policy <;> rfl

end Session
end BroadcastGraphics
