import BroadcastGraphics.Proofs.ManifestEdit
import BroadcastGraphics.Proofs.TemplateValidity

/-!
# Ids and numbers in a session

Every id under which a session holds a template leads to a template of that id.  An edit of an id
breaks this for a moment: the session then holds the template under its new id, or gives it back the
old one if the new one is taken.  Giving back the id takes back nothing else, so that of an edit which
is refused for its id the other fields stay.
-/

namespace BroadcastGraphics

namespace Manifest

/-- Manifests of one value have one id. -/
theorem id_eq_of_sameValue
    {left right : Manifest}
    (same : left.sameValue right = true) : left.id = right.id := by
  simp only [sameValue, fullValues, Json.sameItems, Json.sameValue, Json.sameScalar,
    Bool.and_eq_true, beq_iff_eq] at same
  exact same.1.2.1

end Manifest

namespace Template

/-- The template under another id, without component source. -/
def underId (template : Template) (id : String) : Template :=
  { template with manifest := { template.manifest with id := id }, component := none }

/-- A carried out call leaves the id alone, or it edits the manifest. -/
theorem Revision.id_eq_or_clear
    {before after : Template}
    {request : Call}
    (revision : Revision before request after)
    (valid : before.manifest.Valid) : after.id = before.id ∨ after.manifest.Clear := by
  induction revision with
  | addValid _ _ ih => exact ih
  | restyle _ _ ih => exact ih
  | describe read => exact Or.inr (Manifest.clear_of_edited valid.extras read)
  | _ => exact Or.inl rfl

/-- A call that is no edit of the manifest leaves the id alone. -/
theorem Revision.id_eq
    {before after : Template}
    {request : Call}
    (revision : Revision before request after)
    (notManifest : ∀ updates, request ≠ .updateManifest updates) : after.id = before.id := by
  induction revision with
  | addValid _ _ ih => exact ih fun _ same => (nomatch same)
  | restyle _ _ ih => exact ih fun _ same => (nomatch same)
  | describe => exact absurd rfl (notManifest _)
  | _ => rfl

/-- An edit that is read with another id changes the manifest. -/
theorem updateManifest_of_edited
    {template : Template}
    {updates : Table Json}
    {manifest : Manifest}
    (read : template.manifest.edited updates = .accepted manifest)
    (differs : manifest.id ≠ template.id) :
    template.updateManifest (.obj updates) =
      ⟨{ template with manifest := manifest, component := none }, .ok manifest, true⟩ := by
  have isOther : manifest.sameValue template.manifest = false :=
    Bool.eq_false_iff.2 fun same => differs (Manifest.id_eq_of_sameValue same)
  unfold updateManifest
  dsimp only
  rw [read, Checked.orInvalid]
  dsimp only
  rw [isOther]
  rfl

/-- An edit of nothing but the id puts the template under that id. -/
theorem updateManifest_id
    {template : Template}
    {id : String}
    (valid : template.manifest.Valid)
    (clear : template.manifest.Clear)
    (slug : Identifier.isSlug id = true)
    (differs : id ≠ template.id) :
    template.updateManifest (.obj [("id", .str id)]) =
      ⟨template.underId id, .ok (template.underId id).manifest, true⟩ :=
  updateManifest_of_edited (Manifest.edited_id valid clear slug) differs

/-- A template under another id and manifest is written as before exactly when the manifest is and no
component source was kept. -/
theorem toJson_underId_eq_iff
    (template : Template)
    (manifest : Manifest)
    (id : String) :
    (({ template with manifest := manifest } : Template).underId id).toJson = template.toJson ↔
      ({ manifest with id := id } : Manifest).toJson = template.manifest.toJson ∧
        template.component = none := by
  simp only [toJson, underId, snapshot, Snapshot.toJson, Snapshot.members, Json.obj.injEq,
    List.cons.injEq, Prod.mk.injEq, true_and, and_true]
  cases template.component <;> simp [Json.ofText?]

end Template

theorem Edit.Carries.id_eq
    {α : Type}
    {edit : Edit α}
    {template : Template}
    {request : Template.Call}
    (carries : edit.Carries template request)
    (notManifest : ∀ updates, request ≠ .updateManifest updates) :
    edit.template.id = template.id := by
  rcases carries with ⟨_, same⟩ | ⟨_, _, revision⟩
  · exact congrArg Manifest.id same.manifest.symm
  · exact revision.id_eq notManifest

namespace Session

/-! ## What an index says -/

/-- The index of a session is sound: it names an id once, every id leads to a template of that id,
and all manifests are valid. -/
structure Indexed (session : Session) : Prop where
  names : Table.Distinct session.index
  leads : ∀ {id number}, session.number? id = some number ->
    ∃ template, session.template? number = some template ∧ template.id = id
  valid : ∀ {number template}, session.template? number = some template -> template.manifest.Valid

section Indexed

variable {session : Session}

/-- No two ids lead to one number. -/
theorem Indexed.id_unique
    (indexed : Indexed session)
    {first second : String}
    {number : Nat}
    (isFirst : session.number? first = some number)
    (isSecond : session.number? second = some number) : first = second := by
  obtain ⟨template, present, rfl⟩ := indexed.leads isFirst
  obtain ⟨other, again, rfl⟩ := indexed.leads isSecond
  rw [present] at again
  rw [Option.some.inj again]

/-- A template is held under an id exactly when the id leads to its number. -/
theorem Indexed.keyOf?_eq_some_iff
    (indexed : Indexed session)
    (number : Nat)
    (id : String) :
    session.keyOf? number = some id ↔ session.number? id = some number := by
  constructor
  · intro found
    obtain ⟨⟨key, place⟩, first, rfl⟩ := Option.map_eq_some_iff.1 found
    have here := List.find?_some first
    rw [beq_iff_eq] at here
    rw [← show place = number from here]
    exact Table.get?_of_mem indexed.names (List.mem_of_find?_eq_some first)
  · intro held
    cases first : session.index.find? fun entry => entry.2 == number with
    | none =>
      have absent := List.find?_eq_none.1 first _ (Table.mem_of_get? held)
      exact absurd (beq_self_eq_true number) absent
    | some entry =>
      have here := List.find?_some first
      rw [beq_iff_eq] at here
      have also : session.number? entry.1 = some number :=
        here ▸ Table.get?_of_mem indexed.names (List.mem_of_find?_eq_some first)
      rw [keyOf?, first, indexed.id_unique held also]
      rfl

/-- What the index says depends on nothing but the index and the templates. -/
theorem Indexed.congr
    {later : Session}
    (indexed : Indexed session)
    (sameIndex : later.index = session.index)
    (sameTemplates : later.templates = session.templates) : Indexed later := by
  cases session
  cases later
  cases sameIndex
  cases sameTemplates
  exact ⟨indexed.names, indexed.leads, indexed.valid⟩

theorem number?_lt
    (indexed : Indexed session)
    {id : String}
    {number : Nat}
    (held : session.number? id = some number) : number < session.templates.length := by
  obtain ⟨template, present, _⟩ := indexed.leads held
  exact (List.getElem?_eq_some_iff.1 present).1

/-- A new template is held under its own id. -/
theorem Indexed.tracked
    (indexed : Indexed session)
    {template : Template}
    (valid : template.manifest.Valid) : Indexed (session.tracked template) := by
  refine ⟨indexed.names.put _ _, fun {id number} held => ?_, fun {number other} present => ?_⟩
  · change Table.get? (Table.put session.index template.id session.templates.length) id = _ at held
    rw [Table.get?_put] at held
    split at held
    · rename_i same
      cases held
      exact ⟨template, template?_tracked session template, same⟩
    · obtain ⟨other, present, sameId⟩ := indexed.leads held
      refine ⟨other, ?_, sameId⟩
      exact (List.getElem?_append_left (number?_lt indexed held)).trans present
  · change (session.templates ++ [template])[number]? = some other at present
    rw [List.getElem?_append] at present
    split at present
    · exact indexed.valid present
    · rw [List.getElem?_singleton] at present
      split at present
      · exact Option.some.inj present ▸ valid
      · cases present

theorem Indexed.released
    (indexed : Indexed session)
    (id : String) :
    Indexed { session with index := Table.remove session.index id } := by
  refine ⟨indexed.names.remove id, fun {other number} held => ?_, indexed.valid⟩
  change Table.get? (Table.remove session.index id) other = _ at held
  rw [Table.get?_remove] at held
  split at held
  · cases held
  · exact indexed.leads held

/-- The index is sound after everything that is not an edit. -/
theorem steady_indexed : Steady (fun template => template.manifest.Valid) Indexed where
  saved _ _ indexed := indexed.congr rfl rfl
  deleted _ indexed := indexed.congr rfl rfl
  marked _ indexed := indexed.congr rfl rfl
  selected _ indexed := indexed.congr rfl rfl
  tracked valid indexed := indexed.tracked valid
  released id indexed := indexed.released id

theorem template?_withTemplate
    (session : Session)
    (number other : Nat)
    (template : Template) :
    (session.withTemplate number template).template? other =
      if other = number ∧ number < session.templates.length then some template
      else session.template? other := by
  unfold withTemplate template?
  rw [List.getElem?_set]
  by_cases here : number = other
  · subst here
    by_cases inRange : number < session.templates.length
    · simp [inRange]
    · simp [inRange]
  · simp [here, Ne.symm here]

/-- A template may be changed in place under the same id. -/
theorem Indexed.withTemplate
    (indexed : Indexed session)
    {number : Nat}
    {template : Template}
    (valid : template.manifest.Valid)
    (sameId : ∀ {id}, session.number? id = some number -> template.id = id) :
    Indexed (session.withTemplate number template) := by
  refine ⟨indexed.names, fun {id other} held => ?_, fun {other found} present => ?_⟩
  · rw [template?_withTemplate]
    obtain ⟨found, present, foundId⟩ := indexed.leads held
    split
    · rename_i here
      exact ⟨template, rfl, sameId (here.1 ▸ held)⟩
    · exact ⟨found, present, foundId⟩
  · rw [template?_withTemplate] at present
    split at present
    · exact Option.some.inj present ▸ valid
    · exact indexed.valid present

/-- A template with a new id may be held under that id instead of the old one. -/
theorem Indexed.rekeyed
    (indexed : Indexed session)
    {old : String}
    {number : Nat}
    {template : Template}
    (held : session.number? old = some number)
    (valid : template.manifest.Valid) :
    Indexed ((session.withTemplate number template).rekeyed old template.id number) := by
  refine ⟨(indexed.names.remove old).put _ _, fun {id other} found => ?_,
    fun {other found} present => ?_⟩
  · change Table.get? (Table.put (Table.remove session.index old) template.id number) id = _ at found
    change ∃ found, (session.withTemplate number template).template? other = some found ∧ _
    rw [Table.get?_put, Table.get?_remove] at found
    rw [template?_withTemplate]
    split at found
    · rename_i same
      cases found
      exact ⟨template, if_pos ⟨rfl, number?_lt indexed held⟩, same⟩
    split at found
    · cases found
    · rename_i isOther
      rw [if_neg]
      · exact indexed.leads found
      · rintro ⟨rfl, _⟩
        exact isOther (indexed.id_unique held found)
  · change (session.withTemplate number template).template? other = some found at present
    rw [template?_withTemplate] at present
    split at present
    · exact Option.some.inj present ▸ valid
    · exact indexed.valid present

end Indexed

/-! ## Following an edit -/

/-- The store after a template is written to it under its id, and whether it was written. -/
def savedIn (store : Store) (template : Template) : Store × Except Fault Unit :=
  match template.written with
  | .ok written => store.save template.id written
  | .error fault => (store, .error fault)

section Following

variable {α : Type} {session : Session} {number : Nat} {template : Template} {key : String}

@[simp] theorem withTemplate_withTemplate
    (session : Session)
    (number : Nat)
    (first second : Template) :
    (session.withTemplate number first).withTemplate number second =
      session.withTemplate number second := by
  simp [withTemplate]

theorem template?_withTemplate_self
    (present : session.template? number = some template)
    (other : Template) : (session.withTemplate number other).template? number = some other := by
  rw [template?_withTemplate, if_pos ⟨rfl, (List.getElem?_eq_some_iff.1 present).1⟩]

/-- Nothing follows an edit that is not announced. -/
theorem resultOf_commit_of_quiet
    {edit : Edit α}
    (quiet : edit.announced = false) :
    resultOf (commit number edit) session =
      (edit.outcome, session.withTemplate number edit.template) := by
  simp only [commit, resultOf_bind, resultOf_modify, resultOf_lift, quiet]
  cases edit.outcome <;> rfl

/-- An announced edit is followed before it is answered. -/
theorem resultOf_commit_of_announced
    {edit : Edit α}
    {answer : α}
    (announced : edit.announced = true)
    (answered : edit.outcome = .ok answer) :
    resultOf (commit number edit) session =
      let followed := resultOf (follow number) (session.withTemplate number edit.template)
      (followed.1.map fun _ => answer, followed.2) := by
  simp only [commit, resultOf_bind, resultOf_modify, resultOf_lift, answered, announced, if_true,
    resultOf_pure]
  rcases resultOf (follow number) _ with ⟨_ | _, _⟩ <;> rfl

/-- A template that is not held is not followed. -/
theorem resultOf_follow_of_not_held
    (free : session.keyOf? number = none) :
    resultOf (follow number) session = (.ok (), session) := by
  simp only [follow, resultOf_bind, resultOf_get, free, resultOf_pure]

/-- A template under its id is saved. -/
theorem resultOf_follow_of_same
    (held : session.keyOf? number = some template.id)
    (present : session.template? number = some template) :
    resultOf (follow number) session = resultOf (save number) session := by
  simp only [follow, resultOf_bind, resultOf_get, held, present, if_true]

/-- A template under a new id that is taken gets back its old one. -/
theorem resultOf_follow_of_taken
    (held : session.keyOf? number = some key)
    (present : session.template? number = some template)
    (differs : key ≠ template.id)
    (taken : session.holds template.id = true) :
    resultOf (follow number) session = resultOf (revertId number template key) session := by
  simp only [follow, resultOf_bind, resultOf_get, held, present, if_neg differs, taken, if_true]

/-- A template under a new id that is free is held under it and saved. -/
theorem resultOf_follow_of_free
    (held : session.keyOf? number = some key)
    (present : session.template? number = some template)
    (differs : key ≠ template.id)
    (free : session.holds template.id = false) :
    resultOf (follow number) session =
      resultOf (followRename number key template.id >>= fun _ => save number) session := by
  simp only [follow, resultOf_bind, resultOf_get, held, present, if_neg differs, free,
    Bool.false_eq_true, if_false]

/-- Giving back an id saves the template under it and then fails. -/
theorem resultOf_revertId
    (valid : template.manifest.Valid)
    (clear : template.manifest.Clear)
    (slug : Identifier.isSlug key = true)
    (differs : key ≠ template.id) :
    resultOf (revertId number template key) session =
      let saved := resultOf (save number) (session.withTemplate number (template.underId key))
      (saved.1.bind fun _ => .error (.templateExists template.id), saved.2) := by
  simp only [revertId, Template.updateManifest_id valid clear slug differs, resultOf_bind,
    resultOf_modify, resultOf_lift, if_true, resultOf_throw]
  rcases resultOf (save number) _ with ⟨_ | _, _⟩ <;> rfl

/-- The id under which a template is held is its id. -/
theorem Indexed.id_of_keyOf?
    (indexed : Indexed session)
    (held : session.keyOf? number = some key)
    (present : session.template? number = some template) : template.id = key := by
  obtain ⟨found, again, sameId⟩ := indexed.leads ((indexed.keyOf?_eq_some_iff _ _).1 held)
  rw [present] at again
  exact Option.some.inj again ▸ sameId

/-- Following an edit makes the index sound again. -/
theorem Indexed.followed
    (indexed : Indexed session)
    {after : Template}
    {request : Template.Call}
    (present : session.template? number = some template)
    (revision : Template.Revision template request after) :
    Indexed (resultOf (follow number) (session.withTemplate number after)).2 := by
  have validBefore := indexed.valid present
  have valid := revision.manifest_valid validBefore
  have presentAfter := template?_withTemplate_self present after
  cases held : (session.withTemplate number after).keyOf? number with
  | none =>
    rw [resultOf_follow_of_not_held held]
    refine indexed.withTemplate valid fun {id} leads => ?_
    cases held.symm.trans ((indexed.keyOf?_eq_some_iff number id).2 leads)
  | some key =>
    have leads := (indexed.keyOf?_eq_some_iff number key).1 held
    have sameKey := indexed.id_of_keyOf? held present
    by_cases same : key = after.id
    · subst same
      rw [resultOf_follow_of_same held presentAfter]
      refine steady_indexed.keeps_save number _ (indexed.withTemplate valid fun {id} also => ?_)
      exact indexed.id_unique leads also
    cases taken : session.holds after.id with
    | true =>
      -- the id was edited, and so the manifest can be edited back
      have clear : after.manifest.Clear :=
        (revision.id_eq_or_clear validBefore).resolve_left fun kept =>
          same (sameKey.symm.trans kept.symm)
      have reverted : Indexed (session.withTemplate number (after.underId key)) := by
        refine indexed.withTemplate ⟨sameKey ▸ validBefore.id, valid.steps, valid.schema,
          valid.actions, valid.extras⟩ fun {id} also => ?_
        exact indexed.id_unique leads also
      have saved := steady_indexed.keeps_save number _ reverted
      rw [resultOf_follow_of_taken held presentAfter same taken,
        resultOf_revertId valid clear (sameKey ▸ validBefore.id) same, withTemplate_withTemplate]
      exact saved
    | false =>
      rw [resultOf_follow_of_free held presentAfter same taken]
      refine holds_bind ?_ fun _ => steady_indexed.keeps_save number
      refine holds_bind (indexed.rekeyed leads valid) fun _ => ?_
      refine keeps_bind (steady_indexed.keeps_forget key) fun _ => ?_
      refine keeps_get_bind fun session indexed => ?_
      split
      · exact steady_indexed.keeps_makeCurrent _ session indexed
      · exact indexed

theorem Indexed.committed
    (indexed : Indexed session)
    {edit : Edit α}
    {request : Template.Call}
    (present : session.template? number = some template)
    (carries : edit.Carries template request) :
    Indexed (resultOf (commit number edit) session).2 := by
  rcases carries with ⟨quiet, same⟩ | ⟨announced, ⟨answer, answered⟩, revision⟩
  · rw [resultOf_commit_of_quiet quiet]
    refine indexed.withTemplate (same.manifest ▸ indexed.valid present) fun {id} held => ?_
    obtain ⟨found, again, sameId⟩ := indexed.leads held
    rw [present] at again
    cases again
    exact (congrArg Manifest.id same.manifest).symm.trans sameId
  · rw [resultOf_commit_of_announced announced answered]
    exact indexed.followed present revision

/-- An edit of a template that is not held is refused; any other is committed. -/
theorem resultOf_edit
    (id : String)
    (change : Template -> Edit α)
    (session : Session) :
    (∃ fault, resultOf (edit id change) session = (.error fault, session)) ∨
      ∃ number template, session.number? id = some number ∧
        session.template? number = some template ∧
        resultOf (edit id change) session =
          ((resultOf (commit number (change template)) session).1.map fun answer =>
              (answer, number),
            (resultOf (commit number (change template)) session).2) := by
  rcases resultOf_require id session with missing | ⟨number, template, held, present, found⟩
  · left
    refine ⟨.templateNotFound id, ?_⟩
    simp only [edit, resultOf_bind, missing]
  · right
    refine ⟨number, template, held, present, ?_⟩
    simp only [edit, resultOf_bind, found, resultOf_pure]
    rcases resultOf (commit number (change template)) session with ⟨_ | _, _⟩ <;> rfl

/-- The template with a number is written to the store as it is, and nothing else is done. -/
theorem resultOf_save_eq_savedIn
    (present : session.template? number = some template) :
    resultOf (save number) session =
      ((savedIn session.store template).2,
        { session with store := (savedIn session.store template).1 }) := by
  rw [resultOf_save present, savedIn]
  cases template.written with
  | error fault => rfl
  | ok written => exact resultOf_onStore _ _

/-- An edit that leaves the id alone changes nothing in the session but the template. -/
theorem Indexed.commit_in_place
    (indexed : Indexed session)
    {edit : Edit α}
    {request : Template.Call}
    (present : session.template? number = some template)
    (carries : edit.Carries template request)
    (sameId : edit.template.id = template.id) :
    let result := resultOf (commit number edit) session
    result.2.index = session.index ∧ result.2.template? number = some edit.template ∧
      ∀ answer, result.1 = .ok answer -> edit.outcome = .ok answer := by
  have presentAfter := template?_withTemplate_self present edit.template
  rcases carries with ⟨quiet, _⟩ | ⟨announced, ⟨answer, answered⟩, _⟩
  · rw [resultOf_commit_of_quiet quiet]
    exact ⟨rfl, presentAfter, fun _ same => same⟩
  · rw [resultOf_commit_of_announced announced answered]
    cases held : (session.withTemplate number edit.template).keyOf? number with
    | none =>
      rw [resultOf_follow_of_not_held held]
      exact ⟨rfl, presentAfter, fun _ same => answered.trans same⟩
    | some key =>
      have key_eq := sameId.trans (indexed.id_of_keyOf? held present)
      rw [resultOf_follow_of_same (key_eq ▸ held) presentAfter,
        resultOf_save_eq_savedIn presentAfter]
      refine ⟨rfl, presentAfter, fun other same => ?_⟩
      cases saved : (savedIn (session.withTemplate number edit.template).store edit.template).2 with
      | error fault =>
        rw [saved] at same
        cases same
      | ok _ =>
        rw [saved] at same
        exact answered.trans same

end Following

/-! ## Every session -/

theorem manifest_valid_of_carries
    {template : Template}
    {α : Type}
    {edit : Edit α}
    {request : Template.Call}
    (carries : edit.Carries template request)
    (valid : template.manifest.Valid) : edit.template.manifest.Valid := by
  rcases carries with ⟨_, same⟩ | ⟨_, _, revision⟩
  · exact same.manifest ▸ valid
  · exact revision.manifest_valid valid

/-- Every template that a session makes or reads has a valid manifest. -/
theorem arising_valid : Arising fun template => template.manifest.Valid where
  carried := manifest_valid_of_carries
  created made := fits_of_newTemplate manifest_valid_of_carries
    (fun ofPreset => (Template.valid_of_ofPreset ofPreset).manifest) made
  read read := (Snapshot.valid_of_read read).manifest
  imported made := Manifest.valid_of_ofMembers (manifest_of_importedTemplate made)

theorem maintained_indexed : Maintained (fun template => template.manifest.Valid) Indexed where
  added valid _ indexed isCurrent := steady_indexed.keeps_add valid isCurrent _ indexed
  deleted := steady_indexed.keeps_delete
  selected := steady_indexed.keeps_select
  readOut present indexed :=
    indexed.committed present (Template.readComponent_carries _ .readComponent)
  committed present carries indexed := indexed.committed present carries

/-- A session over any store that commands lead to. -/
def Reached (session : Session) : Prop :=
  ∃ config store commands, session = performAll commands (Session.opened config store).2

theorem Reached.indexed
    {session : Session}
    (reached : Reached session) : Indexed session := by
  obtain ⟨config, store, commands, rfl⟩ := reached
  have opened : Indexed (Session.opened config store).2 :=
    steady_indexed.keeps_takeOver arising_valid { config, store }
      ⟨List.nodup_nil, fun held => (nomatch held), fun present => (nomatch present)⟩
  exact maintained_indexed.holds_performAll arising_valid opened commands

/-! ## Refused ids -/

/-- Of an edit that is refused because its id is taken, everything stays but the id: the template
keeps the other fields of the edit, loses its component source, and is saved like that.  So it is
what it was before exactly when the edit changes nothing else and no component source was kept.
Other templates, the index and the current template are left alone. -/
theorem rejected_rename_keeps_other_fields
    {session : Session}
    (reached : Reached session)
    {key : String}
    {number : Nat}
    {template : Template}
    {updates : Table Json}
    {manifest : Manifest}
    (held : session.number? key = some number)
    (present : session.template? number = some template)
    (read : template.manifest.edited updates = .accepted manifest)
    (differs : manifest.id ≠ key)
    (taken : session.holds manifest.id = true) :
    let result := resultOf (call number (.updateManifest (.obj updates))) session
    let left := ({ template with manifest := manifest } : Template).underId key
    let saved := savedIn session.store left
    result = (saved.2.bind fun _ => .error (.templateExists manifest.id),
        { session.withTemplate number left with store := saved.1 }) ∧
      (∀ other, other ≠ key -> result.2.held? other = session.held? other) ∧
      ((result.2.held? key).map Template.toJson = (session.held? key).map Template.toJson ↔
        ({ manifest with id := key } : Manifest).toJson = template.manifest.toJson ∧
          template.component = none) := by
  intro result left saved
  have indexed := reached.indexed
  have valid := indexed.valid present
  have key_eq : session.keyOf? number = some key := (indexed.keyOf?_eq_some_iff _ _).2 held
  have sameKey : template.id = key := indexed.id_of_keyOf? key_eq present
  have notKept : manifest.id ≠ template.id := sameKey ▸ differs
  have performed : template.run (.updateManifest (.obj updates)) =
      ⟨{ template with manifest := manifest, component := none }, .ok (.manifest manifest), true⟩ :=
    congrArg (Edit.map Template.Answer.manifest) (Template.updateManifest_of_edited read notKept)
  have outcome : result = (saved.2.bind fun _ => .error (.templateExists manifest.id),
      { session.withTemplate number left with store := saved.1 }) := by
    have committed : result =
        resultOf (commit number (template.run (.updateManifest (.obj updates)))) session := by
      simp only [result, call, resultOf_bind, resultOf_get, present]
    let edited : Template := { template with manifest := manifest, component := none }
    have follows : resultOf (follow number) (session.withTemplate number edited) = _ :=
      resultOf_follow_of_taken key_eq (template?_withTemplate_self present edited)
        (Ne.symm differs) taken
    have reverts : resultOf (revertId number edited key) (session.withTemplate number edited) = _ :=
      resultOf_revertId (Manifest.valid_of_ofMembers read)
        (Manifest.clear_of_edited valid.extras read) (sameKey ▸ valid.id) (Ne.symm differs)
    have saves : resultOf (save number) (session.withTemplate number (edited.underId key)) = _ :=
      resultOf_save_eq_savedIn (template?_withTemplate_self present left)
    rw [committed, performed, resultOf_commit_of_announced rfl rfl, follows, reverts,
      withTemplate_withTemplate, saves]
    change ((saved.2.bind _).map _, _) = _
    cases saved.2 <;> rfl
  rw [outcome]
  refine ⟨rfl, fun other isOther => ?_, ?_⟩
  · change (session.number? other).bind (session.withTemplate number left).template? = _
    unfold held?
    cases otherHeld : session.number? other with
    | none => rfl
    | some place =>
      refine (template?_withTemplate session number place left).trans (if_neg ?_)
      rintro ⟨rfl, _⟩
      exact isOther (indexed.id_unique otherHeld held)
  · have before : session.held? key = some template := by
      rw [held?, held]
      exact present
    have after : (session.number? key).bind (session.withTemplate number left).template? =
        some left := by
      rw [held]
      exact template?_withTemplate_self present left
    change ((session.number? key).bind (session.withTemplate number left).template?).map
      Template.toJson = _ ↔ _
    rw [before, after, Option.map_some, Option.map_some, Option.some.injEq]
    exact template.toJson_underId_eq_iff manifest key

/-- A new name stays when the id that is edited with it is taken. -/
theorem newName_stays_after_taken_id :
    let named (id : String) : Table Json := [("id", .str id), ("name", .str "Demo")]
    let session := performAll
      [.importTemplate { manifest := .obj (named "a") } (.str "skip"),
        .importTemplate { manifest := .obj (named "b") } (.str "skip")] (Session.opened {} {}).2
    let updates : Table Json := [("id", .str "b"), ("name", .str "New")]
    let result := resultOf (call 0 (.updateManifest (.obj updates))) session
    result.1 = .error (.templateExists "b") ∧ result.2.held? "b" = session.held? "b" ∧
      (result.2.held? "a").map Template.toJson ≠ (session.held? "a").map Template.toJson := by
  intro named session updates result
  have held : session.number? "a" = some 0 := by decide +kernel
  have taken : session.holds "b" = true := by decide +kernel
  have edits : (session.template? 0).map (fun template => (template.manifest.name,
      ((template.manifest.edited updates).orInvalid Manifest.recordName).map fun manifest =>
        (manifest.id, manifest.name))) = some ("Demo", .ok ("b", "New")) := by
    decide +kernel
  obtain ⟨template, present, names⟩ := Option.map_eq_some_iff.1 edits
  obtain ⟨oldName, names⟩ := Prod.mk.inj names
  cases accepted : (template.manifest.edited updates).orInvalid Manifest.recordName with
  | error fault =>
    rw [accepted] at names
    cases names
  | ok manifest =>
    rw [accepted] at names
    obtain ⟨newId, newName⟩ := Prod.mk.inj (Except.ok.inj names)
    have read := (Checked.orInvalid_eq_ok _ _ _).1 accepted
    obtain ⟨_, others, unchanged⟩ := rejected_rename_keeps_other_fields ⟨_, _, _, rfl⟩ held
      present read (by rw [newId]; decide) (by rw [newId]; exact taken)
    refine ⟨by decide +kernel, others "b" (by decide), fun same => ?_⟩
    have sameName : Json.str manifest.name = .str template.manifest.name :=
      congrArg (fun members => Json.memberOrNull members "name") (Json.obj.inj (unchanged.1 same).1)
    rw [newName, oldName, Json.str.injEq] at sameName
    exact absurd sameName (by decide)

end Session
end BroadcastGraphics
