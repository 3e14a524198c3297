import BroadcastGraphics.Proofs.CarriedData
import BroadcastGraphics.Proofs.FileReading
import BroadcastGraphics.Proofs.TemplateText
import BroadcastGraphics.Proofs.WrittenData
import BroadcastGraphics.Store.Directory

/-!
# Snapshots read and written again

A snapshot is read leniently and written strictly, so its written form may differ from what it was
read from; but the written form is settled by one pass.  It is accepted again, and what is read from
it, from the value or from a file, has the same component and is written in the same way.  Two
things keep a snapshot from this, and both come from the values that can be anything: one with too
many levels is not written at all, and one that is itself a number without digits is written as
nothing, which is left out the next time.
-/

namespace BroadcastGraphics

/-! ## Numbers without digits are lost -/

namespace Json

theorem hasDigits_of_present
    {value : Json}
    (present : value.finiteOnly.isNull = false) : value.HasDigits := by
  cases value with
  | float number =>
    rw [finiteOnly] at present
    split at present
    · rename_i finite
      exact finite
    · cases present
  | _ => trivial

theorem isNull_finiteOnly_of_isNull
    {value : Json}
    (nothing : value.isNull = true) : value.finiteOnly.isNull = true := by
  rw [eq_null_of_isNull nothing]
  rfl

/-- Members that are settled do not get more when they are settled again. -/
theorem length_settledMembers_settledMembers
    (members : Table Json) :
    (settledMembers (settledMembers members)).length ≤ (settledMembers members).length := by
  unfold settledMembers
  rw [finiteMembers_eq_map, finiteMembers_eq_map]
  unfold Table.mapEntries
  rw [List.length_map, List.length_map]
  exact (List.length_filter_le _ _).trans_eq (List.length_map _)

/-- They get fewer if one of them is a number without digits. -/
theorem hasDigits_of_length
    {members : Table Json}
    (kept : (settledMembers members).length ≤ (settledMembers (settledMembers members)).length) :
    ∀ value ∈ members.map Prod.snd, value.HasDigits := by
  induction members with
  | nil => exact fun _ member => nomatch member
  | cons member rest ih =>
    obtain ⟨name, value⟩ := member
    cases nothing : value.isNull with
    | true =>
      rw [settledMembers_cons_of_null nothing] at kept
      refine List.forall_mem_cons.2 ⟨?_, ih kept⟩
      rw [eq_null_of_isNull nothing]
      trivial
    | false =>
      rw [settledMembers_cons_of_present nothing, List.length_cons] at kept
      cases lost : value.finiteOnly.isNull with
      | true =>
        rw [settledMembers_cons_of_null lost] at kept
        have fewer := length_settledMembers_settledMembers rest
        omega
      | false =>
        rw [settledMembers_cons_of_present lost, List.length_cons] at kept
        exact List.forall_mem_cons.2
          ⟨hasDigits_of_present lost, ih (Nat.le_of_succ_le_succ kept)⟩

/-- Settled members stay as they are exactly when none of the members is a number without digits. -/
theorem settledMembers_settledMembers_iff
    (members : Table Json) :
    settledMembers (settledMembers members) = settledMembers members ↔
      ∀ value ∈ members.map Prod.snd, value.HasDigits :=
  ⟨fun same => hasDigits_of_length (Nat.le_of_eq (congrArg List.length same.symm)),
    settledMembers_settledMembers⟩

/-- Reading a member that was written is settling it. -/
theorem settledMembers_single_finiteOnly
    (name : String)
    (value : Json)
    (rest : Table Json) :
    settledMembers ((name, value.finiteOnly) :: settledMembers rest) =
      settledMembers (settledMembers ((name, value) :: rest)) := by
  cases nothing : value.isNull with
  | true =>
    rw [settledMembers_cons_of_null nothing,
      settledMembers_cons_of_null (isNull_finiteOnly_of_isNull nothing)]
  | false => rw [settledMembers_cons_of_present nothing]

end Json

/-! ## Records that are written alike -/

theorem SchemaProperty.toJson_settled_iff
    (property : SchemaProperty) :
    property.settled.toJson = property.toJson ↔
      ∀ value ∈ property.freeValues, value.HasDigits := by
  have again : property.settled.toJson = .obj (("type", .str property.kind) ::
      ("title", .str property.title) :: Json.settledMembers (Json.settledMembers
        (("default", property.default) :: property.extras))) := by
    rw [← Json.settledMembers_single_finiteOnly]
    rfl
  have once : property.toJson = .obj (("type", .str property.kind) ::
      ("title", .str property.title) ::
        Json.settledMembers (("default", property.default) :: property.extras)) := rfl
  rw [again, once]
  simp only [Json.obj.injEq, List.cons.injEq, true_and]
  exact Json.settledMembers_settledMembers_iff _

theorem CustomAction.toJson_settled_iff
    (action : CustomAction) :
    action.settled.toJson = action.toJson ↔ ∀ value ∈ action.freeValues, value.HasDigits := by
  have again : action.settled.toJson = .obj (("id", .str action.id) :: ("name", .str action.name) ::
      ("description", .str action.description) ::
        Json.settledMembers (Json.settledMembers action.extras)) := rfl
  have once : action.toJson = .obj (("id", .str action.id) :: ("name", .str action.name) ::
      ("description", .str action.description) :: Json.settledMembers action.extras) := rfl
  rw [again, once]
  simp only [Json.obj.injEq, List.cons.injEq, true_and]
  exact Json.settledMembers_settledMembers_iff _

theorem GraphicSchema.toJson_settled_iff
    (schema : GraphicSchema) :
    schema.settled.toJson = schema.toJson ↔ ∀ value ∈ schema.freeValues, value.HasDigits := by
  refine ⟨fun same => ?_, toJson_settled⟩
  have again : schema.settled.toJson = .obj (("type", .str schema.kind) ::
      ("properties", .obj (Table.mapEntries SchemaProperty.toJson
        (Table.mapEntries SchemaProperty.settled schema.properties))) ::
      Json.settledMembers (Json.settledMembers schema.extras)) := rfl
  have once : schema.toJson = .obj (("type", .str schema.kind) ::
      ("properties", .obj (Table.mapEntries SchemaProperty.toJson schema.properties)) ::
      Json.settledMembers schema.extras) := rfl
  rw [again, once] at same
  simp only [Json.obj.injEq, List.cons.injEq, Prod.mk.injEq, true_and] at same
  obtain ⟨properties, extras⟩ := same
  unfold Table.mapEntries at properties
  rw [List.map_map, List.map_inj_left] at properties
  unfold freeValues
  intro value member
  rcases List.mem_append.1 member with ofProperty | further
  · obtain ⟨entry, isThere, free⟩ := List.mem_flatMap.1 ofProperty
    have same := (Prod.mk.inj (properties entry isThere)).2
    exact (SchemaProperty.toJson_settled_iff _).1 same value free
  · exact (Json.settledMembers_settledMembers_iff _).1 extras value further

theorem Manifest.toJson_settled_iff
    (manifest : Manifest) :
    manifest.settled.toJson = manifest.toJson ↔ ∀ value ∈ manifest.freeValues, value.HasDigits := by
  refine ⟨fun same => ?_, toJson_settled⟩
  have parts : (fields.map Field.writtenName).zip manifest.settled.values ++
        Json.settledMembers (Json.settledMembers manifest.extras) =
      (fields.map Field.writtenName).zip manifest.values ++ Json.settledMembers manifest.extras :=
    Json.obj.inj same
  obtain ⟨held, extras⟩ := List.append_inj parts rfl
  have values := congrArg (List.map Prod.snd) held
  have whole : ∀ manifest : Manifest,
      ((fields.map Field.writtenName).zip manifest.values).map Prod.snd = manifest.values :=
    fun _ => List.map_snd_zip (Nat.le_refl 12)
  rw [whole, whole] at values
  simp only [Manifest.values, List.cons.injEq, Json.arr.injEq] at values
  obtain ⟨_, _, _, _, _, _, _, schema, _, _, _, actions, _⟩ := values
  have eachAction : ∀ action ∈ manifest.customActions, action.settled.toJson = action.toJson := by
    change (manifest.customActions.map CustomAction.settled).map CustomAction.toJson = _ at actions
    rw [List.map_map, List.map_inj_left] at actions
    exact actions
  intro value member
  unfold freeValues at member
  rcases List.mem_append.1 member with inner | further
  · rcases List.mem_append.1 inner with ofSchema | ofActions
    · exact (GraphicSchema.toJson_settled_iff _).1 schema value ofSchema
    · obtain ⟨action, isThere, free⟩ := List.mem_flatMap.1 ofActions
      exact (CustomAction.toJson_settled_iff _).1 (eachAction action isThere) value free
  · exact (Json.settledMembers_settledMembers_iff _).1 extras value further

namespace Snapshot

/-- A snapshot is written in the same way after it was read again exactly when none of its free
values is a number without digits. -/
theorem toJson_settled_iff
    (snapshot : Snapshot) :
    snapshot.settled.toJson = snapshot.toJson ↔
      ∀ value ∈ snapshot.manifest.freeValues, value.HasDigits := by
  refine ⟨fun same => (Manifest.toJson_settled_iff _).1 ?_, toJson_settled⟩
  have members := Json.obj.inj same
  simp only [Snapshot.members, List.cons.injEq, Prod.mk.injEq, true_and] at members
  exact members.1

theorem written_settled
    {snapshot : Snapshot}
    (within : ∀ free ∈ snapshot.manifest.freeValues, free.levels ≤ Json.mostLevels) :
    snapshot.settled.written = .ok snapshot.settled.toJson := by
  have writable : (Template.ofSnapshot snapshot).Writable := within
  exact Template.written_of_writable (Template.writable_reread writable)

/-- The component of a snapshot that was read again is the one of before. -/
theorem component_settled
    (snapshot : Snapshot) :
    (Template.ofSnapshot snapshot.settled).readComponent.outcome =
      (Template.ofSnapshot snapshot).readComponent.outcome := by
  unfold Template.readComponent
  cases given : snapshot.component with
  | some source => simp [Template.ofSnapshot, settled, given, Edit.quiet]
  | none =>
    have made := (Template.ofSnapshot snapshot).generated_reread
    simp only [Template.ofSnapshot, settled, given, Edit.quiet]
    exact congrArg Except.ok made

/-- What is read from the text of a snapshot. -/
theorem ofFileText_fileText
    {snapshot : Snapshot}
    (valid : snapshot.Valid)
    (carried : snapshot.toJson.Meets (.carried false .standard))
    (within : ∀ free ∈ snapshot.manifest.freeValues, free.levels ≤ Json.mostLevels) :
    ofFileText snapshot.fileText = .ok snapshot.settled := by
  have shallow : snapshot.toJson.levels ≤ Json.Reader.Limits.standard.depth :=
    (@levels_toJson snapshot _ (by decide) within).trans (by decide)
  have parsed : Json.ofText snapshot.fileText = .ok snapshot.toJson := by
    unfold Json.ofText fileText Json.documentText Json.parse
    rw [Json.parseWithin_text ⟨false, some 2⟩ carried shallow]
    rfl
  unfold ofFileText
  rw [parsed]
  exact read_toJson valid

/-- A file that a snapshot was written to holds its text. -/
theorem read_writeSnapshot
    {snapshot : Snapshot}
    {tree after : FileTree}
    {path : String}
    (saved : Store.Directory.writeSnapshot tree path snapshot = (after, .ok ())) :
    after.read path = .ok snapshot.fileText := by
  unfold Store.Directory.writeSnapshot at saved
  cases writing : snapshot.written with
  | error fault =>
    simp only [writing] at saved
    split at saved <;> cases (Prod.mk.inj saved).2
  | ok value =>
    cases halves : snapshot.toJson.halvesInPiece? 2 0 with
    | some run =>
      simp only [writing, halves] at saved
      split at saved <;> cases (Prod.mk.inj saved).2
    | none =>
      simp only [writing, halves] at saved
      split at saved
      · rename_i content
        cases saved
        exact FileTree.read_write content
      · cases saved

/-- The written form of every accepted snapshot is settled.  There is one exactly when no free value
has too many levels; then it is accepted again, what is read from it has the same component, and it
is written in the same way again exactly when no free value is a number without digits.  What is read
from a file that the snapshot was written to is the same. -/
theorem written_form_settles
    {given : Json}
    {snapshot : Snapshot}
    (accepted : read given = .ok snapshot) :
    ((∃ value, snapshot.written = .ok value) ↔
      ∀ free ∈ snapshot.manifest.freeValues, free.levels ≤ Json.mostLevels) ∧
    ∀ value, snapshot.written = .ok value ->
      ∃ again, read value = .ok again ∧
        (again.written = .ok value ↔ ∀ free ∈ snapshot.manifest.freeValues, free.HasDigits) ∧
        (Template.ofSnapshot again).readComponent.outcome =
          (Template.ofSnapshot snapshot).readComponent.outcome ∧
        (given.Meets (.carried false .standard) -> ∀ (tree after : FileTree) (path : String),
          Store.Directory.writeSnapshot tree path snapshot = (after, .ok ()) ->
            after.read path >>= ofFileText = .ok again) := by
  have valid := valid_of_read accepted
  have writes := (Template.ofSnapshot snapshot).exists_written_iff
  refine ⟨writes, fun value written => ?_⟩
  have within : ∀ free ∈ snapshot.manifest.freeValues, free.levels ≤ Json.mostLevels :=
    writes.1 ⟨value, written⟩
  have same : snapshot.toJson = value :=
    Except.ok.inj (((Template.ofSnapshot snapshot).written_of_writable within).symm.trans written)
  subst same
  refine ⟨snapshot.settled, read_toJson valid, ?_, component_settled snapshot,
    fun meets tree after path saved => ?_⟩
  · rw [written_settled within, Except.ok.injEq]
    exact toJson_settled_iff snapshot
  · have carried := (meets_of_read Json.Standard.closed_carried meets accepted).toJson
      Json.Standard.closed_carried valid
    have opened : ∀ text, (Except.ok text >>= ofFileText : Except Fault Snapshot) = ofFileText text :=
      fun _ => rfl
    rw [read_writeSnapshot saved, opened]
    exact ofFileText_fileText valid carried within

/-- A snapshot as it may be sent: a number of steps and a place as texts, a duration under its other
name, and further members, one of them nothing. -/
def sentSnapshot : Json :=
  .obj [("manifest", .obj [("id", .str "demo"), ("name", .str "Demo"), ("stepCount", .str "2"),
      ("vendor", .arr [.null, .bool true]), ("note", .null)]),
    ("elements", .arr [.obj [("id", .str "title"), ("type", .str "text"), ("x", .str "1e1"),
      ("style", .obj [("zIndex", .int 3)])]]),
    ("animation_settings", .obj [("slide_in_duration", .int 250)])]

/-- The snapshot that it is accepted as. -/
def acceptedSnapshot : Snapshot where
  manifest := { id := "demo", name := "Demo", stepCount := 2,
                extras := [("vendor", .arr [.null, .bool true]), ("note", .null)] }
  elements := [⟨"title", .text, Binary64.ofInt 10, Binary64.zero, Binary64.ofInt 100,
    Binary64.ofInt 100, none, [("zIndex", "3")]⟩]
  animation := some { AnimationSettings.standard with slideInDuration := 250 }

/-- It is written in the same way twice, and once more after it was saved and loaded. -/
theorem sent_snapshot_settles :
    read sentSnapshot = .ok acceptedSnapshot ∧
      ∃ value again, acceptedSnapshot.written = .ok value ∧ read value = .ok again ∧
        again.written = .ok value ∧
        ∃ saved, Store.Directory.writeSnapshot ⟨[]⟩ "demo.json" acceptedSnapshot = (saved, .ok ()) ∧
          saved.read "demo.json" >>= ofFileText = .ok again := by
  have accepted : read sentSnapshot = .ok acceptedSnapshot := by decide +kernel
  obtain ⟨writes, settles⟩ := written_form_settles accepted
  obtain ⟨value, written⟩ := writes.2 (by decide +kernel)
  obtain ⟨again, reread, alike, _, loaded⟩ := settles value written
  have carried : sentSnapshot.Meets (.carried false .standard) :=
    Json.meets_of_legible _ (by decide +kernel) (by decide +kernel)
  have outcome : (Store.Directory.writeSnapshot ⟨[]⟩ "demo.json" acceptedSnapshot).2 = .ok () := by
    decide +kernel
  cases saves : Store.Directory.writeSnapshot ⟨[]⟩ "demo.json" acceptedSnapshot with
  | mk saved result =>
    rw [saves] at outcome
    subst outcome
    exact ⟨accepted, value, again, written, reread, alike.2 (by decide +kernel), saved, rfl,
      loaded carried _ _ _ saves⟩

end Snapshot
end BroadcastGraphics
