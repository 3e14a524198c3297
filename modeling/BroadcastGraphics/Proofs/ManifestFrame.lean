import BroadcastGraphics.Proofs.ManifestEdit
import BroadcastGraphics.Proofs.ReachedTemplate
import Mathlib.Data.List.Perm.Subperm

/-!
# What an edit of a manifest leaves alone

An edit writes its members over the fields under their given names and the further members, and reads
a manifest from the result.  A field that it does not name is read from what the manifest held, and
a further member that it does not name is kept, with one exception: a further member that carries
the given name of a field is taken for that field and lost.
-/

namespace BroadcastGraphics

open Checked

namespace Table

variable {α : Type}

/-- Among chosen entries, one whose name is always chosen is found as before. -/
theorem get?_filter
    {chosen : String × α -> Bool}
    {name : String}
    (always : ∀ value, chosen (name, value) = true)
    (table : Table α) : get? (table.filter chosen) name = get? table name := by
  induction table with
  | nil => rfl
  | cons entry rest ih =>
    obtain ⟨key, value⟩ := entry
    rw [List.filter_cons]
    by_cases here : key = name
    · rw [here, if_pos (always value), get?, get?, if_pos rfl, if_pos rfl]
    · split
      · rw [get?, get?, if_neg here, if_neg here, ih]
      · rw [get?, if_neg here, ih]

end Table

namespace Field

/-- Renaming writes the members one after the other under the given names. -/
theorem byGivenName_eq_merge
    (fields : List Field)
    (members : Table Json) :
    byGivenName fields members =
      Table.merge [] (members.map fun member => (givenNameOf fields member.1, member.2)) := by
  rw [byGivenName_eq_foldl, Table.merge, List.foldl_map]

/-- A name is absent after renaming if neither it nor the written name of its field is given. -/
theorem notMem_names_byGivenName
    {fields : List Field}
    {name : String}
    {members : Table Json}
    (unnamed : name ∉ Table.names members)
    (unwritten : ∀ field ∈ fields, field.givenName = name ->
      field.writtenName ∉ Table.names members) :
    name ∉ Table.names (byGivenName fields members) := by
  rw [byGivenName_eq_merge, Table.mem_names_merge, not_or]
  refine ⟨List.not_mem_nil, fun renamed => ?_⟩
  rw [Table.names, List.map_map] at renamed
  obtain ⟨member, isThere, same⟩ := List.mem_map.1 renamed
  have given := Table.mem_names_of_mem isThere
  change givenNameOf fields member.1 = name at same
  unfold givenNameOf at same
  cases found : fields.find? fun field => field.writtenName == member.1 with
  | none =>
    rw [found] at same
    exact unnamed (same ▸ given)
  | some field =>
    rw [found] at same
    have written := List.find?_some found
    exact unwritten field (List.mem_of_find?_eq_some found) same (beq_iff_eq.1 written ▸ given)

theorem find?_of_name
    {field : Field}
    {members : Table Json}
    {name : String}
    (found : (field.find? members).map Prod.fst = some name) :
    field.find? members = (Table.get? members name).map fun value => (name, value) := by
  obtain ⟨⟨other, value⟩, isFound, rfl⟩ := Option.map_eq_some_iff.1 found
  rw [isFound, (get?_of_find? isFound).1]
  rfl

section Congruence

variable {α : Type} {field : Field} {check : Json -> Checked α} {left right : Table Json}
  {first second : α}

/-- What a field is read as depends on the member in which it is found. -/
theorem eq_of_withDefault
    (same : field.find? left = field.find? right)
    {default : α}
    (read : field.withDefault default check left = .accepted first)
    (other : field.withDefault default check right = .accepted second) : first = second := by
  unfold withDefault at read other
  rw [same] at read
  exact accepted.inj (read.symm.trans other)

theorem eq_of_required
    (same : field.find? left = field.find? right)
    (read : field.required check left = .accepted first)
    (other : field.required check right = .accepted second) : first = second := by
  unfold required at read other
  rw [same] at read
  exact accepted.inj (read.symm.trans other)

end Congruence

end Field

namespace Manifest

/-- The manifest without its further members. -/
def bare (manifest : Manifest) : Manifest :=
  { manifest with extras := [] }

theorem bare_clear (manifest : Manifest) : manifest.bare.Clear :=
  ⟨fun _ _ => List.not_mem_nil, fun _ _ => List.not_mem_nil, List.nodup_nil⟩

theorem ofMembers_bare
    {manifest : Manifest}
    (valid : manifest.Valid) : ofMembers manifest.givenFields = .accepted manifest.bare := by
  have bareValid : manifest.bare.Valid :=
    ⟨valid.id, valid.steps, valid.schema, valid.actions, fun _ _ => List.not_mem_nil⟩
  have read := ofMembers_givenFields bareValid manifest.bare_clear
  rwa [show manifest.bare.extras = [] from rfl, List.append_nil] at read

/-- A field that is found as among the fields of a manifest is read as that manifest holds it. -/
theorem get?_givenFields_of_find?
    {before after : Manifest}
    {members : Table Json}
    (valid : before.Valid)
    (read : ofMembers members = .accepted after) :
    ∀ field ∈ fields, field.find? members = field.find? before.givenFields ->
      Table.get? after.givenFields field.givenName =
        Table.get? before.givenFields field.givenName := by
  obtain ⟨schemaUrl, id, version, name, description, author, main, schema, realTime, nonRealTime,
    steps, actions, _⟩ := (ofMembers_accepted_iff _ _).1 read
  obtain ⟨schemaUrl', id', version', name', description', author', main', schema', realTime',
    nonRealTime', steps', actions', _⟩ := (ofMembers_accepted_iff _ _).1 (ofMembers_bare valid)
  simp only [fields, List.forall_mem_cons]
  refine ⟨fun same => ?_, fun same => ?_, fun same => ?_, fun same => ?_, fun same => ?_,
    fun same => ?_, fun same => ?_, fun same => ?_, fun same => ?_, fun same => ?_, fun same => ?_,
    fun same => ?_, List.forall_mem_nil _⟩
  · exact congrArg (fun url => some (Json.str url)) (Field.eq_of_withDefault same schemaUrl schemaUrl')
  · exact congrArg (fun id => some (Json.str id)) (Field.eq_of_required same id id')
  · exact congrArg (fun version => some (Json.str version))
      (Field.eq_of_withDefault same version version')
  · exact congrArg (fun name => some (Json.str name)) (Field.eq_of_required same name name')
  · exact congrArg (fun text => some (Json.str text))
      (Field.eq_of_withDefault same description description')
  · exact congrArg (fun author => some author.toJson) (Field.eq_of_withDefault same author author')
  · exact congrArg (fun main => some (Json.str main)) (Field.eq_of_withDefault same main main')
  · exact congrArg (fun schema => some (Json.obj schema.members))
      (Field.eq_of_withDefault same schema schema')
  · exact congrArg (fun truth => some (Json.bool truth))
      (Field.eq_of_withDefault same realTime realTime')
  · exact congrArg (fun truth => some (Json.bool truth))
      (Field.eq_of_withDefault same nonRealTime nonRealTime')
  · exact congrArg (fun count => some (Json.int count)) (Field.eq_of_withDefault same steps steps')
  · exact congrArg (fun actions => some (Json.arr (actions.map fun action => .obj action.members)))
      (Field.eq_of_withDefault same actions actions')

/-! ## What is not named -/

theorem givenName_injective :
    ∀ field ∈ fields, ∀ other ∈ fields, other.givenName = field.givenName -> other = field := by
  decide

section Edited

variable {before after : Manifest} {updates : Table Json}

/-- The members that an edit reads, under a name that the edit does not give. -/
theorem get?_edited
    (distinct : Table.Distinct before.extras)
    {name : String}
    (unnamed : name ∉ Table.names (Field.byGivenName fields updates)) :
    Table.get? (Table.merge before.givenMembers (Field.byGivenName fields updates)) name =
      (Table.get? before.extras name).or (Table.get? before.givenFields name) := by
  rw [Table.get?_merge_of_notMem unnamed]
  exact Table.get?_merge distinct before.givenFields name

/-- A field that an edit does not name stays, unless a further member is taken for it. -/
theorem get?_givenFields_edited
    (valid : before.Valid)
    (distinct : Table.Distinct before.extras)
    (read : before.edited updates = .accepted after)
    {field : Field}
    (isField : field ∈ fields)
    (unwritten : field.writtenName ∉ Table.names updates)
    (ungiven : field.givenName ∉ Table.names updates)
    (noExtra : field.givenName ∉ Table.names before.extras) :
    Table.get? after.givenFields field.givenName =
      Table.get? before.givenFields field.givenName := by
  have unnamed : field.givenName ∉ Table.names (Field.byGivenName fields updates) := by
    refine Field.notMem_names_byGivenName ungiven fun other isOther same => ?_
    rw [givenName_injective field isField other isOther same]
    exact unwritten
  have held := Field.find?_of_name (find?_edited valid.extras updates field isField)
  rw [get?_edited distinct unnamed, (Table.get?_eq_none_iff _ _).2 noExtra] at held
  have apart : Field.Apart fields before.bare.extras := fun _ _ => List.not_mem_nil
  have bare := Field.find?_of_name (find?_edited apart [] field isField)
  exact get?_givenFields_of_find? valid read field isField (held.trans bare.symm)

/-- A further member that an edit does not name stays, unless it carries the given name of a
field. -/
theorem get?_extras_edited
    (valid : before.Valid)
    (distinct : Table.Distinct before.extras)
    (read : before.edited updates = .accepted after)
    {name : String}
    (unnamed : name ∉ Table.names updates)
    (noField : ∀ field ∈ fields, field.givenName ≠ name) :
    Table.get? after.extras name = Table.get? before.extras name := by
  obtain ⟨_, _, _, _, _, _, _, _, _, _, _, _, extras⟩ := (ofMembers_accepted_iff _ _).1 read
  have absent : name ∉ Table.names (Field.byGivenName fields updates) :=
    Field.notMem_names_byGivenName unnamed fun field isField same =>
      absurd same (noField field isField)
  have notHeld : Table.get? before.givenFields name = none := by
    rw [Table.get?_eq_none_iff, names_givenFields]
    intro member
    obtain ⟨field, isField, same⟩ := List.mem_map.1 member
    exact noField field isField same
  rw [← extras, Field.further, Table.get?_filter, get?_edited distinct absent, notHeld,
    Option.or_none]
  intro value
  rw [Bool.not_eq_true', List.any_eq_false]
  intro field isField found
  rw [find?_edited valid.extras updates field isField] at found
  exact noField field isField (Option.some.inj (eq_of_beq found))

end Edited

/-! ## Edits that change nothing -/

/-- Members of one value with others have the same names. -/
theorem mem_names_of_sameValue
    {left right : Table Json}
    (distinct : Table.Distinct left)
    (same : Json.sameValue (.obj left) (.obj right) = true) :
    ∀ name ∈ Table.names right, name ∈ Table.names left := by
  rw [Json.sameValue, Bool.and_eq_true, beq_iff_eq] at same
  obtain ⟨length, members⟩ := same
  have among : Table.names left ⊆ Table.names right := by
    intro name isThere
    obtain ⟨member, isMember, rfl⟩ := List.mem_map.1 isThere
    obtain ⟨other, found, _⟩ := Json.exists_same_of_sameMembers members member isMember
    exact (Table.has_iff_mem_names right member.1).1 (by rw [Table.has, found]; rfl)
  have perm := ((List.Nodup.subperm distinct among).perm_of_length_le
    (by rw [Table.names, Table.names, List.length_map, List.length_map, length]))
  exact fun name member => perm.mem_iff.2 member

/-! ## Edits of templates -/

/-- Of two manifests, the second has every field that the updates do not name, under either of its
names, and every further member of the first that they do not name, with the value that the first
has for it. -/
structure TouchesOnly (updates : Table Json) (before after : Manifest) : Prop where
  held : ∀ field ∈ fields, field.writtenName ∉ Table.names updates ->
    field.givenName ∉ Table.names updates ->
    Table.get? after.givenFields field.givenName = Table.get? before.givenFields field.givenName
  further : ∀ name ∈ Table.names before.extras, name ∉ Table.names updates ->
    Table.get? after.extras name = Table.get? before.extras name

theorem touchesOnly_self (updates : Table Json) (manifest : Manifest) :
    TouchesOnly updates manifest manifest :=
  ⟨fun _ _ _ _ => rfl, fun _ _ _ => rfl⟩

/-- The given names of fields that further members carry are all named in the updates. -/
def NamesClashes (updates : Table Json) (manifest : Manifest) : Prop :=
  ∀ field ∈ fields, field.givenName ∈ Table.names manifest.extras ->
    field.givenName ∈ Table.names updates

theorem touchesOnly_edited
    {before after : Manifest}
    {updates : Table Json}
    (valid : before.Valid)
    (distinct : Table.Distinct before.extras)
    (read : before.edited updates = .accepted after)
    (clashes : before.NamesClashes updates) : TouchesOnly updates before after := by
  constructor
  · intro field isField unwritten ungiven
    exact get?_givenFields_edited valid distinct read isField unwritten ungiven
      fun isExtra => ungiven (clashes field isField isExtra)
  · intro name isExtra unnamed
    refine get?_extras_edited valid distinct read unnamed fun field isField same => ?_
    subst same
    exact unnamed (clashes field isField isExtra)

/-- An accepted edit drops a further member that carries the given name of a field. -/
theorem namesClashes_of_edited
    {before after : Manifest}
    {updates : Table Json}
    (valid : before.Valid)
    (read : before.edited updates = .accepted after)
    (touches : TouchesOnly updates before after) : before.NamesClashes updates := by
  intro field isField isExtra
  by_contra unnamed
  have kept := touches.further field.givenName isExtra unnamed
  rw [(Table.get?_eq_none_iff _ _).2 ((clear_of_edited valid.extras read).given field isField)] at kept
  exact (Table.get?_eq_none_iff _ _).1 kept.symm isExtra

/-- An edit that counts as no change drops no further member. -/
theorem namesClashes_of_sameValue
    {before after : Manifest}
    {updates : Table Json}
    (valid : before.Valid)
    (read : before.edited updates = .accepted after)
    (same : after.sameValue before = true) : before.NamesClashes updates := by
  have clear := clear_of_edited valid.extras read
  intro field isField isExtra
  rw [sameValue, Bool.and_eq_true] at same
  exact absurd (mem_names_of_sameValue clear.distinct same.2 _ isExtra) (clear.given field isField)

end Manifest

namespace Template

open Manifest (TouchesOnly NamesClashes)

/-- A manifest edit that is carried out touches only what it names, at every level, exactly if it
names every further member that carries the given name of a field: such a member is taken for the
field and lost. -/
theorem manifest_edit_touches_only_iff
    {template : Template}
    (reached : Reached template)
    {updates : Table Json}
    {answer : Manifest}
    (done : (template.updateManifest (.obj updates)).outcome = .ok answer) :
    TouchesOnly updates template.manifest (template.updateManifest (.obj updates)).template.manifest ↔
      template.manifest.NamesClashes updates := by
  have valid : template.manifest.Valid := reached.valid.manifest
  have distinct : Table.Distinct template.manifest.extras := reached.meets.manifest.extras.distinct
  unfold updateManifest at done ⊢
  dsimp only at done ⊢
  split at done
  · cases done
  · rename_i manifest read
    have accepted := (Checked.orInvalid_eq_ok _ _ _).1 read
    split
    · rename_i quiet
      have same := (Bool.and_eq_true_iff.1 quiet).1
      exact ⟨fun _ => Manifest.namesClashes_of_sameValue valid accepted same,
        fun _ => Manifest.touchesOnly_self updates template.manifest⟩
    · exact ⟨Manifest.namesClashes_of_edited valid accepted,
        Manifest.touchesOnly_edited valid distinct accepted⟩

/-- A snapshot whose manifest has a member beside the step count that carries its given name. -/
def doublyCounted : Json :=
  .obj [("manifest", .obj [("id", .str "demo"), ("name", .str "Demo"), ("stepCount", .int 2),
    ("step_count", .int 5)])]

/-- Renaming a graphic whose manifest has such a member changes more than the name. -/
theorem rename_touches_step_count :
    ∃ snapshot, Snapshot.read doublyCounted = .ok snapshot ∧
      (∃ answer, ((ofSnapshot snapshot).updateManifest (.obj [("name", .str "New")])).outcome =
        .ok answer) ∧
      ¬ TouchesOnly [("name", .str "New")] snapshot.manifest
        ((ofSnapshot snapshot).updateManifest (.obj [("name", .str "New")])).template.manifest := by
  have meets : doublyCounted.Meets .any := by
    simp [doublyCounted, Json.Meets, Json.MeetsMembers, Table.Distinct, Table.names,
      Json.Standard.any]
  have reached : Reached (ofSnapshot _) := .ofSnapshot meets rfl
  refine ⟨_, rfl, ⟨_, rfl⟩, fun touches => ?_⟩
  have clashes := (manifest_edit_touches_only_iff reached rfl).1 touches
  exact absurd clashes (by unfold NamesClashes; decide)

end Template
end BroadcastGraphics
