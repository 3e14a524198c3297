import BroadcastGraphics.Proofs.AuditAgreement
import BroadcastGraphics.Proofs.Identifiers

/-!
# Tags that browsers accept

A component is registered under its tag, which is the id of its template with a fixed ending, and
browsers refuse tags that are no names of custom elements.  The audit warns of an id that starts with a
digit, and it is right to do so.  But an id may also start with a hyphen or an underscore, or have a line
break at its end, and of these the audit says nothing.
-/

namespace BroadcastGraphics

namespace Naming

/-- The id has a first character, which passes a test. -/
def StartsWith (test : Char -> Bool) (id : String) : Prop :=
  ∃ first ∈ id.toList.head?, test first = true

theorem endsWord_or_isSeparator
    {character : Char}
    (allowed : Identifier.isSlugCharacter character = true) :
    endsWord character = true ∨ isSeparator character = true := by
  unfold Identifier.isSlugCharacter Identifier.isSmallLetter at allowed
  unfold endsWord isSeparator
  simp only [Bool.or_eq_true] at allowed ⊢
  tauto

/-- A template id starts with a small letter, a digit or a separator. -/
theorem exists_start
    {id : String}
    (slug : Identifier.isSlug id = true) :
    ∃ first rest, id.toList = first :: rest ∧ Identifier.isSlugCharacter first = true := by
  obtain ⟨core, tail, same, allowed, ending⟩ := Identifier.exists_core slug
  cases core with
  | cons first rest =>
    exact ⟨first, rest ++ tail, same, allowed first List.mem_cons_self⟩
  | nil =>
    unfold Identifier.isSlug at slug
    rw [same] at slug
    rcases ending with rfl | rfl <;> exact absurd slug (by decide)

/-- The tag of a template is the name of a custom element just if the id starts with a small letter and
has no line break. -/
theorem isCustomElementName_tagName_iff
    {id : String}
    (slug : Identifier.isSlug id = true) :
    IsCustomElementName (tagName id) ↔
      StartsWith Identifier.isSmallLetter id ∧ '\n' ∉ id.toList := by
  obtain ⟨first, rest, same, _⟩ := exists_start slug
  have tag : (tagName id).toList = first :: (rest ++ "-graphic".toList) := by
    rw [tagName, String.toList_append, same, List.cons_append]
  unfold IsCustomElementName StartsWith Identifier.isSmallLetter
  rw [tag, same]
  constructor
  · rintro ⟨⟨start, more, parts, low, high, continues⟩, _⟩
    obtain ⟨rfl, rfl⟩ := List.cons.inj parts
    refine ⟨⟨first, rfl, by simp [low, high]⟩, fun broken => ?_⟩
    rcases List.mem_cons.1 broken with rfl | later
    · exact absurd low (by decide)
    · exact absurd (continues '\n' (List.mem_append_left _ later)) (by decide)
  · rintro ⟨⟨start, isStart, letter⟩, unbroken⟩
    obtain rfl := Option.some.inj isStart
    obtain ⟨low, high⟩ := Bool.and_eq_true_iff.1 letter
    refine ⟨⟨first, _, rfl, of_decide_eq_true low, of_decide_eq_true high,
      fun character member => ?_⟩, by simp⟩
    rcases List.mem_append.1 member with ofId | ofEnding
    · have isThere : character ∈ first :: rest := List.mem_cons_of_mem _ ofId
      have allowed := Identifier.mem_of_isSlug slug (same ▸ isThere)
      exact endsWord_or_isSeparator (allowed.resolve_right fun isBreak => unbroken (isBreak ▸ isThere))
    · exact (by decide : ∀ character ∈ "-graphic".toList,
        endsWord character = true ∨ isSeparator character = true) character ofEnding

/-- An id that starts with a digit or a separator starts with no letter, and one of the three it has to
start with. -/
theorem startsWith_isSmallLetter_iff
    {id : String}
    (slug : Identifier.isSlug id = true) :
    StartsWith Identifier.isSmallLetter id ↔
      ¬ StartsWith Text.isDigit id ∧ ¬ StartsWith isSeparator id := by
  obtain ⟨first, rest, same, allowed⟩ := exists_start slug
  unfold StartsWith
  rw [same]
  simp only [List.head?_cons, Option.mem_def, Option.some.injEq, exists_eq_left']
  have small := Identifier.toNat_le_of_isSlugCharacter allowed
  revert allowed
  refine Identifier.of_ascii first (Nat.lt_of_le_of_lt small (by decide)) ?_
  decide +kernel

end Naming

namespace Audit

/-! ## The warning on a tag -/

/-- What the audit says of a tag that starts with a digit. -/
def tagWarning (id : String) : String :=
  "Tag " ++ id ++ "-graphic starts with a digit; browsers reject such custom element names"

theorem mem_tagWarnings_iff
    (id : String) :
    tagWarning id ∈ tagWarnings (.str id) ↔ Naming.StartsWith Text.isDigit id := by
  have warned : tagWarning id ∈ tagWarnings (.str id) ↔
      (id.toList.head?.map Text.isDigit).getD false = true := by
    unfold tagWarnings tagWarning finding
    split <;> simp_all
  rw [warned]
  unfold Naming.StartsWith
  cases id.toList.head? with
  | none => simp
  | some first => simp

/-- The first characters of warnings. -/
def OpensWith (opening : Char) (warnings : List String) : Prop :=
  ∀ warning ∈ warnings, warning.toList.head? = some opening

theorem OpensWith.notMem
    {opening : Char}
    {warnings : List String}
    (opens : OpensWith opening warnings)
    (other : opening ≠ 'T')
    (id : String) : tagWarning id ∉ warnings := by
  intro member
  have start : (tagWarning id).toList.head? = some 'T' := by
    simp [tagWarning]
  rw [opens _ member] at start
  exact other (Option.some.inj start)

theorem opensWith_finding
    {opening : Char}
    {message : String}
    (opens : message.toList.head? = some opening)
    (condition : Bool) : OpensWith opening (finding condition message) := by
  cases condition with
  | false => exact nofun
  | true => exact List.forall_mem_singleton.2 opens

theorem opensWith_versionWarnings
    (version : String) : OpensWith 'V' (versionWarnings (.str version)) :=
  opensWith_finding (by simp) _

theorem opensWith_componentWarnings
    (component : Option String) : OpensWith 'C' (componentWarnings (Json.ofText? component)) := by
  cases component with
  | none => exact nofun
  | some source => exact opensWith_finding (by simp) _

theorem opensWith_placeholderWarnings
    {properties : Table Json}
    {element : Json}
    {found : List String}
    (warned : placeholderWarnings properties element = .ok found) : OpensWith 'E' found := by
  cases element with
  | obj members =>
    obtain ⟨names, _, same⟩ := ok_of_bind warned
    cases same
    intro warning member
    obtain ⟨name, _, rfl⟩ := List.mem_map.1 member
    simp
  | _ =>
    cases warned
    exact nofun

theorem opensWith_elementsWarnings
    {properties : Table Json}
    {elements : Json}
    {found : List String}
    (warned : elementsWarnings properties elements = .ok found) : OpensWith 'E' found := by
  unfold elementsWarnings at warned
  split at warned
  · cases warned
    exact nofun
  · cases elements with
    | arr items =>
      obtain ⟨all, each, same⟩ := ok_of_bind warned
      cases same
      intro warning member
      obtain ⟨ofItem, isThere, inItem⟩ := List.mem_flatten.1 member
      obtain ⟨item, _, warnedOf⟩ := exists_of_mem_mapM each isThere
      exact opensWith_placeholderWarnings warnedOf warning inItem
    | str text =>
      cases warned
      exact nofun
    | obj members =>
      cases warned
      exact nofun
    | _ => cases warned

/-- The warning on the tag is among the warnings on a written snapshot just if the id starts with a
digit. -/
theorem tagWarning_mem_iff
    {snapshot : Snapshot}
    {found : List String}
    (warned : warnings snapshot.toJson = .ok found) :
    tagWarning snapshot.manifest.id ∈ found ↔
      Naming.StartsWith Text.isDigit snapshot.manifest.id := by
  have manifest : Json.memberOrNull snapshot.members "manifest" = .obj snapshot.manifest.members :=
    rfl
  have given : (Json.obj snapshot.manifest.members).isEmptyish = false := rfl
  have component : Json.memberOrNull snapshot.members "webComponent" =
      Json.ofText? snapshot.component := rfl
  have id : Json.memberOrNull snapshot.manifest.members "id" = .str snapshot.manifest.id := rfl
  have version : Json.memberOrNull snapshot.manifest.members "version" =
      .str snapshot.manifest.version := rfl
  unfold warnings Snapshot.toJson at warned
  simp only [manifest, given, component, Bool.false_eq_true, if_false] at warned
  obtain ⟨_, ⟨⟩, warned⟩ := ok_of_bind warned
  obtain ⟨ofElements, warnedElements, same⟩ := ok_of_bind warned
  cases same
  have noVersion := (opensWith_versionWarnings snapshot.manifest.version).notMem (by decide)
  have noElement := (opensWith_elementsWarnings warnedElements).notMem (by decide)
  have noComponent := (opensWith_componentWarnings snapshot.component).notMem (by decide)
  rw [id, version]
  simp only [List.mem_append, noVersion, noElement, noComponent, or_false, mem_tagWarnings_iff]

/-- The audit warns of a tag just if the id starts with a digit, and browsers do refuse that tag.  A tag
without a warning they accept, unless the id starts with a hyphen or an underscore or has a line break:
of these the audit says nothing. -/
theorem unflagged_tag_accepted_iff
    {template : Template}
    (built : Template.Built template)
    {given : Report}
    (answer : report template.snapshot = .ok given) :
    (tagWarning template.id ∈ given.warnings ↔ Naming.StartsWith Text.isDigit template.id) ∧
      (tagWarning template.id ∈ given.warnings ->
        ¬ Naming.IsCustomElementName (Naming.tagName template.id)) ∧
      (tagWarning template.id ∉ given.warnings ->
        (Naming.IsCustomElementName (Naming.tagName template.id) ↔
          ¬ Naming.StartsWith Naming.isSeparator template.id ∧ '\n' ∉ template.id.toList)) := by
  have slug : Identifier.isSlug template.id = true := built.valid.manifest.id
  have warned : warnings template.snapshot.toJson = .ok given.warnings := by
    unfold report at answer
    obtain ⟨value, written, answer⟩ := ok_of_bind answer
    have writable := template.exists_written_iff.1 ⟨value, written⟩
    cases written.symm.trans (Template.written_of_writable writable)
    obtain ⟨_, _, answer⟩ := ok_of_bind answer
    obtain ⟨_, warned, answer⟩ := ok_of_bind answer
    cases answer
    exact warned
  have flagged : tagWarning template.id ∈ given.warnings ↔
      Naming.StartsWith Text.isDigit template.id := tagWarning_mem_iff warned
  rw [flagged, Naming.isCustomElementName_tagName_iff slug,
    Naming.startsWith_isSmallLetter_iff slug]
  refine ⟨Iff.rfl, fun digit accepted => accepted.1.1 digit, fun noDigit => ?_⟩
  rw [and_iff_right noDigit]

/-- A template whose id starts with a hyphen passes the audit without a word, and no browser accepts its
tag. -/
theorem unflagged_tag_refused :
    ∃ template, Template.ofPreset .custom (.str "-demo") (.str "Demo") (.str "") [] = .ok template ∧
      report template.snapshot = .ok ⟨[], []⟩ ∧
      ¬ Naming.IsCustomElementName (Naming.tagName template.id) := by
  obtain ⟨template, made, answer, named⟩ : ∃ template,
      Template.ofPreset .custom (.str "-demo") (.str "Demo") (.str "") [] = .ok template ∧
        report template.snapshot = .ok ⟨[], []⟩ ∧ template.id = "-demo" :=
    ⟨_, rfl, by decide +kernel, rfl⟩
  obtain ⟨_, _, unflagged⟩ := unflagged_tag_accepted_iff (.ofPreset made) answer
  refine ⟨template, made, answer, fun accepted => ?_⟩
  have noSeparator := ((unflagged List.not_mem_nil).1 accepted).1
  rw [named] at noSeparator
  exact noSeparator ⟨'-', rfl, rfl⟩

end Audit
end BroadcastGraphics
