import BroadcastGraphics.Audit
import BroadcastGraphics.Proofs.TemplateValidity

/-!
# The audit and the checks of records

The audit looks at values of any shape, with rules of its own.  A template has passed the checks of
its records, and written as a value it meets almost all of these rules: what can still be found are
an empty name, an empty main file, actions with empty ids, and component source that extends nothing.
Everything else that the audit asks of a manifest, of elements and of settings, the checks have asked
before.  Warnings never stop the audit of a template; it fails only if the template cannot be
written.
-/

namespace BroadcastGraphics

namespace Json

/-- Leaving out members that are nothing leaves the others under their names. -/
theorem get?_presentMembers
    {members : Table Json}
    (distinct : Table.Distinct members)
    (name : String) :
    Table.get? (presentMembers members) name =
      (Table.get? members name).filter fun value => !value.isNull := by
  induction members with
  | nil => rfl
  | cons member rest ih =>
    obtain ⟨key, value⟩ := member
    obtain ⟨absent, distinctRest⟩ := List.nodup_cons.1 distinct
    have later := ih distinctRest
    unfold presentMembers at later ⊢
    rw [List.filter_cons, Table.get?]
    by_cases here : key = name
    · subst here
      have missing : Table.get? (rest.filter fun member => !member.2.isNull) key = none := by
        rw [later, (Table.get?_eq_none_iff rest key).2 absent]
        rfl
      cases nothing : value.isNull with
      | true => simpa [nothing, Option.filter] using missing
      | false => simp [nothing, Table.get?, Option.filter]
    · cases nothing : value.isNull with
      | true => simpa [nothing, here] using later
      | false => simpa [nothing, Table.get?, here] using later

theorem memberOrNull_presentMembers
    {members : Table Json}
    (distinct : Table.Distinct members)
    (name : String) : memberOrNull (presentMembers members) name = memberOrNull members name := by
  unfold memberOrNull
  rw [get?_presentMembers distinct]
  cases Table.get? members name with
  | none => rfl
  | some value =>
    cases nothing : value.isNull with
    | true =>
      rw [eq_null_of_isNull nothing]
      rfl
    | false => simp [Option.filter, nothing]

end Json

namespace Audit

/-! ## Findings on written records -/

@[simp] theorem finding_false (message : String) : finding false message = [] :=
  rfl

theorem finding_eq_nil_iff
    (condition : Bool)
    (message : String) : finding condition message = [] ↔ condition = false := by
  cases condition <;> simp [finding]

/-- A text that passes a test which the empty text fails is not empty. -/
theorem isEmpty_of_passes
    (test : String -> Bool)
    {text : String}
    (refuses : test "" = false)
    (passes : test text = true) : text.isEmpty = false := by
  refine Bool.eq_false_iff.2 fun nothing => ?_
  rw [String.isEmpty_iff.1 nothing, refuses] at passes
  cases passes

/-- The findings on actions without id, the first one having a given index. -/
def namelessFindings (actions : List CustomAction) (index : Nat) : List String :=
  (actions.zipIdx index).flatMap fun (action, index) =>
    finding action.id.isEmpty ("Custom action " ++ indexText index ++ ": missing id")

theorem hasId_toJson (action : CustomAction) : hasId action.toJson = !action.id.isEmpty := by
  change hasId (.obj (Json.settledMembers action.members)) = _
  unfold CustomAction.members
  rw [List.cons_append, Json.settledMembers_cons_of_present rfl]
  rfl

theorem actionFindings_toJson
    (actions : List CustomAction)
    (index : Nat) :
    actionFindings index (actions.map CustomAction.toJson) = namelessFindings actions index := by
  induction actions generalizing index with
  | nil => rfl
  | cons action rest ih =>
    rw [List.map_cons, actionFindings, hasId_toJson, Bool.not_not, ih]
    rfl

/-- A written manifest can lack a name, a main file and ids of actions. -/
theorem manifestFindings_toJson
    {manifest : Manifest}
    (valid : manifest.Valid) :
    manifestFindings manifest.toJson =
      finding manifest.name.isEmpty "Missing template name" ++
        finding manifest.main.isEmpty "Missing main file reference" ++
        namelessFindings manifest.customActions 0 := by
  have nonempty : manifest.id.isEmpty = false := isEmpty_of_passes _ (by decide) valid.id
  have slug : isTextWith Identifier.isSlug (.str manifest.id) = true := valid.id
  have steps : isStepCount (.int manifest.stepCount) = true := decide_eq_true valid.steps
  have id : Json.memberOrNull manifest.members "id" = .str manifest.id := rfl
  have name : Json.memberOrNull manifest.members "name" = .str manifest.name := rfl
  have main : Json.memberOrNull manifest.members "main" = .str manifest.main := rfl
  have schema : Json.memberOrNull manifest.members "schema" = manifest.schema.toJson := rfl
  have realTime : flagFindings manifest.members "supportsRealTime" = [] := rfl
  have nonRealTime : flagFindings manifest.members "supportsNonRealTime" = [] := rfl
  have stepCount : Table.get? manifest.members "stepCount" = some (.int manifest.stepCount) := rfl
  have actions : Table.get? manifest.members "customActions" =
      some (.arr (manifest.customActions.map CustomAction.toJson)) := rfl
  have properties : schemaFindings manifest.schema.toJson = [] := rfl
  unfold manifestFindings Manifest.toJson
  simp only [id, name, main, schema, realTime, nonRealTime, stepCount, actions, properties, slug,
    steps, Json.isEmptyish, nonempty, actionFindings_toJson, Bool.not_true, finding_false,
    Bool.false_eq_true, if_false, List.append_nil, List.nil_append]

/-! ### Elements -/

theorem isNumber_plainJson (number : Binary64) : number.plainJson.isNumber = true := by
  unfold Binary64.plainJson
  cases number.whole? <;> rfl

theorem distinct_element (element : Element) : Table.Distinct element.members := by
  change ["id", "type", "x", "y", "width", "height", "content", "style"].Nodup
  decide

theorem memberOrNull_element
    (element : Element)
    (name : String) :
    Json.memberOrNull (Json.presentMembers element.members) name =
      Json.memberOrNull element.members name :=
  Json.memberOrNull_presentMembers (distinct_element element) name

/-- Nothing is found on a written element. -/
theorem elementFindings_toJson
    {element : Element}
    (valid : element.Valid)
    (index : Json) : elementFindings element.toJson index = [] := by
  have nonempty : element.id.isEmpty = false := isEmpty_of_passes _ (by decide) valid.id
  have isId : isTextWith Identifier.isElementId (.str element.id) = true := valid.id
  have named : element.kind.name.isEmpty = false := by cases element.kind <;> decide
  have isKind : isTextWith (Table.has ElementKind.options) (.str element.kind.name) = true := by
    cases element.kind <;> decide
  have id : Json.memberOrNull element.members "id" = .str element.id := rfl
  have kind : Json.memberOrNull element.members "type" = .str element.kind.name := rfl
  have x : Json.memberOrNull element.members "x" = element.x.plainJson := rfl
  have y : Json.memberOrNull element.members "y" = element.y.plainJson := rfl
  have width : Json.memberOrNull element.members "width" = element.width.plainJson := rfl
  have height : Json.memberOrNull element.members "height" = element.height.plainJson := rfl
  have style : Table.get? (Json.presentMembers element.members) "style" =
      some element.styleJson := Json.get?_presentMembers (distinct_element element) "style"
  have isObject : element.styleJson.obj?.isNone = false := rfl
  unfold elementFindings Element.toJson
  simp only [memberOrNull_element, id, kind, x, y, width, height, style, isNumber_plainJson,
    Json.isEmptyish, nonempty, named, isId, isKind, isObject, Bool.not_true, finding_false,
    Bool.false_eq_true, if_false, List.append_nil]

/-- Nothing is found on written elements with distinct ids, whatever ids were seen before. -/
theorem elementsFindingsFrom_toJson
    {elements : List Element}
    (valid : ∀ element ∈ elements, element.Valid)
    (seen : List String)
    (distinct : (seen ++ elements.map Element.id).Nodup)
    (fromText : Bool)
    (index : Nat) :
    elementsFindingsFrom fromText index (seen.map Json.str) (elements.map Element.toJson) =
      .ok [] := by
  -- what was seen grows with every element, so that distinctness has to be of seen and coming ids
  induction elements generalizing seen index with
  | nil => rfl
  | cons element rest ih =>
    obtain ⟨here, later⟩ := List.forall_mem_cons.1 valid
    have nonempty : (Json.str element.id).isEmptyish = false :=
      isEmpty_of_passes Identifier.isElementId (by decide) here.id
    have id : idOf element.toJson = .str element.id :=
      (memberOrNull_element element "id").trans rfl
    have fresh : element.id ∉ seen := by
      intro member
      exact (List.nodup_append.1 distinct).2.2 _ member _ List.mem_cons_self rfl
    have unseen : (seen.map Json.str).any (sameId fromText · (.str element.id)) = false := by
      refine List.any_eq_false.2 fun other member => ?_
      obtain ⟨id, isSeen, rfl⟩ := List.mem_map.1 member
      have differs : id ≠ element.id := fun same => fresh (same ▸ isSeen)
      simp [sameId, Json.sameScalar, differs]
    have others := ih later (seen ++ [element.id]) (by simpa using distinct) (index + 1)
    rw [List.map_append] at others
    rw [List.map_cons, elementsFindingsFrom]
    simp only [elementFindings_toJson here, id, nonempty, unseen, Json.isScalar, Bool.not_true,
      Bool.false_eq_true, if_false]
    change (elementsFindingsFrom fromText (index + 1) (seen.map Json.str ++ [.str element.id])
      (rest.map Element.toJson) >>= _) = _
    rw [show seen.map Json.str ++ [Json.str element.id] =
      seen.map Json.str ++ [element.id].map Json.str from rfl, others]
    rfl

/-- Component source that is not empty has to name the class that it extends. -/
theorem componentFindings_ofText?
    (component : Option String) :
    componentFindings (Json.ofText? component) =
      finding (component.any fun source => !source.isEmpty && !Text.contains source "HTMLElement")
        "Component must extend HTMLElement" := by
  cases component with
  | none => rfl
  | some source =>
    change (if source.isEmpty = true then [] else _) = _
    cases nothing : source.isEmpty with
    | true => simp [nothing]
    | false => simp [nothing, Json.ofText?]

/-- Nothing is found on written settings. -/
theorem animationFindings_toJson
    {animation : Option AnimationSettings}
    (valid : ∀ settings ∈ animation, settings.Valid) :
    animationFindings (Snapshot.animationJson animation) = [] := by
  cases animation with
  | none => rfl
  | some settings =>
    obtain ⟨slideIn, slideOut⟩ := valid settings rfl
    have entrance : isPositive (.int settings.slideInDuration) = true := decide_eq_true slideIn
    have exit : isPositive (.int settings.slideOutDuration) = true := decide_eq_true slideOut
    have ofEntrance : Table.get? settings.members "slideInDuration" =
        some (.int settings.slideInDuration) := rfl
    have ofExit : Table.get? settings.members "slideOutDuration" =
        some (.int settings.slideOutDuration) := rfl
    change durationFindings settings.members _ ++ durationFindings settings.members _ = []
    unfold durationFindings
    rw [ofEntrance, ofExit]
    simp only [entrance, exit, Bool.not_true, finding_false, List.append_nil]

/-! ## Warnings -/

/-- What is done for every item without a fault is done for all. -/
theorem exists_mapM
    {α β : Type}
    (change : α -> Except Fault β)
    {items : List α}
    (each : ∀ item ∈ items, ∃ changed, change item = .ok changed) :
    ∃ all, items.mapM change = .ok all := by
  induction items with
  | nil => exact ⟨[], rfl⟩
  | cons item rest ih =>
    obtain ⟨here, later⟩ := List.forall_mem_cons.1 each
    obtain ⟨changed, first⟩ := here
    obtain ⟨all, others⟩ := ih later
    refine ⟨changed :: all, ?_⟩
    rw [List.mapM_cons, first, others]
    rfl

/-- What is done for all items has been done for one of them. -/
theorem exists_of_mem_mapM
    {α β : Type}
    {change : α -> Except Fault β}
    {items : List α}
    {all : List β}
    (done : items.mapM change = .ok all)
    {changed : β}
    (member : changed ∈ all) : ∃ item ∈ items, change item = .ok changed := by
  induction items generalizing all with
  | nil =>
    cases done
    cases member
  | cons item rest ih =>
    rw [List.mapM_cons] at done
    obtain ⟨first, here, done⟩ := ok_of_bind done
    obtain ⟨others, later, done⟩ := ok_of_bind done
    cases done
    rcases List.mem_cons.1 member with rfl | among
    · exact ⟨item, List.mem_cons_self, here⟩
    · obtain ⟨other, isThere, made⟩ := ih later among
      exact ⟨other, List.mem_cons_of_mem _ isThere, made⟩

theorem exists_placeholderNames
    (content : Option String) : ∃ names, placeholderNames (Json.ofText? content) = .ok names := by
  cases content with
  | none => exact ⟨[], rfl⟩
  | some text =>
    unfold placeholderNames
    split
    · exact ⟨[], rfl⟩
    · exact ⟨Placeholder.names (some text), rfl⟩

theorem exists_placeholderWarnings
    (properties : Table Json)
    (element : Element) : ∃ found, placeholderWarnings properties element.toJson = .ok found := by
  have content : Json.memberOrNull (Json.presentMembers element.members) "content" =
      Json.ofText? element.content := (memberOrNull_element element "content").trans rfl
  obtain ⟨names, found⟩ := exists_placeholderNames element.content
  unfold Element.toJson placeholderWarnings
  dsimp only
  rw [content, found]
  exact ⟨_, rfl⟩

theorem exists_elementsWarnings
    (properties : Table Json)
    (elements : List Element) :
    ∃ found, elementsWarnings properties (.arr (elements.map Element.toJson)) = .ok found := by
  unfold elementsWarnings
  split
  · exact ⟨[], rfl⟩
  · obtain ⟨all, found⟩ : ∃ all, (elements.map Element.toJson).mapM
        (placeholderWarnings properties) = .ok all := by
      refine exists_mapM _ fun item member => ?_
      obtain ⟨element, _, rfl⟩ := List.mem_map.1 member
      exact exists_placeholderWarnings properties element
    dsimp only
    rw [found]
    exact ⟨_, rfl⟩

/-- Warnings can be given on every written snapshot. -/
theorem exists_warnings (snapshot : Snapshot) : ∃ found, warnings snapshot.toJson = .ok found := by
  have manifest : Json.memberOrNull snapshot.members "manifest" = .obj snapshot.manifest.members :=
    rfl
  have elements : Json.memberOrNull snapshot.members "elements" =
      .arr (snapshot.elements.map Element.toJson) := rfl
  have given : (Json.obj snapshot.manifest.members).isEmptyish = false := rfl
  unfold warnings Snapshot.toJson
  simp only [manifest, elements, given, Bool.false_eq_true, if_false]
  obtain ⟨found, warned⟩ := exists_elementsWarnings
    (membersOrNone (Json.memberOrNull
      (membersOrNone (Json.memberOrNull snapshot.manifest.members "schema")) "properties"))
    snapshot.elements
  change ∃ found, (elementsWarnings _ _ >>= _) = .ok found
  rw [warned]
  exact ⟨_, rfl⟩

/-! ## Findings on templates -/

/-- What can be found on a valid snapshot that is written. -/
def remaining (snapshot : Snapshot) : List String :=
  finding snapshot.manifest.name.isEmpty "Missing template name" ++
    finding snapshot.manifest.main.isEmpty "Missing main file reference" ++
    namelessFindings snapshot.manifest.customActions 0 ++
    finding
      (snapshot.component.any fun source =>
        !source.isEmpty && !Text.contains source "HTMLElement")
      "Component must extend HTMLElement"

theorem findings_toJson
    {snapshot : Snapshot}
    (valid : snapshot.Valid) : findings snapshot.toJson = .ok (remaining snapshot) := by
  have manifest : Json.memberOrNull snapshot.members "manifest" = snapshot.manifest.toJson := rfl
  have elements : Table.get? snapshot.members "elements" =
      some (.arr (snapshot.elements.map Element.toJson)) := rfl
  have component : Json.memberOrNull snapshot.members "webComponent" =
      Json.ofText? snapshot.component := rfl
  have animation : Json.memberOrNull snapshot.members "animationSettings" =
      Snapshot.animationJson snapshot.animation := rfl
  have onElements : elementsFindings false (.arr (snapshot.elements.map Element.toJson)) =
      .ok [] := elementsFindingsFrom_toJson valid.elements [] valid.distinct false 0
  unfold findings Snapshot.toJson
  simp only [manifest, elements, component, animation, Option.getD_some, onElements,
    manifestFindings_toJson valid.manifest, componentFindings_ofText?,
    animationFindings_toJson valid.animation, List.append_nil]
  unfold remaining
  change Except.ok _ = Except.ok _
  rw [List.append_nil]

theorem namelessFindings_eq_nil_iff
    (actions : List CustomAction)
    (index : Nat) : namelessFindings actions index = [] ↔ ∀ action ∈ actions, action.id ≠ "" := by
  induction actions generalizing index with
  | nil => simp [namelessFindings]
  | cons action rest ih =>
    have first : namelessFindings (action :: rest) index =
        finding action.id.isEmpty ("Custom action " ++ indexText index ++ ": missing id") ++
          namelessFindings rest (index + 1) := rfl
    rw [first, List.append_eq_nil_iff, finding_eq_nil_iff, ih, List.forall_mem_cons]
    simp

theorem remaining_eq_nil_iff
    (snapshot : Snapshot) :
    remaining snapshot = [] ↔
      snapshot.manifest.name ≠ "" ∧ snapshot.manifest.main ≠ "" ∧
        (∀ action ∈ snapshot.manifest.customActions, action.id ≠ "") ∧
        ∀ source ∈ snapshot.component, source ≠ "" ->
          Text.contains source "HTMLElement" = true := by
  unfold remaining
  simp only [List.append_eq_nil_iff, finding_eq_nil_iff, namelessFindings_eq_nil_iff, and_assoc]
  have named : (snapshot.component.any fun source =>
        !source.isEmpty && !Text.contains source "HTMLElement") = false ↔
      ∀ source ∈ snapshot.component, source ≠ "" ->
        Text.contains source "HTMLElement" = true := by
    cases snapshot.component <;> simp
  rw [named]
  simp

/-- A template that edits lead to is audited exactly when it can be written.  The audit finds nothing
just when name, main file and all ids of actions are filled and component source, if there is any,
names the class it extends; and whatever it finds says that one of these is missing. -/
theorem audit_agrees_with_checks
    {template : Template}
    (built : Template.Built template) :
    ((∃ given, report template.snapshot = .ok given) ↔ template.Writable) ∧
      ∀ given, report template.snapshot = .ok given ->
        given.findings = remaining template.snapshot ∧
          (given.findings = [] ↔
            template.manifest.name ≠ "" ∧ template.manifest.main ≠ "" ∧
              (∀ action ∈ template.manifest.customActions, action.id ≠ "") ∧
              ∀ source ∈ template.component, source ≠ "" ->
                Text.contains source "HTMLElement" = true) := by
  obtain ⟨warned, warnings⟩ := exists_warnings template.snapshot
  have found := findings_toJson built.valid
  have ofWritable (writable : template.Writable) :
      report template.snapshot = .ok ⟨remaining template.snapshot, warned⟩ := by
    have written : template.snapshot.written = .ok template.snapshot.toJson :=
      Template.written_of_writable writable
    unfold report
    rw [written]
    change (findings template.snapshot.toJson >>= _) = _
    rw [found]
    change (Audit.warnings template.snapshot.toJson >>= _) = _
    rw [warnings]
    rfl
  have writable_of_given {given : Report} (answer : report template.snapshot = .ok given) :
      template.Writable := by
    by_contra unwritable
    have refused : template.snapshot.written = .error _ :=
      Template.written_of_not_writable unwritable
    unfold report at answer
    rw [refused] at answer
    cases answer
  refine ⟨⟨fun ⟨given, answer⟩ => writable_of_given answer, fun writable =>
    ⟨_, ofWritable writable⟩⟩, fun given answer => ?_⟩
  rw [ofWritable (writable_of_given answer)] at answer
  cases answer
  exact ⟨rfl, remaining_eq_nil_iff template.snapshot⟩

/-- A preset that gets component source without a class is blamed for the source alone. -/
theorem classless_component_is_found :
    ∃ template, Template.ofPreset .lowerThird (.str "demo") (.str "Demo") (.str "") [] =
        .ok template ∧
      ∃ given, report (template.run (.setComponent (some "export"))).template.snapshot =
          .ok given ∧
        given.findings = ["Component must extend HTMLElement"] := by
  obtain ⟨template, made⟩ : ∃ template,
      Template.ofPreset .lowerThird (.str "demo") (.str "Demo") (.str "") [] = .ok template :=
    ⟨_, rfl⟩
  obtain ⟨answered, found⟩ :=
    audit_agrees_with_checks (.call (.ofPreset made) (.setComponent (some "export")))
  refine ⟨template, made, ?_⟩
  cases made
  obtain ⟨given, answer⟩ := answered.2 (by unfold Template.Writable; decide)
  exact ⟨given, answer, (found given answer).1.trans (by decide +kernel)⟩

end Audit
end BroadcastGraphics
