import BroadcastGraphics.Proofs.DocumentRoundTrip
import BroadcastGraphics.Proofs.ExportedSource

/-!
# Bundles bring deployed files into another session

An export bundle holds the files that a graphic is deployed as: its manifest as a text and its
component.  Imported into an empty session it gives a template that is deployed as files of the same
names.  The manifest file is the same; the component file is what an import keeps of component source,
or component source that is made for a new layout where the file is not recognised as a component.
-/

namespace BroadcastGraphics

namespace Exchange

/-! ## The files in a bundle -/

/-- Files whose names differ stand next to each other. -/
theorem fileSet_of_ne
    {α : Type}
    {id main : String}
    (apart : (if main.isEmpty then standardMain else main) ≠ id ++ manifestSuffix)
    (manifestText source : α) :
    fileSet id main manifestText source =
      [(id ++ manifestSuffix, manifestText),
        (if main.isEmpty then standardMain else main, source)] :=
  Table.put_of_notMem (fun member => apart (List.mem_singleton.1 member)) source

theorem endsIn_manifestSuffix (id : String) :
    Text.endsIn (id ++ manifestSuffix) manifestSuffix = true := by
  unfold Text.endsIn
  rw [String.toList_append, List.isSuffixOf_iff_suffix]
  exact List.suffix_append _ _

/-- A manifest file does not look like a component. -/
theorem isComponentName_manifest (id : String) :
    isComponentName (id ++ manifestSuffix) = false := by
  have other {ending : String} (last : ending.toList.getLast? = some 's') :
      Text.endsIn (id ++ manifestSuffix) ending = false := by
    refine Bool.eq_false_iff.2 fun ends => ?_
    obtain ⟨before, same⟩ := List.isSuffixOf_iff_suffix.1 ends
    have lastly := congrArg List.getLast? same
    rw [String.toList_append, List.getLast?_append, List.getLast?_append, last] at lastly
    cases lastly
  unfold isComponentName
  rw [other rfl, other rfl]
  rfl

/-- What an import of deployed files reads: the manifest file, and the component file if it is named as
one. -/
theorem bundleParts_files
    (id main : String)
    (manifestText source : Json) :
    bundleParts [(id ++ manifestSuffix, manifestText), (main, source)] =
      .ok (manifestText, if isComponentName main then source else .str "") := by
  have manifest : [(id ++ manifestSuffix, manifestText), (main, source)].find?
      (fun file => Text.endsIn file.1 manifestSuffix) = some (id ++ manifestSuffix, manifestText) :=
    List.find?_cons_of_pos (endsIn_manifestSuffix id)
  have others : [(id ++ manifestSuffix, manifestText), (main, source)].find?
      (fun file => isComponentName file.1) =
        [(main, source)].find? fun file => isComponentName file.1 :=
    List.find?_cons_of_neg (by rw [isComponentName_manifest]; exact Bool.false_ne_true)
  unfold bundleParts
  rw [manifest, others, List.find?_singleton]
  cases isComponentName main <;> rfl

end Exchange

namespace Template

/-! ## The files of a template -/

/-- Component source of the template: what is kept, or else what is made. -/
def componentText (template : Template) : String :=
  template.component.getD template.generated

/-- Reading component source keeps it. -/
theorem readComponent_eq (template : Template) :
    template.readComponent =
      .quiet { template with component := some template.componentText } template.componentText := by
  obtain ⟨manifest, elements, animation, component, nextNumber⟩ := template
  cases component <;> rfl

/-- The name of the component file. -/
def componentFile (template : Template) : String :=
  if template.manifest.main.isEmpty then Exchange.standardMain else template.manifest.main

/-- The text of the manifest file. -/
def manifestText (template : Template) : String :=
  template.manifest.toJson.documentText (some 2)

/-- The two files as which the template is deployed. -/
def files (template : Template) : Table String :=
  [(template.id ++ Exchange.manifestSuffix, template.manifestText),
    (template.componentFile, template.componentText)]

/-- The component in the files as an import reads it. -/
def bundledComponent (template : Template) : Json :=
  if Exchange.isComponentName template.componentFile then .str template.componentText else .str ""

/-- What an import of the files is made of. -/
def bundleSource (template : Template) : Session.ImportSource :=
  { manifest := .str template.manifestText, component := template.bundledComponent }

/-- The template that is made of the files: with a layout for the data that the graphic takes, and
with what is kept of its component source. -/
def unbundled (template : Template) : Template :=
  { ofSnapshot
      { manifest := template.manifest.settled
        elements :=
          Layout.ofSchema template.manifest.settled.schema.properties template.manifest.name
        animation := none
        component := none } with
    component := (ComponentSource.ofJson? template.bundledComponent).map ComponentSource.cleaned }

/-- The template can be brought back from its files: JSON text can carry the manifest, in which further
members are named by texts and no value that can be anything is a number without digits, and the two
files have different names. -/
structure Deployable (template : Template) : Prop where
  texts : template.manifest.TextNames
  hasDigits : ∀ value ∈ template.manifest.freeValues, value.HasDigits
  carried : template.manifest.toJson.Meets (.carried false .standard)
  apart : template.componentFile ≠ template.id ++ Exchange.manifestSuffix

section Unbundled

variable {template : Template}

theorem writable_unbundled (writable : template.Writable) : template.unbundled.Writable :=
  writable_reread writable

/-- The manifest is written as before. -/
theorem manifestText_unbundled
    (hasDigits : ∀ value ∈ template.manifest.freeValues, value.HasDigits) :
    template.unbundled.manifestText = template.manifestText :=
  congrArg (Json.documentText · (some 2)) (Manifest.toJson_settled hasDigits)

/-- The component is what is kept of the one before, or else it is made for the new layout. -/
theorem componentText_unbundled (template : Template) :
    template.unbundled.componentText =
      if Exchange.isComponentName template.componentFile &&
          ComponentSource.isPlausible template.componentText then
        ComponentSource.cleaned template.componentText
      else template.unbundled.generated := by
  unfold componentText
  change Option.getD (Option.map ComponentSource.cleaned
    (ComponentSource.ofJson? template.bundledComponent)) template.unbundled.generated = _
  unfold bundledComponent componentText
  cases Exchange.isComponentName template.componentFile with
  | false => rfl
  | true =>
    rw [if_pos rfl, Bool.true_and, ComponentSource.ofJson?]
    cases ComponentSource.isPlausible (template.component.getD template.generated) <;> rfl

/-- The manifest is read back from the text of its file. -/
theorem manifestMembers_manifestText
    (writable : template.Writable)
    (carried : template.manifest.toJson.Meets (.carried false .standard)) :
    Session.manifestMembers (.str template.manifestText) = .ok template.manifest.members := by
  have shallow : template.manifest.toJson.levels ≤ Json.Reader.Limits.standard.depth :=
    Nat.le_trans (Manifest.levels_toJson (by decide) writable) (by decide)
  have read : Json.parse template.manifestText = .ok template.manifest.toJson :=
    Json.parseWithin_text ⟨false, some 2⟩ carried shallow
  unfold Session.manifestMembers
  dsimp only
  rw [read]
  rfl

end Unbundled

end Template

namespace Session

/-! ## The plan of the import -/

section Planning

variable {session : Session} {template : Template}
  (regular : template.Regular)
  (writable : template.Writable)
  (deployable : template.Deployable)
include regular

theorem importedTemplate_files
    (texts : template.manifest.TextNames) :
    importedTemplate template.bundleSource template.manifest.members (.str template.id) =
      .ok template.unbundled := by
  have manifestRead := (Manifest.importedManifest_members_iff regular.manifest _).2 ⟨texts, rfl⟩
  have snapshotRead : importedSnapshot template.manifest.settled template.bundleSource.elements
      template.bundleSource.animation = .accepted _ := rfl
  have sameId : Json.str template.id = .str template.manifest.settled.id := rfl
  rw [importedTemplate_of_read manifestRead snapshotRead, if_pos sameId]
  rfl

include writable deployable

/-- Under a free id, deployed files are planned to be added as the template that is made of them; a
manifest without a name is refused. -/
theorem plan_files
    (free : session.number? template.id = none)
    {policy : Json}
    {known : ConflictPolicy}
    (isPolicy : ConflictPolicy.ofJson policy = .ok known) :
    session.plan template.bundleSource policy =
      if template.manifest.name = "" then .error (.badImport .noIdentity)
      else .ok (.add template.unbundled none) := by
  have identified : identifiedMembers template.bundleSource.manifest =
      if template.manifest.name = "" then .error (.badImport .noIdentity)
      else .ok template.manifest.members := by
    rw [← identifiedMembers_toJson regular.manifest.id]
    unfold identifiedMembers Template.bundleSource
    rw [template.manifestMembers_manifestText writable deployable.carried]
    rfl
  have looked : session.numberOfValue (.str template.id) = .ok none := congrArg Except.ok free
  have givenId : Json.memberOrNull template.manifest.members "id" = .str template.id := rfl
  unfold plan
  rw [isPolicy]
  dsimp only [bind, Except.bind]
  rw [identified]
  by_cases nameless : template.manifest.name = ""
  · rw [if_pos nameless, if_pos nameless]
  · rw [if_neg nameless, if_neg nameless]
    simp only [givenId, looked, importedTemplate_files regular deployable.texts]

end Planning

/-! ## Exporting and importing files -/

section Files

variable {session : Session}

/-- The files of a template that is held; its component source is kept from then on. -/
theorem resultOf_exportFiles_of_writable
    {id : String}
    {number : Nat}
    {template : Template}
    (held : session.number? id = some number)
    (present : session.template? number = some template)
    (writable : template.Writable) :
    resultOf (exportFiles id) session =
      (.ok (Exchange.fileSet template.id template.manifest.main template.manifestText
          template.componentText),
        session.withTemplate number { template with component := some template.componentText }) := by
  have text : manifestText template.manifest = .ok template.manifestText := by
    have free : (template.manifest.freeValues.all fun value =>
        decide (value.levels ≤ Json.mostLevels)) = true :=
      List.all_eq_true.2 fun value member => decide_eq_true (writable value member)
    unfold manifestText Json.written
    rw [if_pos free]
    rfl
  have read : resultOf (commit number template.readComponent) session =
      (.ok template.componentText,
        session.withTemplate number { template with component := some template.componentText }) := by
    rw [template.readComponent_eq, resultOf_commit_of_quiet rfl]
    rfl
  unfold exportFiles
  rw [resultOf_bind, resultOf_require_of_held held present]
  dsimp only
  rw [resultOf_bind, resultOf_lift, text]
  dsimp only
  rw [resultOf_bind, read]
  rfl

theorem resultOf_exportFiles
    {id : String}
    {number : Nat}
    {template : Template}
    (held : session.number? id = some number)
    (present : session.template? number = some template)
    (writable : template.Writable)
    (apart : template.componentFile ≠ template.id ++ Exchange.manifestSuffix) :
    resultOf (exportFiles id) session =
      (.ok template.files,
        session.withTemplate number { template with component := some template.componentText }) := by
  rw [resultOf_exportFiles_of_writable held present writable]
  exact congrArg (fun files => (Except.ok files, _)) (Exchange.fileSet_of_ne apart _ _)

/-- The bundle of a template holds its files. -/
theorem resultOf_exportBundle
    {id : String}
    {files : Table String}
    {after : Session}
    (exported : resultOf (exportFiles id) session = (.ok files, after))
    (date : Json) :
    resultOf (exportBundle id date) session =
      (.ok (Exchange.exportBundle (.str id) (.obj (Table.mapEntries Json.str files)) date),
        after) := by
  unfold exportBundle
  rw [resultOf_bind, exported]
  rfl

/-- A bundle of the files of a template is imported as its manifest and component. -/
theorem resultOf_importDocument_exportBundle
    {template : Template}
    (slug : Identifier.isSlug template.id = true)
    (date policy : Json) :
    resultOf (importDocument (Exchange.exportBundle (.str template.id)
        (.obj (Table.mapEntries Json.str template.files)) date) policy) session =
      ((resultOf (importTemplate template.bundleSource policy) session).1.map fun number => [number],
        (resultOf (importTemplate template.bundleSource policy) session).2) := by
  have named : template.id ≠ "" := by
    intro empty
    rw [empty] at slug
    cases slug
  have kind : Exchange.kindOf (Exchange.exportBundle (.str template.id)
      (.obj (Table.mapEntries Json.str template.files)) date) = .ok .exportBundle := by
    have truthy : (Json.str template.id).isTruthy = true := by
      unfold Json.isTruthy Json.isEmptyish
      simpa using named
    change (if (Json.str template.id).isTruthy && true then _ else _) = _
    rw [truthy]
    rfl
  have split : Exchange.splitBundle (Exchange.exportBundle (.str template.id)
      (.obj (Table.mapEntries Json.str template.files)) date) =
        .ok (.str template.manifestText, template.bundledComponent) :=
    Exchange.bundleParts_files template.id template.componentFile _ _
  unfold importDocument
  rw [resultOf_bind, kind, resultOf_lift]
  dsimp only
  rw [resultOf_bind, split, resultOf_lift]
  dsimp only
  change resultOf (importTemplate template.bundleSource policy >>= fun number => pure [number])
    session = _
  rw [resultOf_bind]
  rcases resultOf (importTemplate template.bundleSource policy) session with ⟨_ | number, after⟩ <;>
    rfl

end Files

/-! ## What comes back -/

section ComesBack

variable {session fresh : Session}
  {entry : String × Template}
  (reached : Reached session)
  (member : entry ∈ session.entries)
  (writable : entry.2.Writable)
  (deployable : entry.2.Deployable)
  (empty : fresh.index = [])
  (sequential : fresh.store.Sequential)
  (taken : fresh.store.takes entry.2.unbundled = true)
  {policy : Json} {known : ConflictPolicy}
  (isPolicy : ConflictPolicy.ofJson policy = .ok known)
  (date : Json)
include reached member writable deployable empty sequential taken isPolicy

/-- The files of a template are exported in a bundle, from which a template with files of the same
names comes back unless it has no name. -/
theorem files_come_back :
    ∃ exported document,
      resultOf (exportFiles entry.1) session = (.ok entry.2.files, exported) ∧
      resultOf (exportBundle entry.1 date) session = (.ok document, exported) ∧
      if entry.2.manifest.name = "" then
        resultOf (importDocument document policy) fresh =
          (.error (.badImport .noIdentity), fresh)
      else
        ∃ after left,
          resultOf (importDocument document policy) fresh =
            (.ok [fresh.templates.length], after) ∧
          resultOf (exportFiles entry.1) after = (.ok entry.2.unbundled.files, left) := by
  obtain ⟨number, held, present, sameId⟩ := reached.indexed.entry member
  have regular := reached.regular _ (List.mem_of_getElem? present)
  have exported := resultOf_exportFiles held present writable deployable.apart
  have planned := plan_files regular writable deployable (free_of_empty empty _) isPolicy
  refine ⟨_, _, exported, resultOf_exportBundle exported date, ?_⟩
  rw [← sameId, resultOf_importDocument_exportBundle regular.manifest.id,
    resultOf_importTemplate, planned]
  by_cases nameless : entry.2.manifest.name = ""
  · rw [if_pos nameless, if_pos nameless]
    rfl
  · rw [if_neg nameless, if_neg nameless]
    have slug : Identifier.isSlug entry.2.unbundled.id = true := regular.manifest.id
    obtain ⟨store, _, added⟩ := resultOf_add_of_takes sequential slug taken
    have carried : resultOf (carryOut (.add entry.2.unbundled none)) fresh = _ := added
    have tracked : ({ fresh.tracked entry.2.unbundled with
        current := some entry.2.unbundled.id, store := store } : Session).number? entry.2.id =
          some fresh.templates.length :=
      (Table.get?_put fresh.index entry.2.id entry.2.id _).trans (if_pos rfl)
    exact ⟨_, _, by dsimp only; rw [carried]; rfl,
      resultOf_exportFiles tracked (template?_tracked fresh _)
        (Template.writable_unbundled writable) deployable.apart⟩

/-- The file set as which a template is deployed comes back from its bundle with the same names and
the same manifest, unless the template has no name: then the import is refused.  Of a component file
that is named as one and looks like a component, the text comes back without its exports; any other is
made anew.  A component that has been made for the template loses its export by this, and nothing else
but blanks: in place of the export, the name of the class stands alone. -/
theorem deployed_files_come_back :
    let files (text : String) : Table String :=
      [(entry.1 ++ Exchange.manifestSuffix, entry.2.manifestText), (entry.2.componentFile, text)]
    let name := Naming.componentClassName entry.1
    let source := entry.2.componentText
    let back :=
      if Exchange.isComponentName entry.2.componentFile && ComponentSource.isPlausible source then
        ComponentSource.cleaned source
      else entry.2.unbundled.generated
    (∃ exported document,
      resultOf (exportFiles entry.1) session = (.ok (files source), exported) ∧
      resultOf (exportBundle entry.1 date) session = (.ok document, exported) ∧
      if entry.2.manifest.name = "" then
        resultOf (importDocument document policy) fresh =
          (.error (.badImport .noIdentity), fresh)
      else
        ∃ after left,
          resultOf (importDocument document policy) fresh =
            (.ok [fresh.templates.length], after) ∧
          resultOf (exportFiles entry.1) after = (.ok (files back), left)) ∧
    (source = entry.2.generated -> ComponentSource.isPlausible source = true ∧
      ∃ body, source = body ++ ("\nexport default " ++ (name ++ ";\n")) ∧
        ComponentSource.cleaned source =
          body ++ ("\n" ++ (String.ofList (name.toList.dropWhile Text.isBlank) ++ ";"))) := by
  intro files name source back
  obtain ⟨number, held, present, sameId⟩ := reached.indexed.entry member
  have regular := reached.regular _ (List.mem_of_getElem? present)
  have before : files source = entry.2.files := by
    change [(entry.1 ++ Exchange.manifestSuffix, _), _] = entry.2.files
    rw [← sameId]
    rfl
  have after : files back = entry.2.unbundled.files := by
    change [(entry.1 ++ Exchange.manifestSuffix, _), (_, back)] = entry.2.unbundled.files
    unfold Template.files
    rw [Template.manifestText_unbundled deployable.hasDigits,
      Template.componentText_unbundled, ← sameId]
    rfl
  refine ⟨?_, fun made => ?_⟩
  · rw [before, after]
    exact files_come_back reached member writable deployable empty sequential taken isPolicy date
  · have sameName : name = Naming.componentClassName entry.2.id :=
      congrArg Naming.componentClassName sameId.symm
    rw [made, sameName]
    exact ⟨Component.isPlausible_text _, _, Component.text_eq_body _,
      Component.cleaned_text regular.manifest.id _ _⟩

end ComesBack

/-- What is known of a new template that has a name. -/
theorem exists_creation :
    let session := performAll [creation "demo" "Demo"] (opened {} {}).2
    ∃ template, ("demo", template) ∈ session.entries ∧ template.Writable ∧ template.Deployable ∧
      template.manifest.name ≠ "" ∧ template.component = none ∧
      template.componentFile = "template.mjs" := by
  obtain ⟨template, member, writable, texts, hasDigits, legible, wellFormed, file, rest⟩ :
      ∃ template, ("demo", template) ∈
          (performAll [creation "demo" "Demo"] (opened {} {}).2).entries ∧
        template.Writable ∧ template.manifest.TextNames ∧
        (∀ value ∈ template.manifest.freeValues, value.HasDigits) ∧
        template.manifest.toJson.Legible ∧ template.manifest.toJson.WellFormed ∧
        template.componentFile ≠ template.id ++ Exchange.manifestSuffix ∧
        template.manifest.name ≠ "" ∧ template.component = none ∧
        template.componentFile = "template.mjs" := ⟨_, List.mem_cons_self, by decide +kernel⟩
  exact ⟨template, member, writable,
    ⟨texts, hasDigits, Json.meets_of_legible _ legible wellFormed, file⟩, rest⟩

/-- The component of a new template comes back without its export. -/
theorem exported_class_stands_alone :
    let session := performAll [creation "demo" "Demo"] (opened {} {}).2
    ∃ text body exported document after left,
      resultOf (exportFiles "demo") session =
        (.ok [("demo.ograf.json", text),
          ("template.mjs", body ++ "\nexport default DemoGraphic;\n")], exported) ∧
      resultOf (exportBundle "demo" (.str "today")) session = (.ok document, exported) ∧
      resultOf (importDocument document (.str "replace")) {} = (.ok [0], after) ∧
      resultOf (exportFiles "demo") after =
        (.ok [("demo.ograf.json", text), ("template.mjs", body ++ "\nDemoGraphic;")], left) := by
  intro session
  obtain ⟨template, member, writable, deployable, named, bare, file⟩ := exists_creation
  have reached : Reached session := ⟨{}, {}, _, rfl⟩
  have isPolicy : ConflictPolicy.ofJson (.str "replace") = .ok .replace := rfl
  obtain ⟨roundTrip, ofGenerated⟩ := deployed_files_come_back reached member writable deployable
    (rfl : ({} : Session).index = []) (.memory _ _)
    (Template.takes_of_memory (Template.writable_unbundled writable) _ _) isPolicy (.str "today")
  have made : template.componentText = template.generated := by
    rw [Template.componentText, bare]
    rfl
  obtain ⟨isComponent, body, source, cleaned⟩ := ofGenerated made
  obtain ⟨exported, document, isExported, isBundled, comesBack⟩ := roundTrip
  rw [if_neg named] at comesBack
  obtain ⟨after, left, imported, again⟩ := comesBack
  have name : Naming.componentClassName "demo" = "DemoGraphic" := by decide +kernel
  have shown : String.ofList ("DemoGraphic".toList.dropWhile Text.isBlank) = "DemoGraphic" := by
    decide +kernel
  rw [name] at source cleaned
  rw [shown] at cleaned
  refine ⟨template.manifestText, body, exported, document, after, left, ?_, isBundled, imported, ?_⟩
  · refine isExported.trans ?_
    rw [source, file]
    rfl
  · refine again.trans ?_
    rw [isComponent, cleaned, file]
    rfl

/-- So the files of a new template do not come back as they were. -/
theorem deployed_files_differ :
    let session := performAll [creation "demo" "Demo"] (opened {} {}).2
    ∃ files back exported document after left,
      resultOf (exportFiles "demo") session = (.ok files, exported) ∧
      resultOf (exportBundle "demo" (.str "today")) session = (.ok document, exported) ∧
      resultOf (importDocument document (.str "replace")) {} = (.ok [0], after) ∧
      resultOf (exportFiles "demo") after = (.ok back, left) ∧ back ≠ files := by
  intro session
  obtain ⟨template, member, writable, deployable, named, bare, file⟩ := exists_creation
  have reached : Reached session := ⟨{}, {}, _, rfl⟩
  have isPolicy : ConflictPolicy.ofJson (.str "replace") = .ok .replace := rfl
  obtain ⟨exported, document, isExported, isBundled, comesBack⟩ := files_come_back reached member
    writable deployable (rfl : ({} : Session).index = []) (.memory _ _)
    (Template.takes_of_memory (Template.writable_unbundled writable) _ _) isPolicy (.str "today")
  rw [if_neg named] at comesBack
  obtain ⟨after, left, imported, again⟩ := comesBack
  refine ⟨_, _, exported, document, after, left, isExported, isBundled, imported, again, ?_⟩
  intro same
  have texts : template.unbundled.componentText = template.componentText :=
    congrArg Prod.snd (List.cons.inj (List.cons.inj same).2).1
  have made : template.componentText = template.generated := by
    rw [Template.componentText, bare]
    rfl
  have isComponent : ComponentSource.isPlausible template.generated = true :=
    Component.isPlausible_text _
  obtain ⟨number, _, present, _⟩ := reached.indexed.entry member
  have regular := reached.regular _ (List.mem_of_getElem? present)
  rw [Template.componentText_unbundled, made, file, isComponent] at texts
  exact Component.cleaned_text_ne regular.manifest.id _ _ texts

end Session
end BroadcastGraphics
