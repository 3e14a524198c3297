import BroadcastGraphics.Proofs.BundleRoundTrip
import BroadcastGraphics.Proofs.ElementRequest
import BroadcastGraphics.Proofs.OperatorAccess
import BroadcastGraphics.Proofs.WrittenFiles

/-!
# Exported files

A template is exported as the text of its manifest and its component source.  The name of the component
file is a field of the manifest that may be any text: if it is the name of the manifest file, the set
has one file only, and if just its last part is, the component is written over the manifest.  Whatever
it is, an export to the disk writes nothing outside the directory of the template.
-/

namespace BroadcastGraphics

theorem Path.baseName_of_noSlash
    {name : String}
    (noSlash : '/' ∉ name.toList) : Path.baseName name = name := by
  unfold Path.baseName
  rw [List.takeWhile_eq_self_iff.2 fun character member => ?_]
  · rw [List.reverse_reverse, String.ofList_toList]
  · rw [bne_iff_ne]
    rintro rfl
    exact noSlash (List.mem_reverse.1 member)

theorem FileTree.read_of_file
    {tree : FileTree}
    {path content : String}
    {place : Place}
    (located : tree.locate path = .ok place)
    (stored : tree.at? place = some (.file content)) : tree.read path = .ok content := by
  simp only [FileTree.read, located, bind, Except.bind, stored]

namespace Exchange

/-- Of two files with one name the later is left. -/
theorem fileSet_of_eq
    {α : Type}
    {id main : String}
    (same : (if main.isEmpty then standardMain else main) = id ++ manifestSuffix)
    (manifestText source : α) :
    fileSet id main manifestText source =
      [(if main.isEmpty then standardMain else main, source)] := by
  unfold fileSet
  rw [same]
  simp [Table.put]

/-- A text that could be written as a whole is what the file holds. -/
theorem contentOf_str_of_ok
    {text : String}
    (whole : (contentOf (.str text)).2 = .ok ()) : (contentOf (.str text)).1 = text := by
  unfold contentOf at whole ⊢
  dsimp only at whole ⊢
  split at whole
  · cases whole
  · rfl

end Exchange

namespace Template

/-- The name of the manifest file. -/
def manifestFile (template : Template) : String :=
  template.id ++ Exchange.manifestSuffix

/-- The manifest and the component are in files of their own in the directory. -/
def IsDeployed (template : Template) (directory : String) (tree : FileTree) : Prop :=
  ∃ manifestPlace componentPlace, manifestPlace ≠ componentPlace ∧
    tree.locate (Path.join directory template.manifestFile) = .ok manifestPlace ∧
    tree.at? manifestPlace = some (.file template.manifestText) ∧
    tree.locate (Path.join directory (Path.baseName template.componentFile)) = .ok componentPlace ∧
    tree.at? componentPlace = some (.file template.componentText)

variable {template : Template} {files : Table String}

/-- A set has both files, under different names, unless the names of both are the same. -/
theorem complete_iff_of_set
    (set : files = Exchange.fileSet template.id template.manifest.main template.manifestText
      template.componentText) :
    (files = template.files ∧ (Table.names files).Nodup) ↔
      template.componentFile ≠ template.manifestFile := by
  constructor
  · rintro ⟨whole, _⟩ same
    rw [set, Exchange.fileSet_of_eq same] at whole
    have count : 1 = 2 := congrArg List.length whole
    cases count
  · intro apart
    rw [set, Exchange.fileSet_of_ne apart]
    refine ⟨rfl, List.nodup_cons.2 ⟨fun member => apart ?_, List.nodup_singleton _⟩⟩
    exact (List.mem_singleton.1 member).symm

section Deployed

variable (slug : Identifier.isSlug template.id = true)
include slug

theorem noSlash_manifestFile : '/' ∉ template.manifestFile.toList := by
  rw [manifestFile, String.toList_append, List.mem_append, not_or]
  exact ⟨Identifier.notMem_of_isSlug slug (by decide) (by decide), by decide⟩

theorem baseName_manifestFile : Path.baseName template.manifestFile = template.manifestFile :=
  Path.baseName_of_noSlash (noSlash_manifestFile slug)

variable {directory : String} {tree after : FileTree} {paths : List String}

/-- When the files of a template have been written, its component is there, and its manifest is there
too unless the last part of the name of the component file is the name of the manifest file. -/
theorem isDeployed_iff_of_written
    (set : files = Exchange.fileSet template.id template.manifest.main template.manifestText
      template.componentText)
    (wrote : Exchange.writeFiles (Table.mapEntries Json.str files) directory tree =
      (after, .ok paths)) :
    after.read (Path.join directory (Path.baseName template.componentFile)) =
        .ok template.componentText ∧
      (template.IsDeployed directory after ↔
        Path.baseName template.componentFile ≠ template.manifestFile) := by
  obtain ⟨home, _, each⟩ := Exchange.at?_writeFiles_of_ok wrote
  have last : ∃ before, Table.mapEntries Json.str files =
      before ++ [(template.componentFile, .str template.componentText)] := by
    by_cases same : template.componentFile = template.manifestFile
    · rw [set, Exchange.fileSet_of_eq same]
      exact ⟨[], rfl⟩
    · rw [set, Exchange.fileSet_of_ne same]
      exact ⟨[(template.manifestFile, .str template.manifestText)], rfl⟩
  obtain ⟨before, whole⟩ := last
  obtain ⟨written, led, stored⟩ := each before _ [] whole (List.forall_mem_nil _)
  rw [Exchange.contentOf_str_of_ok written] at stored
  refine ⟨?_, ?_, fun apart => ?_⟩
  · exact FileTree.read_of_file led stored
  · rintro ⟨manifestPlace, componentPlace, apart, manifestLed, _, componentLed, _⟩ same
    rw [same, manifestLed] at componentLed
    exact apart (Except.ok.inj componentLed)
  · have isManifest := baseName_manifestFile slug
    have other : template.componentFile ≠ template.manifestFile := by
      intro same
      rw [same] at apart
      exact apart isManifest
    have both : Table.mapEntries Json.str files =
        [] ++ (template.manifestFile, .str template.manifestText) ::
          [(template.componentFile, .str template.componentText)] := by
      rw [set, Exchange.fileSet_of_ne other]
      rfl
    obtain ⟨manifestWritten, manifestLed, manifestStored⟩ := each _ _ _ both (by simpa [isManifest])
    rw [Exchange.contentOf_str_of_ok manifestWritten] at manifestStored
    unfold Exchange.pathOf at manifestLed
    dsimp only at manifestLed manifestStored
    rw [isManifest] at manifestLed manifestStored
    refine ⟨_, _, fun same => apart ?_, manifestLed, manifestStored, led, stored⟩
    exact (Place.text_child_inj.1 (congrArg Place.text same)).symm

end Deployed

end Template

namespace Session

theorem resultOf_exportFiles_of_not_writable
    {session : Session}
    {id : String}
    {number : Nat}
    {template : Template}
    (held : session.number? id = some number)
    (present : session.template? number = some template)
    (unwritable : ¬ template.Writable) :
    resultOf (exportFiles id) session = (.error (.misuse .tooDeepToWrite), session) := by
  have text : manifestText template.manifest = .error (.misuse .tooDeepToWrite) := by
    unfold manifestText Json.written
    rw [if_neg]
    · rfl
    · rw [List.all_eq_true]
      exact fun free => unwritable fun value member => of_decide_eq_true (free value member)
  unfold exportFiles
  rw [resultOf_bind, resultOf_require_of_held held present]
  dsimp only
  rw [resultOf_bind, resultOf_lift, text]

/-- A template that is held is exported just if its manifest can be written.  There are two files, under
different names, unless the name of the component file is that of the manifest file.  When they have
been written to a directory, the component is there, and both are there in files of their own unless
the last part of the name of the component file is the name of the manifest file. -/
theorem exported_files_complete_iff
    {session : Session}
    (reached : Reached session)
    {id : String}
    {template : Template}
    (held : session.held? id = some template) :
    template.id = id ∧
      ((∃ files, (resultOf (exportFiles id) session).1 = .ok files) ↔ template.Writable) ∧
      ∀ files, (resultOf (exportFiles id) session).1 = .ok files ->
        ((files = template.files ∧ (Table.names files).Nodup) ↔
          template.componentFile ≠ id ++ Exchange.manifestSuffix) ∧
        ∀ directory tree after paths,
          Exchange.writeFiles (Table.mapEntries Json.str files) directory tree = (after, .ok paths) ->
            after.read (Path.join directory (Path.baseName template.componentFile)) =
                .ok template.componentText ∧
              (template.IsDeployed directory after ↔
                Path.baseName template.componentFile ≠ id ++ Exchange.manifestSuffix) := by
  have indexed := reached.indexed
  obtain ⟨number, isHeld, present, rfl⟩ := indexed.exists_of_held? held
  by_cases writable : template.Writable
  · have exported := resultOf_exportFiles_of_writable isHeld present writable
    refine ⟨rfl, ⟨fun _ => writable, fun _ => ⟨_, congrArg Prod.fst exported⟩⟩, fun files given => ?_⟩
    rw [exported] at given
    have set := (Except.ok.inj given).symm
    refine ⟨Template.complete_iff_of_set set, fun directory tree after paths wrote => ?_⟩
    exact Template.isDeployed_iff_of_written (indexed.valid present).id set wrote
  · have refused := resultOf_exportFiles_of_not_writable isHeld present writable
    rw [refused]
    refine ⟨rfl, ⟨?_, fun also => absurd also writable⟩, ?_⟩
    · rintro ⟨files, given⟩
      cases given
    · intro files given
      cases given

/-- The files of a template whose component file is named as its manifest file lack the manifest. -/
theorem files_lack_manifest :
    let source : ImportSource := { manifest := .obj [("id", .str "demo"), ("name", .str "Demo"),
      ("main", .str "demo.ograf.json")] }
    let session := performAll [.importTemplate source (.str "replace")] (opened {} {}).2
    ∃ template files, session.held? "demo" = some template ∧
      (resultOf (exportFiles "demo") session).1 = .ok files ∧
      ¬ (files = template.files ∧ (Table.names files).Nodup) := by
  intro source session
  have reached : Reached session := ⟨{}, {}, _, rfl⟩
  obtain ⟨template, held, writable, file⟩ : ∃ template, session.held? "demo" = some template ∧
      template.Writable ∧ template.componentFile = "demo" ++ Exchange.manifestSuffix :=
    ⟨_, by rfl, by decide +kernel⟩
  obtain ⟨_, given, complete⟩ := exported_files_complete_iff reached held
  obtain ⟨files, exported⟩ := given.2 writable
  exact ⟨template, files, held, exported, fun whole => ((complete files exported).1.1 whole) file⟩

/-- Exporting files stores nothing. -/
theorem store_exportFiles
    (id : String)
    (session : Session) : (resultOf (exportFiles id) session).2.store = session.store := by
  have retained : (resultOf (exportFiles id) session).2.durable = session.durable :=
    keeps_exportFiles retains_readComponent id session rfl
  have stores := congrArg Session.store retained
  exact stores

/-- Only the files of a template that is held are exported. -/
theorem held_of_exportFiles
    {session : Session}
    {id : String}
    {files : Table String}
    (exported : (resultOf (exportFiles id) session).1 = .ok files) :
    ∃ template, session.held? id = some template := by
  unfold exportFiles at exported
  rw [resultOf_bind] at exported
  rcases resultOf_require id session with missing | ⟨number, template, held, present, _⟩
  · rw [missing] at exported
    cases exported
  · exact ⟨template, Option.bind_eq_some_iff.2 ⟨number, held, present⟩⟩

end Session

namespace Service

/-- Nothing on the disk is another, or the files of a template that is held have been written into a
directory with its id for a name. -/
def ExportsInside (id : String) (service : Service) (disk : FileTree) : Prop :=
  disk = service.disk ∨
    ∃ template files directory, service.session.held? id = some template ∧ template.id = id ∧
      '/' ∉ id.toList ∧ '.' ∉ id.toList ∧
      (Session.resultOf (Session.exportFiles id) service.session).1 = .ok files ∧
      service.config.lookup "storage.export_dir" (.str "exports") = .str directory ∧
      Exchange.Confined (Table.mapEntries Json.str files) (Path.join directory id) service.disk disk

theorem exportToDisk_inside
    {service : Service}
    (indexed : service.session.Indexed)
    (id : String) :
    (resultOf (exportToDisk id) service).2.session.store = service.session.store ∧
      ExportsInside id service (resultOf (exportToDisk id) service).2.disk := by
  have stored := Session.store_exportFiles id service.session
  unfold exportToDisk attempt
  rw [resultOf_bind, resultOf_act]
  cases exported : (Session.resultOf (Session.exportFiles id) service.session).1 with
  | error fault => exact ⟨stored, Or.inl rfl⟩
  | ok files =>
    obtain ⟨template, held⟩ := Session.held_of_exportFiles exported
    obtain ⟨number, _, present, sameId⟩ := indexed.exists_of_held? held
    have slug : Identifier.isSlug template.id = true := (indexed.valid present).id
    rw [sameId] at slug
    dsimp only [Except.mapError]
    rw [resultOf_bind, resultOf_get]
    dsimp only
    unfold OperatorConfig.exportDirectory
    cases configured : service.config.lookup "storage.export_dir" (.str "exports") with
    | str directory =>
      dsimp only
      have inside : ExportsInside id service (Exchange.writeFiles (Table.mapEntries Json.str files)
          (Path.join directory id) service.disk).1 :=
        Or.inr ⟨template, files, directory, held, sameId,
          Identifier.notMem_of_isSlug slug (by decide) (by decide),
          Identifier.notMem_of_isSlug slug (by decide) (by decide), exported, configured,
          Exchange.confined_writeFiles _ _ _⟩
      rcases wrote : Exchange.writeFiles (Table.mapEntries Json.str files) (Path.join directory id)
        service.disk with ⟨disk, fault | paths⟩
      · rw [wrote] at inside
        exact ⟨stored, inside⟩
      · rw [wrote] at inside
        exact ⟨stored, inside⟩
    | _ => exact ⟨stored, Or.inl rfl⟩

/-- Files are written directly into the directory given for them and nowhere else, whatever their names
are, and a name whose last part is empty or stands for a directory ends the writing with a fault.  So a
request to export the files of a template, to a service after any requests, leaves the store alone, and
writes to the disk nothing but the files of a template that is held, directly into the directory in the
directory of exports that has the id of the template for its name. -/
theorem exports_stay_inside
    (config : StudioConfig)
    (store : Store)
    (operator : OperatorConfig)
    (environment : Table String)
    (disk : FileTree)
    (today : String)
    (requests : List Request) :
    (∀ files directory tree,
      Exchange.Confined files directory tree (Exchange.writeFiles files directory tree).1 ∧
        ∀ before file rest, files = before ++ file :: rest ->
          Path.baseName file.1 ∈ ["", ".", ".."] ->
          ∃ fault, Exchange.writeFiles files directory tree =
            ((Exchange.writeFiles before directory tree).1, .error fault)) ∧
      ∀ request id,
        Table.get? (routesAt request.path) request.method = some (.exportFiles id) ->
        let service := answerAll requests (started config store operator environment disk today)
        let after := (service.answer request).1
        after.session.store = service.session.store ∧ ExportsInside id service after.disk := by
  constructor
  · intro files directory tree
    refine ⟨Exchange.confined_writeFiles files directory tree, ?_⟩
    rintro before file rest rfl isDirectory
    refine Exchange.writeFiles_of_not_isFileName (fun isName => ?_) directory tree
    simp only [List.mem_cons, List.not_mem_nil, or_false] at isDirectory
    rcases isDirectory with empty | here | up
    · exact isName.nonempty empty
    · exact isName.notHere here
    · exact isName.notUp up
  · intro request id led service after
    have orderly : Orderly service :=
      (orderly_started config store operator environment disk today).answerAll requests
    have follows : follow request (.exportFiles id) = (do
        authorize request
        exportToDisk id) := rfl
    have result : after = (resultOf (follow request (.exportFiles id)) service).2 :=
      congrArg Prod.fst (answer_of_led led)
    rw [result, follows, resultOf_bind]
    rcases resultOf_authorize request service with ⟨_, _, stopped⟩ | passes
    · rw [stopped]
      exact ⟨rfl, Or.inl rfl⟩
    · rw [passes]
      exact exportToDisk_inside orderly.indexed id

/-- After a template has been made, its files are exported inside their directory, and of two files the
one with the name of a directory is not written. -/
theorem export_of_creation_stays_inside :
    let creation : Request :=
      { method := "POST", path := "/api/v1/templates",
        body := some "\x7b\"kind\":\"custom\",\"id\":\"demo\",\"name\":\"Demo\"\x7d",
        authorization := some "Bearer secret" }
    let request : Request :=
      { method := "POST", path := "/api/v1/templates/demo/export/files",
        authorization := some "Bearer secret" }
    let operator : OperatorConfig := ⟨[("security", .obj [("default_token", .str "secret")])]⟩
    let service := answerAll [creation] (started {} {} operator [] {} "")
    service.session.index = [("demo", 0)] ∧
      ExportsInside "demo" service (service.answer request).1.disk ∧
      ∃ fault, Exchange.writeFiles [("a", .str "A"), ("b/..", .str "B")] "out" {} =
        ((Exchange.writeFiles [("a", .str "A")] "out" {}).1, .error fault) := by
  intro creation request operator service
  obtain ⟨confined, exported⟩ := exports_stay_inside {} {} operator [] {} "" [creation]
  have led : Table.get? (routesAt request.path) request.method = some (.exportFiles "demo") := by
    decide +kernel
  have isDirectory : Path.baseName "b/.." ∈ ["", ".", ".."] := by decide +kernel
  refine ⟨by decide +kernel, (exported request "demo" led).2, ?_⟩
  exact (confined _ "out" {}).2 [("a", .str "A")] ("b/..", .str "B") [] rfl isDirectory

end Service
end BroadcastGraphics
