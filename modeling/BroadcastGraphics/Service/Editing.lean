import BroadcastGraphics.Service

/-!
# Requests on templates

The requests that list, create, edit, export and import the templates of the session.
-/

namespace BroadcastGraphics
namespace Service

/-- What the list of templates tells about one of them. -/
def summaryOf (session : Session) (entry : String × Nat) : Option Summary :=
  (session.template? entry.2).map fun template =>
    { id := template.id
      name := template.manifest.name
      description := template.manifest.description
      elementCount := template.elements.length
      current := session.current = some entry.1
      cached := template.isCached }

/-- Answer a question about the health of the service. -/
def health : Handler Response := do
  let count := (<- get).session.index.length
  pure (.content 200 (.obj [("ok", .bool true), ("version", .str "0.1.0"),
    ("templates", .int count)]))

/-- List all templates. -/
def listTemplates : Handler Response := do
  let session := (<- get).session
  pure (.content 200 (.arr ((session.index.filterMap (summaryOf session)).map Summary.toJson)))

/-- Create a template from a preset. -/
def createTemplate (body : Option Json) : Handler Response := do
  let wanted <- record body NewTemplate.ofMembers
  let number <- attempt (Session.create (.str wanted.kind.name) (.str wanted.id) (.str wanted.name)
    (.str wanted.description))
  shown 201 number

/-- Show a template. -/
def showTemplate (id : String) : Handler Response := do
  let written <- attempt (do (<- Session.require id).2.written)
  pure (.content 200 written)

/-- Delete a template and take down its preview. -/
def deleteTemplate (id : String) : Handler Response := do
  if <- insist (Session.delete id) then
    let _ <- onStage fun stage => stage.unmount id
    pure (.content 200 (.obj [("deleted", .str id)]))
  else throw (.noTemplate id)

/-- Add a copy of a template. -/
def duplicateTemplate (id : String) (body : Option Json) : Handler Response := do
  let wanted <- record body CopyRequest.ofMembers
  shown 201 (<- attempt (Session.duplicate id (.str wanted.newId) (.str wanted.newName)))

/-- Make a template the current one. -/
def selectTemplate (id : String) : Handler Response := do
  if <- insist (Session.select id) then pure (.content 200 (.obj [("current", .str id)]))
  else throw (.noTemplate id)

/-- Add an element. -/
def addElement (id : String) (body : Option Json) : Handler Response := do
  let wanted <- record body NewElement.ofMembers
  let (element, number) <- attempt
    (Session.edit id fun template => template.addSpec wanted.spec)
  syncPreview number
  pure (.content 201 element.toJson)

/-- Edit an element: first its members, then its style. -/
def updateElement (id element : String) (body : Option Json) : Handler Response := do
  let members <- freeMembers body
  let style := Json.memberOrNull members "style"
  let updates := Table.remove members "style"
  let target := ((Json.memberOrNull updates "id").str?).getD element
  let (found, number) <- attempt
    (Session.edit id fun template => template.updateElement element (.obj updates))
  if found && !style.isNull then
    if let some template := <- templateNumbered number then
      let _ <- attempt (Session.commit number (template.updateStyle target style))
  if !found then throw (.noElement element)
  syncPreview number
  let changed := ((<- templateNumbered number).bind fun template => template.element? target)
  match changed with
  | some changed => pure (.content 200 changed.toJson)
  | none => throw (.broken .noMembers)

/-- Remove an element. -/
def removeElement (id element : String) : Handler Response := do
  let (number, template) <- attempt (Session.require id)
  if <- insist (Session.commit number (template.removeElement element)) then
    syncPreview number
    pure (.content 200 (.obj [("deleted", .str element)]))
  else throw (.noElement element)

/-- Add a property. -/
def addProperty (id : String) (body : Option Json) : Handler Response := do
  let wanted <- record body NewProperty.ofMembers
  let (property, _) <- attempt (Session.edit id fun template =>
    template.addProperty wanted.name (.str wanted.kind) (.str wanted.title) wanted.default)
  pure (.content 201 (.obj [(wanted.name, property.toJson)]))

/-- Remove a property. -/
def removeProperty (id name : String) : Handler Response := do
  let (number, template) <- attempt (Session.require id)
  if <- insist (Session.commit number (template.removeProperty name)) then
    pure (.content 200 (.obj [("deleted", .str name)]))
  else throw (.noProperty name)

/-- Edit the manifest. -/
def updateManifest (id : String) (body : Option Json) : Handler Response := do
  let updates <- freeMembers body
  let (manifest, _) <- attempt
    (Session.edit id fun template => template.updateManifest (.obj updates) true)
  pure (.content 200 manifest.toJson)

/-- Edit the animation settings. -/
def updateAnimation (id : String) (body : Option Json) : Handler Response := do
  let updates <- freeMembers body
  let (settings, number) <- attempt
    (Session.edit id fun template => template.updateAnimation (.obj updates))
  syncPreview number
  pure (.content 200 settings.toJson)

/-- Send the component source of a template. -/
def sendComponent (id : String) : Handler Response := do
  let (number, template) <- attempt (Session.require id)
  pure (.component (<- insist (Session.commit number template.readComponent)))

/-- The date of an export: that of the query, or today. -/
def exportDate (request : Request) : Handler Json := do
  pure (Exchange.dateOr (<- get).today (Json.ofText? (Table.get? request.query "export_date")))

/-- Export a template in the form that the query names, as files unless it names one. -/
def exportTemplate (request : Request) (id : String) : Handler Response := do
  let date <- exportDate request
  match (Table.get? request.query "format").getD "files" with
  | "files" => do
      let files <- attempt (Session.exportFiles id)
      pure (.content 200 (.obj (Table.mapEntries Json.str files)))
  | "bundle" => do pure (.content 200 (<- attempt (Session.exportBundle id date)))
  | "template" => do pure (.content 200 (<- attempt (Session.exportEditor id date)))
  | form => throw (.unknownForm form)

/-- Write the files of a template to the disk. -/
def exportToDisk (id : String) : Handler Response := do
  let files <- attempt (Session.exportFiles id)
  let service <- get
  match service.config.exportDirectory id with
  | .error fault => throw (.broken fault)
  | .ok directory => do
      let (disk, written) :=
        Exchange.writeFiles (Table.mapEntries Json.str files) directory service.disk
      set { service with disk := disk }
      match written with
      | .ok paths => pure (.content 200 (.obj [("files", .ofStrings paths)]))
      | .error fault => throw (if fault.isOfFiles then .exportFailed else .broken fault)

/-- Export several templates as one bundle. -/
def exportBundle (request : Request) (body : Option Json) : Handler Response := do
  let wanted <- record body BundleRequest.ofMembers
  let date <- exportDate request
  pure (.content 200 (<- insist (Session.exportMany wanted.templateIds (.str wanted.bundleName)
    date)))

/-- What an import request asks for. -/
def importAction (wanted : ImportRequest) (policy : ConflictPolicy) : Session.Action (List Nat) :=
  match wanted.document, wanted.manifest with
  | some document, _ => Session.importDocument (.obj document) (.str policy.name)
  | none, some manifest => do
      pure [<- Session.importTemplate
        { manifest := .obj manifest, component := Json.ofText? wanted.component }
        (.str policy.name)]
  | none, none => throw (.badImport .nothingGiven)

/-- The policy of an import: the one asked for, or else that of the operator. -/
def importPolicyFor (wanted : ImportRequest) : Handler ConflictPolicy := do
  match wanted.policy with
  | some policy => pure policy
  | none =>
      match (<- get).config.policyInForce with
      | .ok policy => pure policy
      | .error fault => throw (.broken fault)

/-- Import templates. -/
def importTemplates (body : Option Json) : Handler Response := do
  let wanted <- record body ImportRequest.ofMembers
  let policy <- importPolicyFor wanted
  let numbers <- attempt (importAction wanted policy)
  let session := (<- get).session
  let ids := numbers.filterMap fun number => (session.template? number).map Template.id
  pure (.content 200 (ImportReport.toJson ⟨ids, ids.length⟩))

/-- Audit a template. -/
def auditTemplate (id : String) : Handler Response := do
  let (_, template) <- attempt (Session.require id)
  let report <- attempt (Audit.report template.snapshot)
  pure (.content 200 report.toJson)

end Service
end BroadcastGraphics
