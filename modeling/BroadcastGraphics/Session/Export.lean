import BroadcastGraphics.Session

/-!
# Exports from a session

The templates of a session can be exported as files, as editor documents and as bundles.  Reading
the component source of a template makes it if none is kept.
-/

namespace BroadcastGraphics
namespace Session

/-- The text of a manifest file. -/
def manifestText (manifest : Manifest) : Except Fault String :=
  (Json.written manifest.freeValues manifest.toJson).map (·.documentText (some 2))

/-- The deployable files of a template. -/
def exportFiles (id : String) : Action (Table String) := do
  let (number, template) <- require id
  let text <- manifestText template.manifest
  let source <- commit number template.readComponent
  pure (Exchange.fileSet template.id template.manifest.main text source)

/-- The editor document of a template. -/
def exportEditor (id : String) (date : Json) : Action Json := do
  let (_, template) <- require id
  pure (Exchange.editorDocument (<- template.written) date)

/-- The bundle with the files of a template. -/
def exportBundle (id : String) (date : Json) : Action Json := do
  let files <- exportFiles id
  pure (Exchange.exportBundle (.str id) (.obj (Table.mapEntries Json.str files)) date)

/-- The bundle of several templates; ids that are not held are passed over. -/
def exportMany (ids : List String) (name date : Json) : Action Json := do
  let session <- get
  let held := ids.filterMap fun id => (session.held? id).map fun template => (id, template)
  let templates <- held.mapM fun (id, template) => do return (id, <- template.written)
  pure (Exchange.multiBundle templates name date)

end Session
end BroadcastGraphics
