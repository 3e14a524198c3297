import BroadcastGraphics.Session.Export
import BroadcastGraphics.Session.Import

/-!
# Commands of a session

Everything that can be done in a session as values, so that runs of commands can be recorded,
replayed and reasoned about.  A command that fails keeps what it did before the fault.
-/

namespace BroadcastGraphics

/-- The forms in which a template leaves a session as one document. -/
inductive ExportForm where
  | editor
  | bundle
  | many
  deriving DecidableEq, Repr

namespace Session

/-- A command of a session. -/
inductive Command where
  | create (kind id name description : Json)
  | delete (id : String)
  | duplicate (id : String) (newId newName : Json)
  | select (id : String)
  | importTemplate (source : ImportSource) (policy : Json)
  | importDocument (document policy : Json)
  | exportFiles (id : String)
  | exportAs (form : ExportForm) (id : String) (date : Json)
  | exportMany (ids : List String) (name date : Json)
  | callHeld (id : String) (request : Template.Call)
  | callNumbered (number : Nat) (request : Template.Call)

/-- The answer to a command; templates are named by their numbers. -/
inductive Answer where
  | flag (value : Bool)
  | template (number : Nat)
  | templates (numbers : List Nat)
  | json (value : Json)
  | called (answer : Template.Answer)
  deriving DecidableEq

/-- The name of a bundle that is given none. -/
def standardBundleName : String := "ograf-templates"

/-- The document of a template in a form. -/
def exportAs (form : ExportForm) (id : String) (date : Json) : Action Json :=
  match form with
  | .editor => exportEditor id date
  | .bundle => exportBundle id date
  | .many => exportMany [id] (.str standardBundleName) date

/-- Carry out a command. -/
def Command.run : Command -> Action Answer
  | .create kind id name description => Answer.template <$> Session.create kind id name description
  | .delete id => Answer.flag <$> Session.delete id
  | .duplicate id newId newName => Answer.template <$> Session.duplicate id newId newName
  | .select id => Answer.flag <$> Session.select id
  | .importTemplate source policy => Answer.template <$> Session.importTemplate source policy
  | .importDocument document policy => Answer.templates <$> Session.importDocument document policy
  | .exportFiles id =>
      (fun files => .json (.obj (Table.mapEntries Json.str files))) <$> Session.exportFiles id
  | .exportAs form id date => Answer.json <$> Session.exportAs form id date
  | .exportMany ids name date => Answer.json <$> Session.exportMany ids name date
  | .callHeld id request =>
      (fun answer => .called answer.1) <$> Session.edit id fun template => template.run request
  | .callNumbered number request => Answer.called <$> Session.call number request

/-- The session after a command, with the answer. -/
def Command.perform (command : Command) (session : Session) : Except Fault Answer × Session :=
  (command.run.run).run session

/-- The session after some commands. -/
def performAll (commands : List Command) (session : Session) : Session :=
  commands.foldl (fun session command => (command.perform session).2) session

end Session
end BroadcastGraphics
