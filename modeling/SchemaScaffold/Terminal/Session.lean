import SchemaScaffold.Diagram.Storage
import SchemaScaffold.Link.Storage
import SchemaScaffold.Project.Generation
import SchemaScaffold.Sync.Writing
import SchemaScaffold.Terminal.Command

/-! Carrying out a command for a user who cannot be asked anything. -/

namespace SchemaScaffold.Terminal

open Workspace

def programName : String := "dbdraw"

def programVersion : String := "0.3.0"

/-! ## What can go wrong -/

/-- What the user would have to be asked. -/
inductive Question where
  | text
  | selection
  | confirmation
deriving DecidableEq

def Question.failure : Question → String
  | text => "Failed to read input"
  | selection => "Failed to get selection"
  | confirmation => "Failed to get confirmation"

inductive Fault where
  /-- The command line itself is not understood. -/
  | usage
  | problem (problem : Problem)
  | unanswered (question : Question)
  | notSignedIn
  | invalidName (name : String)
  | noBackend
  | invalidId (id : String)
  | generation (fault : Project.GenerationFault)
  | sync (fault : Sync.Fault)

namespace Fault

/-- The explanations of a fault that is not explained otherwise, from the
outermost on. -/
def messages : Fault → List String
  | usage => []
  | problem _ => []
  | unanswered question => [question.failure]
  | notSignedIn => ["You are not authenticated. Please log in first using: dbdraw login"]
  | invalidName name =>
      [s!"Invalid project name '{name}': use lowercase letters, numbers and hyphens"]
  | noBackend =>
      ["This is not a backend folder. Please navigate to a valid backend folder."]
  | invalidId id => [s!"'{id}' is not a valid project id"]
  | generation fault => fault.messages
  | sync fault => fault.messages

/-- The name of the kind of a problem with the user's files. -/
def code? : Fault → Option String
  | problem found => some found.code
  | _ => none

def exitStatus : Fault → Nat
  | usage => 2
  | _ => 1

end Fault

/-- What a command prints, unless it fails. -/
abbrev Answer := Except Fault (List ReportLine)

def exitStatus : Answer → Nat
  | .ok _ => 0
  | .error fault => fault.exitStatus

/-- Where and when a command is given. -/
structure Surroundings where
  /-- The path of the working folder from the root. -/
  folder : String
  /-- The time in milliseconds. -/
  now : Nat

/-! ## Generating a project -/

namespace GenerateCommand

/-- Only a command with a name can do without questions. -/
def config (command : GenerateCommand) : Except Fault Config :=
  match command.projectName with
  | none => .error (.unanswered .text)
  | some name =>
      if isProjectName name then
        match command.language with
        | none => .error (.unanswered .selection)
        | some language =>
            .ok ⟨name, language, .ofList command.features, command.outputFolder.getD name⟩
      else
        .error (.invalidName name)

def run (command : GenerateCommand) : Script Answer :=
  match command.input with
  | none => pure (.error .notSignedIn)
  | some input => do
      match ← Diagram.loadCollections input with
      | .error problem => pure (.error (.problem problem))
      | .ok collections =>
          match command.config with
          | .error fault => pure (.error fault)
          | .ok config =>
              match ← Project.previewOrGenerate collections config command.isPreview with
              | .error fault => pure (.error (.generation fault))
              | .ok report => pure (.ok report.lines)

end GenerateCommand

/-! ## Writing schemas -/

namespace SyncCommand

/-- An existing folder is written to only if that was confirmed. -/
def write (command : SyncCommand) (surroundings : Surroundings) (link : Link) (input : String)
    (collections : List Collection) (selection : Selection) : Script Answer := do
  let isThere ← Script.isThere (link.modelsFolder surroundings.folder)
  if isThere && !command.isConfirmed then
    pure (.error (.unanswered .confirmation))
  else
    match ← Sync.run collections link surroundings.folder selection input with
    | .error fault => pure (.error (.sync fault))
    | .ok report => pure (.ok report.lines)

def run (command : SyncCommand) (surroundings : Surroundings) : Script Answer := do
  match ← Link.load (Path.join surroundings.folder Link.location) with
  | .error problem => pure (.error (.problem problem))
  | .ok link =>
      match command.input with
      | none => pure (.error .notSignedIn)
      | some input =>
          match ← Diagram.loadCollections input with
          | .error problem => pure (.error (.problem problem))
          | .ok collections =>
              match command.models with
              | none => pure (.error (.unanswered .selection))
              | some models =>
                  command.write surroundings link input collections (.ofText models)

end SyncCommand

/-! ## Linking a folder -/

namespace LinkCommand

/-- The module system matters for untyped sources only. -/
def targetModuleSystem (command : LinkCommand) : Language → Except Fault ModuleSystem
  | .typeScript => .ok .esModule
  | .javaScript =>
      match command.moduleSystem with
      | none => .error (.unanswered .selection)
      | some moduleSystem => .ok moduleSystem

/-- An id is accepted with and without its usual start. -/
def link (command : LinkCommand) (now : Nat) : Except Fault Link := do
  let given ← command.projectId.elim (.error .notSignedIn) .ok
  let path ← command.path.elim (.error (.unanswered .text)) .ok
  let language ← command.language.elim (.error (.unanswered .selection)) .ok
  let moduleSystem ← command.targetModuleSystem language
  let id := Link.withoutStart given
  let link := Link.toProject id path language moduleSystem now
  if link.isValid then pure link else .error (.invalidId id)

/-- An existing link is replaced only by force. -/
def save (command : LinkCommand) (surroundings : Surroundings) (link : Link) : Script Answer := do
  let location := Path.join surroundings.folder Link.location
  let isThere ← Script.isThere location
  if isThere && !command.isForced then
    pure (.error (.unanswered .confirmation))
  else
    match ← link.save location with
    | .error problem => pure (.error (.problem problem))
    | .ok () => pure (.ok [.success "Project linked successfully!"])

def run (command : LinkCommand) (surroundings : Surroundings) : Script Answer := do
  if ← Script.isThere (Path.join surroundings.folder "package.json") then
    match command.link surroundings.now with
    | .error fault => pure (.error fault)
    | .ok link => command.save surroundings link
  else
    pure (.error .noBackend)

end LinkCommand

/-! ## All commands -/

def Command.run (surroundings : Surroundings) : Command → Script Answer
  | .version => pure (.ok [.text (programName ++ " " ++ programVersion)])
  | .generate command => command.run
  | .sync command => command.run surroundings
  | .link command => command.run surroundings

/-- Carries out a command line. -/
def run (surroundings : Surroundings) (arguments : List String) : Script Answer :=
  match Command.ofArguments arguments with
  | none => pure (.error .usage)
  | some command => command.run surroundings

end SchemaScaffold.Terminal
