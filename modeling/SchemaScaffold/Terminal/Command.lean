import SchemaScaffold.Config
import SchemaScaffold.Terminal.Arguments
import SchemaScaffold.Text.Split

/-! The commands that a user can give, and the arguments that they are given by. -/

namespace SchemaScaffold.Terminal

structure GenerateCommand where
  /-- The file of the diagram. -/
  input : Option String
  projectName : Option String
  language : Option Language
  features : List Feature
  outputFolder : Option String
  isPreview : Bool
deriving DecidableEq

structure SyncCommand where
  /-- The names of the collections as they were given, between commas. -/
  models : Option String
  input : Option String
  /-- Whether an existing folder may be written to. -/
  isConfirmed : Bool
deriving DecidableEq

structure LinkCommand where
  projectId : Option String
  path : Option String
  language : Option Language
  moduleSystem : Option ModuleSystem
  /-- Whether an existing link may be replaced. -/
  isForced : Bool
deriving DecidableEq

inductive Command where
  | version
  | generate (command : GenerateCommand)
  | sync (command : SyncCommand)
  | link (command : LinkCommand)
deriving DecidableEq

/-! ## Options -/

def flagForm (long : String) (letter : Option Char := none) : OptionForm :=
  { long := long, letter := letter }

def valueForm (long : String) (letter : Option Char := none) : OptionForm :=
  { long := long, letter := letter, takesValue := true }

def listForm (long : String) (letter : Char) : OptionForm :=
  { long := long, letter := some letter, takesValue := true, isRepeatable := true }

/-- The options that every command has. -/
def commonForms : List OptionForm := [valueForm "api-url", flagForm "verbose" (some 'v')]

def programForms : List OptionForm :=
  { long := "version", letter := some 'V', isFinal := true } :: commonForms

def generateForms : List OptionForm :=
  [valueForm "input" (some 'i'), valueForm "name" (some 'n'), valueForm "language" (some 'l'),
   listForm "feature" 'f', valueForm "output" (some 'o'), flagForm "dry-run"] ++ commonForms

def syncForms : List OptionForm :=
  [listForm "models" 'm', valueForm "input" (some 'i'), flagForm "yes" (some 'y')] ++ commonForms

def linkForms : List OptionForm :=
  [valueForm "project" (some 'p'), valueForm "path", valueForm "language" (some 'l'),
   valueForm "module-type" (some 'm'), flagForm "force"] ++ commonForms

/-! ## Values -/

/-- A value that may be left out, but not be wrong. -/
def optional (accept : String → Option α) : Option String → Option (Option α)
  | none => some none
  | some text => (accept text).map some

/-- A path is not empty. -/
def acceptPath (text : String) : Option String := if text.isEmpty then none else some text

/-- Several values can be given at once, between commas. -/
def acceptFeatures (values : List String) : Option (List Feature) :=
  (values.flatMap (Text.pieces (· == ','))).mapM Feature.ofText?

/-! ## Commands -/

def generateCommand (scanned : Scanned) : Option Command := do
  let input ← optional acceptPath (scanned.value? "input")
  let language ← optional Language.ofText? (scanned.value? "language")
  let features ← acceptFeatures (scanned.values "feature")
  let outputFolder ← optional acceptPath (scanned.value? "output")
  some (.generate
    { input := input
      projectName := scanned.value? "name"
      language := language
      features := features
      outputFolder := outputFolder
      isPreview := scanned.has "dry-run" })

def syncCommand (scanned : Scanned) : Option Command := do
  let input ← optional acceptPath (scanned.value? "input")
  let models := scanned.values "models"
  some (.sync
    { models := if models.isEmpty then none else some (",".intercalate models)
      input := input
      isConfirmed := scanned.has "yes" })

def linkCommand (scanned : Scanned) : Option Command := do
  let language ← optional Language.ofText? (scanned.value? "language")
  let moduleSystem ← optional ModuleSystem.ofText? (scanned.value? "module-type")
  some (.link
    { projectId := scanned.value? "project"
      path := scanned.value? "path"
      language := language
      moduleSystem := moduleSystem
      isForced := scanned.has "force" })

/-- No command takes free arguments. -/
def withOptions (forms : List OptionForm) (command : Scanned → Option Command)
    (arguments : List String) : Option Command :=
  match scanOptions forms arguments with
  | none => none
  | some scanned => if scanned.rest.isEmpty then command scanned else none

namespace Command

def ofName (name : String) (arguments : List String) : Option Command :=
  if name = "generate" then withOptions generateForms generateCommand arguments
  else if name = "sync" then withOptions syncForms syncCommand arguments
  else if name = "link" then withOptions linkForms linkCommand arguments
  else none

/-- The command of a command line that is in order. -/
def ofArguments (arguments : List String) : Option Command :=
  match scanOptions programForms arguments with
  | none => none
  | some scanned =>
      if scanned.has "version" then some version
      else
        match scanned.rest with
        | [] => none
        | name :: rest => ofName name rest

end Command

end SchemaScaffold.Terminal
