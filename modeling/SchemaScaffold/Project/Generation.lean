import SchemaScaffold.Project.Writing
import SchemaScaffold.Report

/-! Generating a project: a preview, or a new folder with all of its files. -/

namespace SchemaScaffold.Project

open Workspace

inductive GenerationFault where
  | folderExists (path : String)
  | unfinished (fault : ProjectFault)

/-- The explanations of a fault, from the outermost on. -/
def GenerationFault.messages : GenerationFault → List String
  | folderExists path => [s!"Directory '{path}' already exists"]
  | unfinished fault => "Failed to generate project" :: fault.messages

def report (collections : List Collection) (config : Config) (result : GenerationResult) :
    GenerationReport :=
  { projectName := config.projectName
    language := config.language.name
    features := config.features.display
    warnings := duplicateWarnings collections
    skipped := skipped collections config
    result := result }

def preview (collections : List Collection) (config : Config) : GenerationReport :=
  report collections config
    (.preview ((files collections config).map fun file => (file.name, file.content)))

/-- Whatever has the name of the project's folder is left alone. -/
def generate (collections : List Collection) (config : Config) :
    Script (Except GenerationFault GenerationReport) := do
  if ← Script.isThere config.outputFolder then
    pure (.error (.folderExists config.outputFolder))
  else
    match ← write collections config config.outputFolder with
    | .error fault => pure (.error (.unfinished fault))
    | .ok files =>
        pure (.ok (report collections config
          (.written config.outputFolder files.written files.kept)))

def previewOrGenerate (collections : List Collection) (config : Config) (isPreview : Bool) :
    Script (Except GenerationFault GenerationReport) :=
  if isPreview then pure (.ok (preview collections config)) else generate collections config

end SchemaScaffold.Project
