import SchemaScaffold.Project
import SchemaScaffold.Workspace.Files

/-! Writing the files of a project, one after the other. The first file that
cannot be written ends it, and the files before it stay. -/

namespace SchemaScaffold

open Workspace

/-- What was done about a file. -/
inductive Saved where
  | written
  /-- The file was there and is the user's. -/
  | kept
deriving DecidableEq

def ProjectFile.write (file : ProjectFile) (base : String) : Script (Except WriteFault Saved) := do
  pure ((← writeFile (file.path base) file.content).map fun () => .written)

def ProjectFile.save (file : ProjectFile) (base : String) : Script (Except WriteFault Saved) := do
  if file.isCreatedOnce then
    if ← Script.isThere (file.path base) then pure (.ok .kept) else file.write base
  else
    file.write base

/-- The names of the files that were written and of those that were kept. -/
structure SavedFiles where
  written : List String
  kept : List String

def SavedFiles.add (files : SavedFiles) (name : String) : Saved → SavedFiles
  | .written => { files with written := name :: files.written }
  | .kept => { files with kept := name :: files.kept }

/-- The file that could not be written, by its name, and why. -/
structure ProjectFault where
  name : String
  fault : WriteFault

def ProjectFault.messages (fault : ProjectFault) : List String :=
  s!"failed to generate '{fault.name}'" :: fault.fault.messages

namespace Project

def saveAll (base : String) : List ProjectFile → Script (Except ProjectFault SavedFiles)
  | [] => pure (.ok ⟨[], []⟩)
  | file :: rest => do
      match ← file.save base with
      | .error fault => pure (.error ⟨file.name, fault⟩)
      | .ok saved => pure ((← saveAll base rest).map fun files => files.add file.name saved)

/-- Writes a project below a folder, which may exist. -/
def write (collections : List Collection) (config : Config) (folder : String) :
    Script (Except ProjectFault SavedFiles) :=
  saveAll folder (files collections config)

end Project

end SchemaScaffold
