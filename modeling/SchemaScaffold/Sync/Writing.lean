import SchemaScaffold.Report
import SchemaScaffold.Sync
import SchemaScaffold.Workspace.Files

/-! Writing schema files into the folder that a link names. -/

namespace SchemaScaffold.Sync

open Workspace

/-- Writes files below a folder and gives their names. -/
def saveAll (folder : String) : List Artifact → Script (Except WriteFault (List String))
  | [] => pure (.ok [])
  | file :: rest => do
      match ← writeFile (Path.join folder file.fileName) file.content with
      | .error fault => pure (.error fault)
      | .ok () => pure ((← saveAll folder rest).map fun names => file.fileName :: names)

def write (sync : Sync) (folder : String) : Script (Except WriteFault (List String)) :=
  saveAll folder sync.files

/-- The folder whose schemas are incomplete, and why. -/
structure Fault where
  folder : String
  fault : WriteFault

def Fault.messages (fault : Fault) : List String :=
  s!"Failed to write schemas to {fault.folder}" :: fault.fault.messages

def unknownWarnings (collections : List Collection) (selection : Selection) : List String :=
  (selection.unknown collections).map fun name => s!"No collection named '{name}' in this project"

/-- Writes the selected schemas of a linked project. The link's path is seen from
`base`. -/
def run (collections : List Collection) (link : Link) (base : String) (selection : Selection)
    (title : String) : Script (Except Fault SyncReport) := do
  let folder := link.modelsFolder base
  let sync := ofLink collections link selection
  match ← sync.write folder with
  | .error fault => pure (.error ⟨folder, fault⟩)
  | .ok written =>
      pure (.ok
        { title := title
          folder := folder
          warnings := duplicateWarnings collections ++ unknownWarnings collections selection
          written := written
          skipped := sync.skipped })

end SchemaScaffold.Sync
