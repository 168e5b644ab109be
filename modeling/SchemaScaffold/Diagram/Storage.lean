import SchemaScaffold.Diagram.Source
import SchemaScaffold.Workspace.Script

/-! Reading the collections of a diagram from a file. -/

namespace SchemaScaffold.Diagram

open Workspace

def loadCollections (path : String) : Script (Except Problem (List Collection)) := do
  match ← Script.textOf path with
  | .error cause => pure (.error (.unreadable path cause))
  | .ok text => pure (readCollections ⟨path, text⟩)

end SchemaScaffold.Diagram
