import SchemaScaffold.Link
import SchemaScaffold.Workspace.Files

/-! Reading and writing the file that holds a link. -/

namespace SchemaScaffold.Link

open Workspace

def load (path : String) : Script (Except Problem Link) := do
  if ← Script.isThere path then
    match ← Script.textOf path with
    | .error cause => pure (.error (.unreadable path cause))
    | .ok text => pure (read ⟨path, text⟩)
  else
    pure (.error (.notLinked path))

def save (link : Link) (path : String) : Script (Except Problem Unit) := do
  pure ((← writeFile path link.text).mapError fun fault => .unwritable path fault.cause)

end SchemaScaffold.Link
