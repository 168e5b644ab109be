import SchemaScaffold.Workspace.Script

/-! Writing a file together with the folders that it needs. -/

namespace SchemaScaffold.Workspace

open Script

/-- Makes the first of some folders, each of which lies in the next one. -/
def makeChain : List String → Script (Except OsError Unit)
  | [] => pure (.ok ())
  | path :: above => do
      match ← folder path with
      | .ok () => pure (.ok ())
      | .error .notFound =>
          match ← makeChain above with
          | .error error => pure (.error error)
          | .ok () => existing path (← folder path)
      | answer => existing path answer
where
  /-- A folder that is there already is as good as a new one. -/
  existing (path : String) : Except OsError Unit → Script (Except OsError Unit)
    | .error .alreadyExists => do
        if (← kindOf path) == some .folder then pure (.ok ()) else pure (.error .alreadyExists)
    | answer => pure answer

/-- Makes a folder and those above it, as far as they are missing. -/
def makeFolders (path : String) : Script (Except OsError Unit) := makeChain (Path.chain path)

/-- Why a file could not be written. -/
inductive WriteFault where
  | folder (path : String) (cause : OsError)
  | file (path : String) (cause : OsError)
deriving DecidableEq

namespace WriteFault

def message : WriteFault → String
  | folder path _ => s!"failed to create directory '{path}'"
  | file path _ => s!"failed to write '{path}'"

def cause : WriteFault → OsError
  | folder _ cause => cause
  | file _ cause => cause

/-- The explanations of a fault, from the outermost on. -/
def messages (fault : WriteFault) : List String := [fault.message, fault.cause.message]

end WriteFault

/-- The root and the empty path lie in no folder. -/
def makeParent (path : String) : Script (Except WriteFault Unit) :=
  match Path.parent? path with
  | none => pure (.ok ())
  | some parent => do pure ((← makeFolders parent).mapError (.folder parent))

def writeFile (path text : String) : Script (Except WriteFault Unit) := do
  match ← makeParent path with
  | .error fault => pure (.error fault)
  | .ok () => pure ((← file path text).mapError (.file path))

end SchemaScaffold.Workspace
