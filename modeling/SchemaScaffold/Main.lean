import SchemaScaffold.Terminal.Session
import Std.Time.DateTime.Timestamp

/-! The program: carries out a command line on the user's disk. -/

namespace SchemaScaffold.Main

open Workspace

/-- The failures that can be told from others. -/
def osError : IO.Error → OsError
  | .noFileOrDirectory .. => .notFound
  | .alreadyExists .. => .alreadyExists
  | .inappropriateType _ code details =>
      if code == 20 then .notFolder else if code == 21 then .isFolder else .other details
  | .invalidArgument _ code details => if code == 36 then .nameTooLong else .other details
  | error => .other (toString error)

def answered (access : IO α) : IO (Except OsError α) := do
  match ← access.toBaseIO with
  | .ok value => pure (.ok value)
  | .error error => pure (.error (osError error))

/-- A folder can be opened for reading only. -/
def examine (path : String) : IO (Option Disk.Kind) := do
  match ← answered (IO.FS.Handle.mk path .read) with
  | .error _ => pure none
  | .ok _ =>
      match ← answered (IO.FS.Handle.mk path .readWrite) with
      | .error .isFolder => pure (some .folder)
      | _ => pure (some .file)

def perform : Script α → IO α
  | .done value => pure value
  | .examine path next => do perform (next (← examine path))
  | .read path next => do perform (next (← answered (IO.FS.readFile path)))
  | .makeFolder path next => do perform (next (← answered (IO.FS.createDir path)))
  | .write path text next => do perform (next (← answered (IO.FS.writeFile path text)))

def display (line : ReportLine) : IO Unit :=
  if line.isWarning then IO.eprintln line.render else IO.println line.render

def explain : Terminal.Fault → IO Unit
  | .usage => IO.eprintln ("error: unexpected arguments for " ++ Terminal.programName)
  | .problem problem => do
      IO.eprintln (problem.code ++ ": " ++ problem.message)
      problem.help?.forM fun help => IO.eprintln ("help: " ++ help)
  | fault => IO.eprintln ("Error: " ++ ": ".intercalate fault.messages)

def surroundings : IO Terminal.Surroundings := do
  let folder := toString (← IO.currentDir)
  let now := (← Std.Time.Timestamp.now).toMillisecondsSinceUnixEpoch.val.toNat
  pure ⟨folder, now⟩

end SchemaScaffold.Main

def main (arguments : List String) : IO UInt32 := do
  let surroundings ← SchemaScaffold.Main.surroundings
  let answer ← SchemaScaffold.Main.perform (SchemaScaffold.Terminal.run surroundings arguments)
  match answer with
  | .ok lines => lines.forM SchemaScaffold.Main.display
  | .error fault => SchemaScaffold.Main.explain fault
  pure (SchemaScaffold.Terminal.exitStatus answer).toUInt32
