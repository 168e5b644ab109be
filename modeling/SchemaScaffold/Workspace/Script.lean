import SchemaScaffold.Workspace.Disk

/-! Scripts: sequences of accesses to a disk, each of which may depend on the
answers so far. A script is carried out on a disk that is kept in memory, or by
whoever has a real one. -/

namespace SchemaScaffold.Workspace

inductive Script (α : Type) where
  | done (value : α)
  | examine (path : String) (next : Option Disk.Kind → Script α)
  | read (path : String) (next : Except OsError String → Script α)
  | makeFolder (path : String) (next : Except OsError Unit → Script α)
  | write (path text : String) (next : Except OsError Unit → Script α)

namespace Script

def bind (script : Script α) (continuation : α → Script β) : Script β :=
  match script with
  | done value => continuation value
  | examine path next => examine path fun answer => (next answer).bind continuation
  | read path next => read path fun answer => (next answer).bind continuation
  | makeFolder path next => makeFolder path fun answer => (next answer).bind continuation
  | write path text next => write path text fun answer => (next answer).bind continuation

instance : Monad Script where
  pure := done
  bind := bind

/-! ## Single accesses -/

def kindOf (path : String) : Script (Option Disk.Kind) := .examine path .done

def isThere (path : String) : Script Bool := .examine path fun kind => .done kind.isSome

def textOf (path : String) : Script (Except OsError String) := .read path .done

def folder (path : String) : Script (Except OsError Unit) := .makeFolder path .done

def file (path text : String) : Script (Except OsError Unit) := .write path text .done

/-! ## Scripts on a disk in memory -/

/-- An access that fails leaves the disk as it was. -/
def attempt (disk : Disk) (result : Except OsError Disk) : Except OsError Unit × Disk :=
  match result with
  | .ok changed => (.ok (), changed)
  | .error error => (.error error, disk)

def run : Script α → Disk → α × Disk
  | done value, disk => (value, disk)
  | examine path next, disk => (next (disk.examine path)).run disk
  | read path next, disk => (next (disk.read path)).run disk
  | makeFolder path next, disk =>
      let answer := attempt disk (disk.makeFolder path)
      (next answer.1).run answer.2
  | write path text next, disk =>
      let answer := attempt disk (disk.write path text)
      (next answer.1).run answer.2

@[simp] theorem run_pure (value : α) (disk : Disk) :
    (pure value : Script α).run disk = (value, disk) := rfl

@[simp] theorem run_bind (script : Script α) (continuation : α → Script β) (disk : Disk) :
    (script >>= continuation).run disk
      = (continuation (script.run disk).1).run (script.run disk).2 := by
  change (script.bind continuation).run disk = _
  induction script generalizing disk with
  | done value => rfl
  | examine path next induction => exact induction _ _
  | read path next induction => exact induction _ _
  | makeFolder path next induction => exact induction _ _
  | write path text next induction => exact induction _ _

@[simp] theorem run_kindOf (path : String) (disk : Disk) :
    (kindOf path).run disk = (disk.examine path, disk) := rfl

@[simp] theorem run_isThere (path : String) (disk : Disk) :
    (isThere path).run disk = ((disk.examine path).isSome, disk) := rfl

@[simp] theorem run_textOf (path : String) (disk : Disk) :
    (textOf path).run disk = (disk.read path, disk) := rfl

@[simp] theorem run_folder (path : String) (disk : Disk) :
    (folder path).run disk = attempt disk (disk.makeFolder path) := rfl

@[simp] theorem run_file (path text : String) (disk : Disk) :
    (file path text).run disk = attempt disk (disk.write path text) := rfl

end Script

end SchemaScaffold.Workspace
