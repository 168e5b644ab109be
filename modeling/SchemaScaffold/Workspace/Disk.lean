import SchemaScaffold.Workspace.OsError
import SchemaScaffold.Workspace.Path

/-! A disk: its files and folders, and how a path leads to one of them. -/

namespace SchemaScaffold.Workspace

/-- The names on the way from the root to a file or folder. -/
abbrev Location := List String

inductive Entry where
  | file (text : String)
  | folder
deriving DecidableEq

structure Disk where
  /-- The folder that relative paths start from. -/
  workingFolder : Location
  entries : List (Location × Entry)

/-- Replaces the entry of a location, or adds one. -/
def putEntry (location : Location) (entry : Entry) :
    List (Location × Entry) → List (Location × Entry)
  | [] => [(location, entry)]
  | (other, existing) :: rest =>
      if other = location then (location, entry) :: rest
      else (other, existing) :: putEntry location entry rest

namespace Disk

/-- The root is always a folder. -/
def entry? (disk : Disk) (location : Location) : Option Entry :=
  if location.isEmpty then some .folder else disk.entries.lookup location

def put (disk : Disk) (location : Location) (entry : Entry) : Disk :=
  { disk with entries := putEntry location entry disk.entries }

/-! ## Following a path -/

def nameLimit : Nat := 255

def pathLimit : Nat := 4095

/-- What a name in a folder stands for, which may be nothing. -/
def entryIn (disk : Disk) (folder : Location) (name : String) : Except OsError (Option Entry) :=
  if nameLimit < name.utf8ByteSize then .error .nameTooLong
  else .ok (disk.entry? (folder ++ [name]))

/-- One step down or, at a pair of dots, up. -/
def enter (disk : Disk) (folder : Location) (name : String) : Except OsError Location :=
  if Path.isRedundant name then .ok folder
  else if name = ".." then .ok folder.dropLast
  else
    match disk.entryIn folder name with
    | .error error => .error error
    | .ok none => .error .notFound
    | .ok (some (.file _)) => .error .notFolder
    | .ok (some .folder) => .ok (folder ++ [name])

/-- Where a path ends. -/
inductive Target where
  /-- In a folder, by dots or at the root. -/
  | folder (location : Location)
  /-- At a name in a folder. A slash may follow it. -/
  | name (parent : Location) (name : String) (endsInSlash : Bool)

def isName (segment : String) : Bool := !Path.isRedundant segment && segment != ".."

/-- Follows the segments of a path up to its last name. -/
def follow (disk : Disk) (folder : Location) (endsInSlash : Bool) :
    List String → Except OsError Target
  | [] => .ok (.folder folder)
  | [last] =>
      if isName last then .ok (.name folder last endsInSlash)
      else (disk.enter folder last).map .folder
  | segment :: segment' :: rest =>
      match disk.enter folder segment with
      | .error error => .error error
      | .ok inner => disk.follow inner endsInSlash (segment' :: rest)

/-- The segments of a path without the empty ones at its end. -/
def namedSegments (path : String) : List String :=
  ((Path.segments path).reverse.dropWhile (· == "")).reverse

def start (disk : Disk) (path : String) : Location :=
  if Path.isAbsolute path then [] else disk.workingFolder

def target (disk : Disk) (path : String) : Except OsError Target :=
  if path.toList.contains '\x00' then .error .invalidName
  else if path.isEmpty then .error .notFound
  else if pathLimit < path.utf8ByteSize then .error .nameTooLong
  else disk.follow (disk.start path) (Path.endsInSlash path) (namedSegments path)

/-! ## Access by path -/

/-- What is to be known about a file or folder before it is used. -/
inductive Kind where
  | file
  | folder
deriving DecidableEq

def examine (disk : Disk) (path : String) : Option Kind :=
  match disk.target path with
  | .error _ => none
  | .ok (.folder _) => some .folder
  | .ok (.name parent name endsInSlash) =>
      match disk.entryIn parent name with
      | .ok (some .folder) => some .folder
      | .ok (some (.file _)) => if endsInSlash then none else some .file
      | _ => none

def read (disk : Disk) (path : String) : Except OsError String :=
  match disk.target path with
  | .error error => .error error
  | .ok (.folder _) => .error .isFolder
  | .ok (.name parent name endsInSlash) =>
      match disk.entryIn parent name with
      | .error error => .error error
      | .ok none => .error .notFound
      | .ok (some .folder) => .error .isFolder
      | .ok (some (.file text)) => if endsInSlash then .error .notFolder else .ok text

/-- Makes a folder in an existing one. -/
def makeFolder (disk : Disk) (path : String) : Except OsError Disk :=
  match disk.target path with
  | .error error => .error error
  | .ok (.folder _) => .error .alreadyExists
  | .ok (.name parent name _) =>
      match disk.entryIn parent name with
      | .error error => .error error
      | .ok (some _) => .error .alreadyExists
      | .ok none => .ok (disk.put (parent ++ [name]) .folder)

/-- Writes a file, whether it existed or not. -/
def write (disk : Disk) (path text : String) : Except OsError Disk :=
  match disk.target path with
  | .error error => .error error
  | .ok (.folder _) => .error .isFolder
  | .ok (.name parent name endsInSlash) =>
      if endsInSlash then .error .isFolder
      else
        match disk.entryIn parent name with
        | .error error => .error error
        | .ok (some .folder) => .error .isFolder
        | .ok _ => .ok (disk.put (parent ++ [name]) (.file text))

example :
    ((Disk.mk ["home"] [(["home"], .folder), (["home", "a"], .file "text")]).read
        "../home/a").toOption = some "text" := by decide +kernel

end Disk

end SchemaScaffold.Workspace
