import SchemaScaffold.Text.Split

/-! File paths as texts. A path that starts with a slash is absolute. Slashes
that follow each other count as one, and a dot stands for the folder itself
and counts only at the start. -/

namespace SchemaScaffold.Workspace.Path

def isAbsolute (path : String) : Bool := path.startsWith "/"

def endsInSlash (path : String) : Bool := path.endsWith "/"

/-- The path of `path` seen from `base`. An absolute path does not depend on the
base. -/
def join (base path : String) : String :=
  if isAbsolute path then path
  else if base.isEmpty || endsInSlash base then base ++ path
  else base ++ "/" ++ path

def joinAll (base : String) (segments : List String) : String := segments.foldl join base

/-- The texts between the slashes. -/
def segments (path : String) : List String := Text.pieces (· == '/') path

def isRedundant (segment : String) : Bool := segment == "" || segment == "."

/-- The components of a path; the root is one of them. -/
def components (path : String) : List String :=
  match segments path with
  | [] => []
  | head :: rest =>
      let body := rest.filter fun segment => !isRedundant segment
      if isAbsolute path then "/" :: body
      else if head == "" then body
      else head :: body

/-- A path with plain slashes between its components. -/
def normal (path : String) : String := "/".intercalate (components path)

def dropRedundantEnd (segments : List String) : List String :=
  (segments.reverse.dropWhile isRedundant).reverse

/-- The path without its last component, spelled as in the path. The root and
the empty path have none. -/
def parent? (path : String) : Option String :=
  match segments path with
  | [] => none
  | head :: rest =>
      let body := dropRedundantEnd rest
      let remaining := dropRedundantEnd body.dropLast
      if isAbsolute path then
        if body.isEmpty then none else some ("/" ++ "/".intercalate remaining)
      else if head == "" then none
      else if body.isEmpty then some ""
      else some ("/".intercalate (head :: remaining))

/-- A path and the folders above it, from the inside out, as far as they have a
name of their own. A path has no more of them than components. -/
def chain (path : String) : List String :=
  go (components path).length path
where
  go : (count : Nat) → String → List String
    | 0, _ => []
    | count + 1, path =>
        match parent? path with
        | none => []
        | some parent => path :: go count parent

example : chain "a/./b//c" = ["a/./b//c", "a/./b", "a"] := by decide +kernel

end SchemaScaffold.Workspace.Path
