import SchemaScaffold.Code.Fragment
import SchemaScaffold.Target

/-! Imports of other modules. -/

namespace SchemaScaffold.Code

/-- Names between curly brackets. -/
def nameList (names : List String) : String := "\x7b " ++ ", ".intercalate names ++ " \x7d"

structure Import where
  source : String
  default : Option String := none
  named : List String := []
  typeOnly : Bool := false
  moduleSystem : ModuleSystem := .esModule

namespace Import

/-- The named bindings, if there are any. -/
def bindings? (statement : Import) : Option String :=
  if statement.named.isEmpty then none else some (nameList statement.named)

def declaration (statement : Import) : String :=
  let bindings := statement.default.toList ++ statement.bindings?.toList
  if bindings.isEmpty then
    "import \"" ++ statement.source ++ "\";"
  else
    (if statement.typeOnly then "import type " else "import ")
      ++ ", ".intercalate bindings ++ " from \"" ++ statement.source ++ "\";"

/-- Without declarations, names are taken out of what loading the module gave. -/
def loading (statement : Import) : List String :=
  let load := "require(\"" ++ statement.source ++ "\")"
  match statement.default, statement.bindings? with
  | some name, none => ["const " ++ name ++ " = " ++ load ++ ";"]
  | some name, some names =>
      ["const " ++ name ++ " = " ++ load ++ ";", "const " ++ names ++ " = " ++ name ++ ";"]
  | none, some names => ["const " ++ names ++ " = " ++ load ++ ";"]
  | none, none => [load ++ ";"]

def lines (statement : Import) : List String :=
  match statement.moduleSystem with
  | .esModule => [statement.declaration]
  | .commonJs => statement.loading

def fragments (statement : Import) : List Fragment := statement.lines.map .line

example : lines { source := "express", named := ["Router"] }
    = ["import \x7b Router \x7d from \"express\";"] := by decide +kernel

end Import

end SchemaScaffold.Code
