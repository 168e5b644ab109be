import SchemaScaffold.Code.Fragment

/-! The top-level statements of a source file. -/

namespace SchemaScaffold.Code

/-- A name with its type, in typed sources. -/
def annotated (name : String) (type : Option String) : String :=
  match type with
  | some type => name ++ ": " ++ type
  | none => name

def exportWord (exported : Bool) : String := if exported then "export " else ""

/-- The last line is ended by a semicolon. -/
def ended : List String → List String
  | [] => []
  | [last] => [last ++ ";"]
  | line :: line' :: rest => line :: ended (line' :: rest)

/-! ## Constants -/

structure Constant where
  name : String
  value : String
  type : Option String := none
  exported : Bool := false

namespace Constant

/-- The text of a declaration up to the given start of its value. -/
def head (constant : Constant) (value : String) : String :=
  exportWord constant.exported ++ "const " ++ annotated constant.name constant.type
    ++ " = " ++ value

/-- The lines of a value keep their own layout. -/
def lines (constant : Constant) : List String :=
  match (Text.lines constant.value.toList).map String.ofList with
  | [] => ended [constant.head ""]
  | first :: rest => ended (constant.head first :: rest)

def fragments (constant : Constant) : List Fragment := constant.lines.map .line

end Constant

/-! ## Functions -/

structure Parameter where
  name : String
  type : Option String := none

def Parameter.text (parameter : Parameter) : String :=
  annotated parameter.name parameter.type

/-- An arrow function that is bound to a constant. -/
structure Function where
  name : String
  docs : List String := []
  exported : Bool := true
  isAsync : Bool := false
  parameters : List Parameter := []
  body : List Fragment := []

namespace Function

/-- The documentation comment, on one line if it has only one. -/
def docFragments : List String → List Fragment
  | [] => []
  | [line] => [.remark line]
  | lines => [.remarks lines]

def signature (function : Function) : String :=
  exportWord function.exported ++ "const " ++ function.name ++ " = "
    ++ (if function.isAsync then "async " else "")
    ++ "(" ++ ", ".intercalate (function.parameters.map Parameter.text) ++ ") => "

def fragments (function : Function) : List Fragment :=
  docFragments function.docs ++ [.braced function.signature function.body ";"]

end Function

/-! ## Interfaces -/

structure InterfaceMember where
  name : String
  type : String
  required : Bool

def InterfaceMember.text (member : InterfaceMember) : String :=
  member.name ++ (if member.required then "" else "?") ++ ": " ++ member.type ++ ";"

structure Interface where
  name : String
  parent : Option String := none
  members : List InterfaceMember := []

namespace Interface

def header (interface : Interface) : String :=
  "export interface " ++ interface.name
    ++ (match interface.parent with
        | some parent => " extends " ++ parent
        | none => "")
    ++ " "

def fragments (interface : Interface) : List Fragment :=
  if interface.members.isEmpty then
    [.line (interface.header ++ "\x7b\x7d")]
  else
    [.braced interface.header (interface.members.map fun member => .line member.text)]

end Interface

/-! ## Chains of calls -/

structure Call where
  method : String
  arguments : List String

def Call.text (call : Call) : String :=
  "." ++ call.method ++ "(" ++ ", ".intercalate call.arguments ++ ")"

/-- A first call and further calls on its result, one a line. -/
structure Chain where
  /-- The lines of a comment in front. -/
  remarks : List String := []
  subject : String
  arguments : List String := []
  calls : List Call := []

namespace Chain

def head (chain : Chain) : String :=
  chain.subject ++ "(" ++ ", ".intercalate chain.arguments ++ ")"

def remarkFragments (chain : Chain) : List Fragment :=
  if chain.remarks.isEmpty then [] else [.remarks chain.remarks]

def callFragments (chain : Chain) : List Fragment :=
  if chain.calls.isEmpty then
    [.line (chain.head ++ ";")]
  else
    [.line chain.head, .indented ((ended (chain.calls.map Call.text)).map .line)]

def fragments (chain : Chain) : List Fragment := chain.remarkFragments ++ chain.callFragments

example :
    render (fragments
        { subject := "router.route"
          arguments := ["\"/\""]
          calls := [⟨"get", ["list"]⟩, ⟨"post", ["protect", "create"]⟩] })
      = "router.route(\"/\")\n  .get(list)\n  .post(protect, create);\n" := by decide +kernel

end Chain

/-! ## Statements -/

inductive Statement where
  | constant (constant : Constant)
  | function (function : Function)
  | interface (interface : Interface)
  | chain (chain : Chain)
  /-- Code that is laid out as it is. -/
  | raw (fragments : List Fragment)

namespace Statement

/-- Code given as a text. -/
def ofText (text : String) : Statement := .raw (Fragment.ofText text)

def fragments : Statement → List Fragment
  | .constant value => value.fragments
  | .function value => value.fragments
  | .interface value => value.fragments
  | .chain value => value.fragments
  | .raw value => value

end Statement

end SchemaScaffold.Code
