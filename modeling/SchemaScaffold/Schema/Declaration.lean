import SchemaScaffold.Code.Statement
import SchemaScaffold.Schema.Entry

/-! The statements that declare a schema: an interface, the schema itself and a
hook on saving. -/

namespace SchemaScaffold.Schema

open Code

/-! Names of fields are not restricted, so an entry may hold line breaks. The
declaration is therefore laid out as a text of its own. -/

def declarationFragment (name constructor : String) (entries : List String) :
    (settings : Option String) → Fragment
  | some settings =>
      .block ("const " ++ name ++ " = new " ++ constructor ++ "(")
        [.braced "" (entries.map .line) ",", .line (settings ++ ",")]
        (some ");")
  | none =>
      .braced ("const " ++ name ++ " = new " ++ constructor ++ "(") (entries.map .line) ");"

def declaration (name constructor : String) (entries : List String)
    (settings : Option String) : Statement :=
  .ofText (Code.render [declarationFragment name constructor entries settings])

def timestamps : String := "\x7b timestamps: true \x7d"

/-! A member is optional exactly if its field is not required. -/

def interfaceMember (owner : Owner) (field : Field) : InterfaceMember :=
  ⟨field.name, (owner.memberType field).text, field.required⟩

def interface (owner : Owner) (collection : Collection) : Interface :=
  { name := owner.typeName
    parent := some "Document"
    members := collection.declared.map (interfaceMember owner) }

/-! Forms submit an empty text for a reference that was left out. -/

/-- The names as a literal. -/
def nameArray (names : List String) : String :=
  "[" ++ ", ".intercalate (names.map Json.stringLiteral) ++ "]"

def hook (schema : String) (collection : Collection) (isTyped : Bool) : List Fragment :=
  [.line "// Forms submit empty selects as \"\"; store those references as null",
   .braced (schema ++ ".pre(\"save\", function (next) ")
     [.line ("const " ++ annotated "doc" (if isTyped then some "any" else none) ++ " = this;"),
      .braced ("for (const field of " ++ nameArray collection.idFields ++ ") ")
        [.braced "if (doc[field] === \"\") " [.line "doc[field] = null;"]],
      .line "next();"]
     ");"]

/-! The other collections that a collection refers to. Two labels with one
capitalized name are one target. -/

/-- Adds a target unless its name is taken. -/
def addTarget (own : String) (targets : List String) (target : String) : List String :=
  let name := Naming.pascal target
  if name == own || (targets.map Naming.pascal).contains name then targets
  else targets ++ [target]

def foreignTargets (collection : Collection) : List String :=
  (collection.declared.filterMap Field.target?).foldl (addTarget collection.pascal) []

end SchemaScaffold.Schema
