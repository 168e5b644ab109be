import SchemaScaffold.Collection
import SchemaScaffold.Text.Blank
import SchemaScaffold.Text.Split

/-! Which collections a user asks for. -/

namespace SchemaScaffold

inductive Selection where
  | all
  | named (names : List String)
deriving DecidableEq

namespace Selection

def isAllWord (name : String) : Bool := Text.lowercaseLatin name == "all"

/-- The names between commas, without the space around them. -/
def namesIn (text : String) : List String :=
  ((Text.pieces (· == ',') text).map fun piece => String.ofList (Text.trim piece.toList)).filter
    fun name => !name.isEmpty

/-- No name at all asks for everything, as does a certain word. -/
def ofText (text : String) : Selection :=
  let names := namesIn text
  if names.isEmpty || names.any isAllWord then all else named names

/-- The selection as one line of text. -/
def display : Selection → String
  | all => "all"
  | named names => ", ".intercalate names

/-- A collection answers to its label and to its capitalized name. -/
def refersTo (name : String) (collection : Collection) : Bool :=
  name == collection.label || name == collection.pascal

def includes (selection : Selection) (collection : Collection) : Bool :=
  match selection with
  | all => true
  | named names => names.any fun name => refersTo name collection

/-- The names that no collection answers to. -/
def unknown (selection : Selection) (collections : List Collection) : List String :=
  match selection with
  | all => []
  | named names => names.filter fun name => !collections.any (refersTo name)

end Selection

end SchemaScaffold
