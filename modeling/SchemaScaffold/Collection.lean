import SchemaScaffold.Json.Print
import SchemaScaffold.Naming

/-! Collections of documents, from which all code is generated. -/

namespace SchemaScaffold

inductive FieldKind where
  | string
  | number
  | boolean
  | date
  /-- The id of a document of another collection. -/
  | ref
  /-- The id of a document. -/
  | primary
  /-- A tag without a meaning of its own. -/
  | other (tag : String)
deriving DecidableEq

namespace FieldKind

/-- Tags are recognised in any case of the Latin letters. -/
def ofTag (tag : String) : FieldKind :=
  match Text.lowercaseLatin tag with
  | "string" => string
  | "number" => number
  | "boolean" => boolean
  | "date" => date
  | "ref" => ref
  | "primary" => primary
  | _ => other tag

def holdsId : FieldKind → Bool
  | ref => true
  | primary => true
  | _ => false

end FieldKind

structure Field where
  name : String
  /-- The type tag as it was drawn. -/
  typeTag : String
  required : Bool := false
  unique : Bool := false
  list : Bool := false
  default : Option Json.Value := none
  /-- The label of the collection that a reference points at. -/
  reference : Option String := none
  /-- The id of the field in the diagram. -/
  id : Option String := none

namespace Field

def kind (field : Field) : FieldKind := .ofTag field.typeTag

/-- Every document already has the identity field, so it is never declared. -/
def identityName : String := "_id"

def isIdentity (field : Field) : Bool := field.name == identityName

def isPrimary (field : Field) : Bool := field.kind == .primary

/-- Only reference fields point at a collection. -/
def target? (field : Field) : Option String :=
  if field.kind == .ref then field.reference else none

/-- The default value as a literal. -/
def defaultLiteral? (field : Field) : Option String := field.default.map Json.Value.compact

end Field

structure Collection where
  /-- The name as it was drawn. -/
  label : String
  fields : List Field

namespace Collection

/-- The fields that are declared in generated code, in the order of the
diagram. -/
def declared (collection : Collection) : List Field :=
  collection.fields.filter fun field => !field.isIdentity

def hasDeclared (collection : Collection) : Bool := !collection.declared.isEmpty

/-- The declared fields whose values are ids. -/
def idFields (collection : Collection) : List String :=
  (collection.declared.filter fun field => field.kind.holdsId).map Field.name

/-- The name under which the datastore keeps the collection. -/
def storageName (collection : Collection) : String := Text.lowercase collection.label

def pascal (collection : Collection) : String := Naming.pascal collection.label

def camel (collection : Collection) : String := Naming.camel collection.label

/-- The path under which the collection is served. -/
def routePath (collection : Collection) : String := Naming.routePath collection.label

end Collection

/-! Labels that several collections share, each once, in the order in which they
occur for the second time. -/

def repeatedLabels (collections : List Collection) : List String :=
  go (collections.map Collection.label) []
where
  /-- `seen` are the labels before the given ones. -/
  go : List String → (seen : List String) → List String
    | [], _ => []
    | label :: rest, seen =>
        if seen.count label = 1 then label :: go rest (label :: seen)
        else go rest (label :: seen)

example : repeatedLabels [⟨"a", []⟩, ⟨"b", []⟩, ⟨"b", []⟩, ⟨"a", []⟩, ⟨"a", []⟩] = ["b", "a"] := by
  decide

end SchemaScaffold
