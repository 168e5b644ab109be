import SchemaScaffold.Schema.FieldType

/-! The entry of a field in a schema: its type and, as far as they apply, its
reference, its flags and its default, always in this order. -/

namespace SchemaScaffold.Schema

/-- How a reference names its target. -/
inductive ReferenceSpelling where
  | pascal
  /-- As the label was drawn. -/
  | label
deriving DecidableEq

def ReferenceSpelling.spell : ReferenceSpelling → String → String
  | pascal => Naming.pascal
  | label => id

structure Dialect where
  idToken : IdToken
  spelling : ReferenceSpelling

namespace Dialect

/-- The string that a field's entry refers to. -/
def reference? (dialect : Dialect) (field : Field) : Option String :=
  field.target?.map dialect.spelling.spell

def options (dialect : Dialect) (field : Field) : List String :=
  ["type: " ++ dialect.idToken.fieldType field]
    ++ ((dialect.reference? field).toList.map fun name => "ref: " ++ Json.stringLiteral name)
    ++ (if field.required then ["required: true"] else [])
    ++ (if field.unique then ["unique: true"] else [])
    ++ (field.defaultLiteral?.toList.map fun literal => "default: " ++ literal)

def entry (dialect : Dialect) (field : Field) : String :=
  field.name ++ ": \x7b " ++ ", ".intercalate (dialect.options field) ++ " \x7d,"

/-- The entries of a collection, one for each declared field. -/
def entries (dialect : Dialect) (collection : Collection) : List String :=
  collection.declared.map dialect.entry

end Dialect

example :
    (Dialect.mk .ofTypes .pascal).entry
        { name := "owner", typeTag := "ref", required := true, reference := some "app_user" }
      = "owner: \x7b type: Types.ObjectId, ref: \"AppUser\", required: true \x7d," := by
  decide +kernel

end SchemaScaffold.Schema
