import SchemaScaffold.Collection

/-! The types of fields: in an interface, and in a schema. Both first map the
kind of a field and then, for a list, the result. -/

namespace SchemaScaffold.Schema

/-! ## In interfaces -/

def idType : String := "Types.ObjectId"

inductive MemberType where
  | named (name : String)
  /-- An id, or the document that took its place. -/
  | idOr (document : String)
  | listOf (item : MemberType)
deriving DecidableEq

/-- Whether a type is written with alternatives. -/
def hasAlternatives (type : String) : Bool := (Text.around? " | ".toList type.toList).isSome

/-- The type of lists. Without brackets only the last alternative of an item would
become a list. -/
def listType (item : String) : String :=
  if hasAlternatives item then "(" ++ item ++ ")[]" else item ++ "[]"

namespace MemberType

def text : MemberType → String
  | named name => name
  | idOr document => idType ++ " | " ++ document
  | listOf item => listType item.text

example : (listOf (idOr "User")).text = "(Types.ObjectId | User)[]" := by decide +kernel

end MemberType

/-- The collection that an interface belongs to, and the name of the interface. -/
structure Owner where
  pascal : String
  typeName : String

namespace Owner

def owns (owner : Owner) (target : String) : Bool :=
  !owner.pascal.isEmpty && Naming.pascal target == owner.pascal

/-- The type of the documents of a collection. The owner's capitalized name is
taken by its model, so it is referred to by the name of its interface. -/
def documentType (owner : Owner) (target : String) : String :=
  if owner.owns target then owner.typeName else Naming.pascal target

def itemType (owner : Owner) (field : Field) : MemberType :=
  match field.kind with
  | .string => .named "string"
  | .number => .named "number"
  | .boolean => .named "boolean"
  | .date => .named "Date"
  | .ref =>
      match field.target? with
      | some target => .idOr (owner.documentType target)
      | none => .named idType
  | .primary => .named idType
  | .other _ => .named "any"

def memberType (owner : Owner) (field : Field) : MemberType :=
  if field.list then .listOf (owner.itemType field) else owner.itemType field

end Owner

/-! ## In schemas -/

/-- The spelling of the id type, which depends on what a file imports. -/
inductive IdToken where
  | ofTypes
  | ofSchema
  | ofDriver
deriving DecidableEq

namespace IdToken

def text : IdToken → String
  | ofTypes => idType
  | ofSchema => "Schema." ++ idType
  | ofDriver => "mongoose.Schema." ++ idType

/-- Ids, and only they, depend on the file. -/
def itemType (token : IdToken) (field : Field) : String :=
  match field.kind with
  | .string => "String"
  | .number => "Number"
  | .boolean => "Boolean"
  | .date => "Date"
  | .ref => token.text
  | .primary => token.text
  | .other _ => "String"

def fieldType (token : IdToken) (field : Field) : String :=
  if field.list then "[" ++ token.itemType field ++ "]" else token.itemType field

end IdToken

end SchemaScaffold.Schema
