import SchemaScaffold.Collection

/-! The five requests that are served for each collection. -/

namespace SchemaScaffold

inductive Verb where
  | get
  | post
  | put
  | delete
deriving DecidableEq

namespace Verb

def name : Verb → String
  | get => "get"
  | post => "post"
  | put => "put"
  | delete => "delete"

/-- The verb as it is written in running text. -/
def title : Verb → String
  | get => "GET"
  | post => "POST"
  | put => "PUT"
  | delete => "DELETE"

end Verb

inductive Operation where
  | listAll
  | getOne
  | create
  | update
  | delete
deriving DecidableEq

namespace Operation

def all : List Operation := [listAll, getOne, create, update, delete]

def verb : Operation → Verb
  | listAll => .get
  | getOne => .get
  | create => .post
  | update => .put
  | delete => .delete

/-- Whether a request names one record by its id. -/
def takesId : Operation → Bool
  | listAll => false
  | getOne => true
  | create => false
  | update => true
  | delete => true

/-- Whether a request carries a record. -/
def takesBody : Operation → Bool
  | create => true
  | update => true
  | _ => false

/-- The operations that share a path, in the order of their verbs there. -/
def onCollection : List Operation := [listAll, create]

def onRecord : List Operation := [getOne, update, delete]

example : all.filter takesId = onRecord := by decide

/-- What follows a collection's path in the path of an operation. -/
def pathEnd (operation : Operation) : String := if operation.takesId then "/:id" else ""

def handlerName (operation : Operation) (collection : Collection) : String :=
  match operation with
  | listAll => "getAll" ++ collection.pascal ++ "s"
  | getOne => "get" ++ collection.pascal
  | create => "create" ++ collection.pascal
  | update => "update" ++ collection.pascal
  | delete => "delete" ++ collection.pascal

end Operation

/-- The handlers of a collection. -/
def handlerNames (collection : Collection) : List String :=
  Operation.all.map fun operation => operation.handlerName collection

end SchemaScaffold
