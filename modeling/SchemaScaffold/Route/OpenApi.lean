import SchemaScaffold.Operation

/-! The description of a collection's requests that is kept in comments and
shown by the documentation server. -/

namespace SchemaScaffold.Route

structure DocumentedAnswer where
  status : Nat
  description : String
deriving DecidableEq

/-- The answers of an operation, by increasing status. -/
def answers : Operation → List DocumentedAnswer
  | .listAll => [⟨200, "Success"⟩, ⟨500, "Server error"⟩]
  | .create =>
      [⟨201, "Created"⟩, ⟨400, "Validation error or duplicate value"⟩, ⟨500, "Server error"⟩]
  | .update =>
      [⟨200, "Updated"⟩, ⟨400, "Invalid ID format, validation error or duplicate value"⟩,
       ⟨404, "Not found"⟩, ⟨500, "Server error"⟩]
  | _ =>
      [⟨200, "Success"⟩, ⟨400, "Invalid ID format"⟩, ⟨404, "Not found"⟩, ⟨500, "Server error"⟩]

/-- Inserts an answer behind those whose status is not greater. -/
def insertAnswer (answer : DocumentedAnswer) (others : List DocumentedAnswer) :
    List DocumentedAnswer :=
  others.takeWhile (fun other => other.status ≤ answer.status)
    ++ answer :: others.dropWhile (fun other => other.status ≤ answer.status)

def unauthorized : DocumentedAnswer := ⟨401, "Not authorized"⟩

def documentedAnswers (isProtected : Bool) (operation : Operation) : List DocumentedAnswer :=
  if isProtected then insertAnswer unauthorized (answers operation) else answers operation

example : (documentedAnswers true .getOne).map (·.status) = [200, 400, 401, 404, 500] := by decide

def summary (collection : Collection) : Operation → String
  | .listAll => "List all " ++ collection.camel ++ "s"
  | .getOne => "Get a " ++ collection.camel ++ " by id"
  | .create => "Create a " ++ collection.camel
  | .update => "Update a " ++ collection.camel
  | .delete => "Delete a " ++ collection.camel

def securityLines : List String :=
  ["    security:", "      - bearerAuth: []"]

def parameterLines : List String :=
  ["    parameters:",
   "      - in: path",
   "        name: id",
   "        required: true",
   "        schema:",
   "          type: string"]

def bodyLines : List String :=
  ["    requestBody:",
   "      required: true",
   "      content:",
   "        application/json:",
   "          schema:",
   "            type: object"]

def answerLines (answer : DocumentedAnswer) : List String :=
  ["      " ++ toString answer.status ++ ":", "        description: " ++ answer.description]

def operationLines (collection : Collection) (isProtected : Bool) (operation : Operation) :
    List String :=
  ["  " ++ operation.verb.name ++ ":",
   "    summary: " ++ summary collection operation,
   "    tags: [" ++ collection.pascal ++ "]"]
    ++ (if isProtected then securityLines else [])
    ++ (if operation.takesId then parameterLines else [])
    ++ (if operation.takesBody then bodyLines else [])
    ++ "    responses:" :: (documentedAnswers isProtected operation).flatMap answerLines

/-- The operations on one path. -/
def openApiLines (collection : Collection) (isProtected : Bool) (path : String)
    (operations : List Operation) : List String :=
  "@openapi" :: (path ++ ":") :: operations.flatMap (operationLines collection isProtected)

end SchemaScaffold.Route
