import SchemaScaffold.Controller.Flow
import SchemaScaffold.Model
import SchemaScaffold.Operation

/-! The controller of a collection: a handler for each operation. -/

namespace SchemaScaffold.Controller

open Code

def fileName (collection : Collection) (language : Language) : String :=
  collection.camel ++ ".controller." ++ language.extension

def moduleName (collection : Collection) : String := fileName collection .javaScript

/-- The variable that a handler keeps its records in. -/
def recordName (collection : Collection) : Operation → String
  | .listAll => collection.camel ++ "s"
  | _ => collection.camel

/-! ## The flow of a handler -/

/-- The failures that are the fault of the request. -/
def failures : Operation → List Failure
  | .listAll => []
  | .getOne => [.cast]
  | .create => [.validation, .duplicate]
  | .update => [.validation, .duplicate, .cast]
  | .delete => [.cast]

def successStatus : Operation → Nat
  | .create => 201
  | _ => 200

def callText (collection : Collection) (operation : Operation) (call : String) : String :=
  "const " ++ recordName collection operation ++ " = await " ++ collection.pascal ++ "." ++ call

def call (collection : Collection) (operation : Operation) : Fragment :=
  let text := callText collection operation
  match operation with
  | .listAll => .line (text "find();")
  | .getOne => .line (text "findById(req.params.id);")
  | .create => .line (text "create(payload);")
  | .update =>
      .braced (text "findByIdAndUpdate(req.params.id, payload, ")
        [.line "new: true,", .line "runValidators: true,"] ");"
  | .delete => .line (text "findByIdAndDelete(req.params.id);")

/-- Empty references in the request are taken for missing ones. -/
def payload : Step := .silent (.line "const payload = normalizeReferences(req.body);")

def missing (collection : Collection) (operation : Operation) : Step :=
  .provided (.isMissing (recordName collection operation))
    [.leave ⟨404, .error ("\"" ++ collection.pascal ++ " not found\"")⟩]

/-- A deleted record is not sent. -/
def answer (collection : Collection) : Operation → ResponseBody
  | .delete => .data "\x7b\x7d"
  | operation => .data (recordName collection operation)

def success (collection : Collection) (operation : Operation) : List Step :=
  (if operation.takesBody then [payload] else [])
    ++ [.call (call collection operation)]
    ++ (if operation.takesId then [missing collection operation] else [])
    ++ [.respond ⟨successStatus operation, answer collection operation⟩]

def refusal (isTyped : Bool) (failure : Failure) : Step :=
  .provided (.failedBy failure) <|
    match failure with
    | .cast => [.leave ⟨400, .error "\"Invalid ID format\""⟩]
    | .validation =>
        [.silent (.line ("const messages = Object.values(error.errors).map(("
            ++ annotated "err" (if isTyped then some "any" else none) ++ ") => err.message);")),
         .leave ⟨400, .error "messages"⟩]
    | .duplicate => [.leave ⟨400, .error "\"Duplicate field value entered\""⟩]

def steps (collection : Collection) (isTyped : Bool) (operation : Operation) : List Step :=
  [.attempt (if isTyped then some "any" else none) (success collection operation)
    ((failures operation).map (refusal isTyped)
      ++ [.respond ⟨500, .error "error.message"⟩])]

/-! ## The file -/

def summary (collection : Collection) : Operation → String
  | .listAll => "Get all " ++ collection.camel ++ "s"
  | .getOne => "Get a single " ++ collection.camel
  | .create => "Create a new " ++ collection.camel
  | .update => "Update a " ++ collection.camel
  | .delete => "Delete a " ++ collection.camel

def typedParameter (isTyped : Bool) (name type : String) : Parameter :=
  ⟨name, if isTyped then some type else none⟩

def handler (collection : Collection) (isTyped : Bool) (operation : Operation) : Function :=
  { name := operation.handlerName collection
    docs :=
      [summary collection operation,
       "@route " ++ operation.verb.title ++ " " ++ collection.routePath ++ operation.pathEnd]
    isAsync := true
    parameters := [typedParameter isTyped "req" "Request", typedParameter isTyped "res" "Response"]
    body := fragmentsOf (steps collection isTyped operation) }

def normalizeReferences (isTyped : Bool) : Function :=
  { name := "normalizeReferences"
    docs := ["Empty-string references are stored as null"]
    exported := false
    parameters := [typedParameter isTyped "body" "Record<string, any>"]
    body :=
      [.line "const payload = \x7b ...body \x7d;",
       .braced "for (const field of referenceFields) "
        [.braced "if (payload[field] === \"\") " [.line "payload[field] = null;"]],
       .line "return payload;"] }

def referenceFields (collection : Collection) (isTyped : Bool) : Constant :=
  { name := "referenceFields"
    value := Schema.nameArray collection.idFields
    type := if isTyped then some "string[]" else none }

def imports (collection : Collection) (isTyped : Bool) : List Import :=
  (if isTyped then [{ source := "express", named := ["Request", "Response"] }] else [])
    ++ [{ source := "../models/" ++ Model.moduleName collection, named := [collection.pascal] }]

def sourceFile (collection : Collection) (isTyped : Bool) : SourceFile :=
  { imports := imports collection isTyped
    statements :=
      .constant (referenceFields collection isTyped)
        :: .function (normalizeReferences isTyped)
        :: Operation.all.map fun operation => .function (handler collection isTyped operation) }

def artifact (collection : Collection) (language : Language) : Artifact :=
  ⟨fileName collection language, (sourceFile collection language.isTyped).render⟩

def emit (collection : Collection) (config : Config) : Emission :=
  .ofCollection collection (artifact collection config.language)

end SchemaScaffold.Controller
