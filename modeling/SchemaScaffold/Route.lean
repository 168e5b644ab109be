import SchemaScaffold.Controller
import SchemaScaffold.Route.OpenApi

/-! The routes of a collection: which handler answers which request. -/

namespace SchemaScaffold.Route

open Code

def fileName (collection : Collection) (language : Language) : String :=
  collection.camel ++ ".routes." ++ language.extension

def moduleName (collection : Collection) : String := fileName collection .javaScript

/-- The name of the middleware that lets only known users pass. -/
def gateName : String := "protect"

def handlers (collection : Collection) (isProtected : Bool) (operation : Operation) :
    List String :=
  (if isProtected then [gateName] else []) ++ [operation.handlerName collection]

def call (collection : Collection) (isProtected : Bool) (operation : Operation) : Call :=
  ⟨operation.verb.name, handlers collection isProtected operation⟩

/-- The operations on one path below the router, with a comment. -/
def chain (collection : Collection) (isProtected : Bool) (path : String)
    (operations : List Operation) (remarks : List String) : Chain :=
  { remarks := remarks
    subject := "router.route"
    arguments := ["\"" ++ path ++ "\""]
    calls := operations.map (call collection isProtected) }

def collectionRemarks (collection : Collection) (config : Config) : List String :=
  if config.has .swagger then
    openApiLines collection (config.has .auth) collection.routePath Operation.onCollection
  else
    ["@route " ++ collection.routePath]

def recordRemarks (collection : Collection) (config : Config) : List String :=
  if config.has .swagger then
    openApiLines collection (config.has .auth) (collection.routePath ++ "/\x7bid\x7d")
      Operation.onRecord
  else
    ["@route " ++ collection.routePath ++ "/:id"]

def imports (collection : Collection) (isProtected : Bool) : List Import :=
  [{ source := "express", named := ["Router"] }]
    ++ (if isProtected then [{ source := "../middleware/auth.js", named := [gateName] }] else [])
    ++ [{ source := "../controllers/" ++ Controller.moduleName collection
          named := handlerNames collection }]

def sourceFile (collection : Collection) (config : Config) : SourceFile :=
  let isProtected := config.has .auth
  { imports := imports collection isProtected
    statements :=
      [.raw [.line "const router = Router();"],
       .chain (chain collection isProtected "/" Operation.onCollection
        (collectionRemarks collection config)),
       .chain (chain collection isProtected "/:id" Operation.onRecord
        (recordRemarks collection config))]
    exports := [{ default := some "router" }] }

def artifact (collection : Collection) (config : Config) : Artifact :=
  ⟨fileName collection config.language, (sourceFile collection config).render⟩

def emit (collection : Collection) (config : Config) : Emission :=
  .ofCollection collection (artifact collection config)

end SchemaScaffold.Route
