import SchemaScaffold.Project.File
import SchemaScaffold.Route

/-! The application: its middleware, the routes mounted on it and, perhaps, the
documentation server. -/

namespace SchemaScaffold.Project

open Code

/-- A router under the path that it is mounted at. -/
structure Mount where
  path : String
  /-- The name of the router in the application. -/
  binding : String
  /-- The file of the router, as the application names it. -/
  source : String
deriving DecidableEq

namespace Mount

def ofCollection (collection : Collection) : Mount :=
  ⟨collection.routePath, collection.camel ++ "Routes", "./routes/" ++ Route.moduleName collection⟩

def line (mount : Mount) : String :=
  "app.use(\"" ++ mount.path ++ "\", " ++ mount.binding ++ ");"

def importStatement (mount : Mount) : Import :=
  { source := mount.source, default := some mount.binding }

/-- The mounts of collections; several collections with one mount share it. -/
def ofCollections (collections : List Collection) : List Mount :=
  (collections.map ofCollection).foldl
    (fun mounts mount => if mounts.contains mount then mounts else mounts ++ [mount]) []

end Mount

namespace App

/-! ## The documentation server -/

def securitySchemes : Fragment :=
  .braced "components: "
    [.braced "securitySchemes: "
      [.braced "bearerAuth: "
        [.line "type: \"http\",", .line "scheme: \"bearer\",", .line "bearerFormat: \"JWT\","]
        ","]
      ","]
    ","

def specification (config : Config) : Fragment :=
  .braced ""
    [.braced "definition: "
      ([.line "openapi: \"3.0.0\",",
        .braced "info: "
          [.line ("title: \"" ++ config.projectName ++ "\","), .line "version: \"1.0.0\","]
          ","]
        ++ (if config.has .auth then [securitySchemes] else []))
      ",",
     .line ("apis: [\"./src/routes/*." ++ config.extension ++ "\"],")]

def specificationText (config : Config) : String :=
  String.ofList (Text.trimEnd (Code.render [specification config]).toList)

def specificationConstant (config : Config) : Constant :=
  { name := "swaggerSpec", value := "swaggerJsdoc(" ++ specificationText config ++ ")" }

/-- The name of a project is not restricted here, so its lines are read again. -/
def documentation (config : Config) : Statement :=
  .ofText (Code.render (specificationConstant config).fragments
    ++ "\napp.use(\"/api-docs\", swaggerUi.serve, swaggerUi.setup(swaggerSpec));")

/-! ## The file -/

def defaultImport (name source : String) : Import := { source := source, default := some name }

def imports (config : Config) (mounts : List Mount) : List Import :=
  [defaultImport "express" "express", defaultImport "cors" "cors",
   defaultImport "helmet" "helmet", defaultImport "morgan" "morgan"]
    ++ (if config.has .swagger then
          [defaultImport "swaggerJsdoc" "swagger-jsdoc",
           defaultImport "swaggerUi" "swagger-ui-express"]
        else [])
    ++ [{ source := "./middleware/error.js", named := ["errorHandler"] }]
    ++ mounts.map Mount.importStatement

def middleware : Statement :=
  .raw
    [.line "app.use(express.json());", .line "app.use(cors());", .line "app.use(helmet());",
     .line "app.use(morgan(\"dev\"));"]

def mountLines (mounts : List Mount) : Statement :=
  .ofText ("\n".intercalate (mounts.map Mount.line))

def sourceFile (config : Config) (mounts : List Mount) : SourceFile :=
  { imports := imports config mounts
    statements :=
      [.constant { name := "app", value := "express()" }, middleware]
        ++ (if config.has .swagger then [documentation config] else [])
        ++ (if mounts.isEmpty then [] else [mountLines mounts])
        ++ [.raw [.line "app.use(errorHandler);"]]
    exports := [{ default := some "app" }] }

end App

/-- The application file. -/
def app (config : Config) (mounts : List Mount) : ProjectFile :=
  ⟨["src", "app." ++ config.extension], (App.sourceFile config mounts).render, false⟩

end SchemaScaffold.Project
