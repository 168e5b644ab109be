import SchemaScaffold.Config
import SchemaScaffold.Project.File

/-! The manifest of a project: its name, its commands and the packages that it
depends on. -/

namespace SchemaScaffold.Project

structure Manifest where
  name : String
  version : String
  description : String
  /-- Names and commands. -/
  scripts : List (String × String)
  /-- Names and versions of packages. -/
  dependencies : List (String × String)
  devDependencies : List (String × String)

namespace Manifest

/-- The manifest that every project extends. -/
def basic (name : String) : Manifest :=
  { name := name
    version := "1.0.0"
    description := "Express + Mongoose API"
    scripts := []
    dependencies :=
      [("express", "^4.18.2"), ("mongoose", "^7.5.0"), ("cors", "^2.8.5"), ("dotenv", "^16.3.1"),
       ("helmet", "^7.0.0"), ("morgan", "^1.10.0")]
    devDependencies := [] }

/-! ## What languages and features add -/

def addScripts (manifest : Manifest) (scripts : List (String × String)) : Manifest :=
  { manifest with scripts := manifest.scripts ++ scripts }

def addDependencies (manifest : Manifest) (packages : List (String × String)) : Manifest :=
  { manifest with dependencies := manifest.dependencies ++ packages }

def addDevDependencies (manifest : Manifest) (packages : List (String × String)) : Manifest :=
  { manifest with devDependencies := manifest.devDependencies ++ packages }

def withLanguage (manifest : Manifest) : Language → Manifest
  | .typeScript =>
      (manifest.addScripts
        [("start", "node dist/index.js"),
         ("dev", "ts-node-dev --respawn --transpile-only src/index.ts"),
         ("build", "tsc")]).addDevDependencies
        [("typescript", "^5.2.2"), ("ts-node-dev", "^2.0.0"), ("@types/node", "^20.5.9"),
         ("@types/express", "^4.17.17"), ("@types/cors", "^2.8.14"), ("@types/morgan", "^1.9.5")]
  | .javaScript =>
      (manifest.addScripts
        [("start", "node src/index.js"), ("dev", "nodemon src/index.js")]).addDevDependencies
        [("nodemon", "^3.0.1")]

def testCommand : String :=
  "node --experimental-vm-modules node_modules/jest/bin/jest.js"

/-- The packages of a feature: at run time, during development, and for types. -/
structure Requirements where
  scripts : List (String × String) := []
  dependencies : List (String × String) := []
  devDependencies : List (String × String) := []
  types : List (String × String) := []

def requirements : Feature → Requirements
  | .auth =>
      { dependencies := [("jsonwebtoken", "^9.0.2"), ("bcryptjs", "^2.4.3")]
        types := [("@types/jsonwebtoken", "^9.0.2"), ("@types/bcryptjs", "^2.4.3")] }
  | .swagger =>
      { dependencies := [("swagger-ui-express", "^5.0.0"), ("swagger-jsdoc", "^6.2.8")]
        types := [("@types/swagger-ui-express", "^4.1.3"), ("@types/swagger-jsdoc", "^6.0.1")] }
  | .docker => {}
  | .tests =>
      { scripts := [("test", testCommand)]
        devDependencies := [("jest", "^29.6.4"), ("supertest", "^6.3.3")]
        types :=
          [("@types/jest", "^29.5.4"), ("@types/supertest", "^2.0.12"), ("ts-jest", "^29.1.1")] }

def require (isTyped : Bool) (manifest : Manifest) (requirements : Requirements) : Manifest :=
  ((manifest.addScripts requirements.scripts).addDependencies
    requirements.dependencies).addDevDependencies
      (requirements.devDependencies ++ if isTyped then requirements.types else [])

/-- The order of the features does not depend on the order of enabling them. -/
def ofConfig (config : Config) : Manifest :=
  ((Feature.all.filter config.has).map requirements).foldl (require config.isTyped)
    ((basic config.projectName).withLanguage config.language)

/-! ## The written form -/

def entryLines (entries : List (String × String)) : String :=
  ",\n".intercalate (entries.map fun (key, value) => "    \"" ++ key ++ "\": \"" ++ value ++ "\"")

def member (name value : String) : String := "  \"" ++ name ++ "\": \"" ++ value ++ "\","

def group (name : String) (entries : List (String × String)) (ending : String) : List String :=
  ["  \"" ++ name ++ "\": \x7b", entryLines entries, "  \x7d" ++ ending]

def text (manifest : Manifest) : String :=
  textOfLines
    (["\x7b",
      member "name" manifest.name,
      member "version" manifest.version,
      member "description" manifest.description,
      member "type" "module"]
      ++ group "scripts" manifest.scripts ","
      ++ group "dependencies" manifest.dependencies ","
      ++ group "devDependencies" manifest.devDependencies ""
      ++ ["\x7d"])

def file (manifest : Manifest) : ProjectFile := ⟨["package.json"], manifest.text, false⟩

end Manifest

end SchemaScaffold.Project
