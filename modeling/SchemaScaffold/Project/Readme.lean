import SchemaScaffold.Config
import SchemaScaffold.Operation
import SchemaScaffold.Project.File

/-! The introduction to a project: its features, how to start it and which
requests it serves. -/

namespace SchemaScaffold.Project

namespace Readme

def featureLines (config : Config) : List String :=
  "- CRUD endpoints for every collection"
    :: (Feature.all.filter config.has).map fun feature => "- " ++ feature.label

def hint (config : Config) (feature : Feature) (text : String) : List String :=
  if config.has feature then ["", text] else []

def startLines (config : Config) : List String :=
  ["```bash", "npm install", "cp .env.example .env", "npm run dev", "```"]
    ++ hint config .tests "Run the test suite with `npm test`."
    ++ hint config .docker "Or start the API with MongoDB using `docker compose up --build`."
    ++ hint config .swagger "API docs are served at `/api-docs`."

/-- The row of an operation in the table of requests. -/
def row (route : String) (operation : Operation) : String :=
  "| " ++ operation.verb.title ++ " | `" ++ route ++ operation.pathEnd ++ "` |"

/-- The operations on the whole collection come first. -/
def rows (route : String) : List String :=
  (Operation.onCollection ++ Operation.onRecord).map (row route)

def lines (config : Config) (routes : List String) : List String :=
  ["# " ++ config.projectName,
   "",
   "Express + Mongoose API written in " ++ config.language.title ++ ".",
   "",
   "## Features",
   ""]
    ++ featureLines config
    ++ ["", "## Getting started", ""]
    ++ startLines config
    ++ ["", "## Endpoints", "", "| Method | Path |", "|---|---|"]
    ++ routes.flatMap rows

end Readme

/-- The introduction is the user's once it exists. -/
def readme (config : Config) (routes : List String) : ProjectFile :=
  ⟨["README.md"], textOfLines (Readme.lines config routes), true⟩

end SchemaScaffold.Project
