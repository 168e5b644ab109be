import SchemaScaffold.Json.Shape.OfText
import SchemaScaffold.Problem
import SchemaScaffold.Target
import SchemaScaffold.Text.Blank
import SchemaScaffold.Workspace.Path

/-! The link between a backend folder and the project whose schemas are synced
into it. -/

namespace SchemaScaffold

structure Link where
  projectId : String
  /-- The folder that the schema files are written to. -/
  path : String
  language : Language
  moduleSystem : ModuleSystem
  /-- When the link was made, in milliseconds. -/
  updatedAt : Nat

namespace Link

/-- Where the link is kept in a backend folder. -/
def location : String := ".dbdraw/config.json"

def defaultPath : String := "./models"

def idStart : String := "prj-"

def idLength : Nat := 28

/-- An id has a fixed start and a fixed length in bytes. -/
def isProjectId (id : String) : Bool := id.startsWith idStart && id.utf8ByteSize == idLength

def isValid (link : Link) : Bool := isProjectId link.projectId

def dropStarts : List Char → List Char
  | 'p' :: 'r' :: 'j' :: '-' :: rest => dropStarts rest
  | id => id

/-- An id without the start of ids, however often it has it. -/
def withoutStart (id : String) : String := String.ofList (dropStarts id.toList)

example : dropStarts (idStart.toList ++ idStart.toList ++ ['a']) = ['a'] := by decide

/-- The link to a project, given by its id without the usual start. A blank path
stands for the usual one, and typed sources always use declarations. -/
def toProject (remoteId path : String) (language : Language) (moduleSystem : ModuleSystem)
    (updatedAt : Nat) : Link :=
  let trimmed := String.ofList (Text.trim path.toList)
  { projectId := idStart ++ remoteId
    path := if trimmed.isEmpty then defaultPath else trimmed
    language := language
    moduleSystem := .effective language moduleSystem
    updatedAt := updatedAt }

def effectiveModuleSystem (link : Link) : ModuleSystem := .effective link.language link.moduleSystem

/-- The folder for schema files, seen from `base`. -/
def modelsFolder (link : Link) (base : String) : String := Workspace.Path.join base link.path

/-! ## The written form -/

@[reducible] def shape : Json.Shape :=
  .record "ProjectLink" <|
    .required "projectID" .text <|
    .optional "path" .text <|
    .optional "language" (.choice [Language.typeScript.name, Language.javaScript.name]) <|
    .optional "type" (.choice [ModuleSystem.commonJs.name, ModuleSystem.esModule.name]) <|
    .optional "updatedAt" .count .nil

def ofShape : shape.Denote → Link
  | (projectId, path, language, moduleSystem, updatedAt, ()) =>
      { projectId := projectId
        path := path.getD defaultPath
        language := (language.bind Language.ofText?).getD .javaScript
        moduleSystem := (moduleSystem.bind ModuleSystem.ofText?).getD .esModule
        updatedAt := updatedAt.getD 0 }

def toValue (link : Link) : Json.Value :=
  .object
    [("projectID", .string link.projectId),
     ("path", .string link.path),
     ("language", .string link.language.name),
     ("type", .string link.moduleSystem.name),
     ("updatedAt", .ofNat link.updatedAt)]

def text (link : Link) : String := link.toValue.pretty

def invalidIdMessage (id : String) : String :=
  s!"project id '{id}' must start with '{idStart}' and be {idLength} characters long"

/-- A link is accepted only with a valid project id. -/
def read (source : Source) : Except Problem Link :=
  match shape.ofText source.text with
  | .error fault => .error (.badLink (.ofFault source fault))
  | .ok carried =>
      let link := ofShape carried
      if link.isValid then .ok link
      else .error (.badLink ⟨source, none, invalidIdMessage link.projectId⟩)

end Link

end SchemaScaffold
