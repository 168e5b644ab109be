import SchemaScaffold.Code.SourceFile
import SchemaScaffold.Config
import SchemaScaffold.Emission
import SchemaScaffold.Schema.Declaration

/-! The model of a collection in a project of its own. It is registered and
exported under the capitalized name. -/

namespace SchemaScaffold.Model

open Code

def fileName (collection : Collection) (language : Language) : String :=
  collection.camel ++ ".model." ++ language.extension

/-- How other sources name the file, whatever language it is written in. -/
def moduleName (collection : Collection) : String := fileName collection .javaScript

def interfaceName (label : String) : String := "I" ++ Naming.pascal label

def schemaName (collection : Collection) : String := collection.pascal ++ "Schema"

def dialect : Language → Schema.Dialect
  | .typeScript => ⟨.ofTypes, .pascal⟩
  | .javaScript => ⟨.ofSchema, .pascal⟩

def owner (collection : Collection) : Schema.Owner :=
  ⟨collection.pascal, interfaceName collection.label⟩

/-- The interface of a target, under the target's capitalized name. -/
def typeImport (target : String) : Import :=
  { source := "./" ++ Naming.camel target ++ ".model.js"
    named := [interfaceName target ++ " as " ++ Naming.pascal target]
    typeOnly := true }

def imports (collection : Collection) : Language → List Import
  | .typeScript =>
      { source := "mongoose", named := ["Schema", "model", "Document", "Types"] }
        :: (Schema.foreignTargets collection).map typeImport
  | .javaScript => [{ source := "mongoose", default := some "mongoose" }]

def declaration (collection : Collection) (language : Language) : Statement :=
  let constructor := match language with
    | .typeScript => "Schema<" ++ interfaceName collection.label ++ ">"
    | .javaScript => "Schema"
  Schema.declaration (schemaName collection) constructor
    ((dialect language).entries collection) (some Schema.timestamps)

def preamble (collection : Collection) : Language → Statement
  | .typeScript => .interface (Schema.interface (owner collection) collection)
  | .javaScript => .raw [.line "const \x7b Schema \x7d = mongoose;"]

/-- The name under which the datastore's driver knows the model. -/
def registeredName (collection : Collection) : String := collection.pascal

def registration (collection : Collection) (language : Language) : String :=
  (match language with
    | .typeScript => "model<" ++ interfaceName collection.label ++ ">"
    | .javaScript => "mongoose.model")
    ++ "(" ++ Json.stringLiteral (registeredName collection) ++ ", " ++ schemaName collection ++ ")"

def sourceFile (collection : Collection) (language : Language) : SourceFile :=
  { imports := imports collection language
    statements :=
      [preamble collection language,
       declaration collection language,
       .raw (Schema.hook (schemaName collection) collection language.isTyped),
       .constant
        { name := collection.pascal
          value := registration collection language
          exported := true }] }

def artifact (collection : Collection) (language : Language) : Artifact :=
  ⟨fileName collection language, (sourceFile collection language).render⟩

def emit (collection : Collection) (config : Config) : Emission :=
  .ofCollection collection (artifact collection config.language)

end SchemaScaffold.Model
