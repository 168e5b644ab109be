import SchemaScaffold.Code.SourceFile
import SchemaScaffold.Config
import SchemaScaffold.Emission
import SchemaScaffold.Schema.Declaration

/-! The schema of a collection as a single file for an existing project. The
model is registered under the collection's name in the datastore, and
references keep the labels of their targets. -/

namespace SchemaScaffold.StandaloneSchema

open Code

def fileName (collection : Collection) (language : Language) : String :=
  collection.pascal ++ "." ++ language.extension

def schemaName (collection : Collection) : String := collection.pascal ++ "Schema"

def dialect : Language → Schema.Dialect
  | .typeScript => ⟨.ofSchema, .label⟩
  | .javaScript => ⟨.ofDriver, .label⟩

def owner (collection : Collection) : Schema.Owner := ⟨collection.pascal, collection.pascal⟩

def registeredName (collection : Collection) : String := collection.storageName

def registrationArguments (collection : Collection) : String :=
  "(" ++ Json.stringLiteral (registeredName collection) ++ ", " ++ schemaName collection ++ ")"

def declaration (collection : Collection) (language : Language) (constructor : String) :
    Statement :=
  Schema.declaration (schemaName collection) constructor
    ((dialect language).entries collection) none

def hook (collection : Collection) (language : Language) : Statement :=
  .raw (Schema.hook (schemaName collection) collection language.isTyped)

/-! ## Typed files -/

def typeImport (target : String) : Import :=
  { source := "./" ++ Naming.pascal target ++ ".js"
    named := [Naming.pascal target]
    typeOnly := true }

def typedFile (collection : Collection) : SourceFile :=
  { imports :=
      { source := "mongoose", default := some "mongoose", named := ["Document", "Schema", "Types"] }
        :: (Schema.foreignTargets collection).map typeImport
    statements :=
      [.interface (Schema.interface (owner collection) collection),
       declaration collection .typeScript ("Schema<" ++ collection.pascal ++ ">"),
       hook collection .typeScript,
       .constant
        { name := collection.pascal
          value := "mongoose.model<" ++ collection.pascal ++ ">"
            ++ registrationArguments collection
          type := some ("mongoose.Model<" ++ collection.pascal ++ ">")
          exported := true }] }

/-! ## Untyped files -/

def registration (collection : Collection) : String :=
  "mongoose.model" ++ registrationArguments collection

def untypedFile (collection : Collection) (moduleSystem : ModuleSystem) : SourceFile :=
  { imports :=
      [{ source := "mongoose", default := some "mongoose", moduleSystem := moduleSystem }]
    statements :=
      [declaration collection .javaScript "mongoose.Schema", hook collection .javaScript]
    exports := [match moduleSystem with
      | .commonJs => { moduleValue := some (registration collection) }
      | .esModule => { default := some (registration collection) }] }

/-- Typed files always use declarations, so the module system is for the others. -/
def sourceFile (collection : Collection) (moduleSystem : ModuleSystem) : Language → SourceFile
  | .typeScript => typedFile collection
  | .javaScript => untypedFile collection moduleSystem

def artifact (collection : Collection) (moduleSystem : ModuleSystem) (language : Language) :
    Artifact :=
  ⟨fileName collection language, (sourceFile collection moduleSystem language).render⟩

def emit (collection : Collection) (moduleSystem : ModuleSystem) (language : Language) :
    Emission :=
  .ofCollection collection (artifact collection moduleSystem language)

end SchemaScaffold.StandaloneSchema
