import SchemaScaffold.Proofs.Code.Texts
import SchemaScaffold.Proofs.Project.PlainSources
import SchemaScaffold.Proofs.Project.References
import SchemaScaffold.Proofs.Sync.Saving
import SchemaScaffold.Proofs.Text.SmallForms

/-! References between the schema files of a diagram. A file registers its model
under the label of its collection in small letters, and references keep the labels
as they were drawn, so a reference names a model only if its target's label was
drawn in small letters. -/

namespace SchemaScaffold

open Code

namespace StandaloneSchema

/-! ## The end of a file -/

/-- The statement that registers a model under a name, from its call on. -/
def registrationText (collection : Collection) (name : String) (language : Language) : String :=
  (match language with
    | .typeScript => "mongoose.model<" ++ collection.pascal ++ ">"
    | .javaScript => "mongoose.model")
    ++ ("(" ++ Json.stringLiteral name ++ ", " ++ schemaName collection ++ ")") ++ ";\n"

/-- The end of a line in front of the line feed. -/
theorem render_ended (text : String) : Code.render [.line (text ++ ";")] = text ++ ";\n" := by
  rw [render_line, String.append_assoc]
  rfl

/-- The last statement of a typed file is a constant. -/
theorem exists_end_typedFile (collection : Collection) :
    ∃ front, (typedFile collection).render
      = front ++ registrationText collection (registeredName collection) .typeScript := by
  let call := "mongoose.model<" ++ collection.pascal ++ ">" ++ registrationArguments collection
  let constant : Constant :=
    { name := collection.pascal
      value := call
      type := some ("mongoose.Model<" ++ collection.pascal ++ ">")
      exported := true }
  have plain : Lacks '\n' call := by
    have start : Lacks '\n' "mongoose.model<" := .of_literal rfl rfl
    have bracket : Lacks '\n' ">" := .of_literal rfl rfl
    exact ((start.append (lacks_pascal collection)).append bracket).append
      (lacks_registrationArguments collection)
  have notEmpty : call ≠ "" := by simp [call]
  have lines : constant.fragments = [.line (constant.head "" ++ call ++ ";")] := by
    rw [Constant.fragments, Constant.lines, lines_of_plain plain notEmpty]
    simp [Constant.head, ended]
  have isLast : (typedFile collection).sections.getLast? = some constant.fragments := rfl
  rcases exists_render_last isLast with ⟨front, printed⟩
  refine ⟨front ++ constant.head "", ?_⟩
  have parts : registrationText collection (registeredName collection) .typeScript
      = "mongoose.model<" ++ collection.pascal ++ ">" ++ registrationArguments collection ++ ";\n" :=
    rfl
  rw [printed, lines, render_ended, parts]
  simp only [call, String.append_assoc]

/-- An untyped file ends with its export. -/
theorem exists_end_untypedFile (collection : Collection) (moduleSystem : ModuleSystem) :
    ∃ front, (untypedFile collection moduleSystem).render
      = front ++ registrationText collection (registeredName collection) .javaScript := by
  have ends (start : String) (isLast : (untypedFile collection moduleSystem).sections.getLast?
      = some [.line (start ++ registration collection ++ ";")]) :
      ∃ front, (untypedFile collection moduleSystem).render
        = front ++ registrationText collection (registeredName collection) .javaScript := by
    rcases exists_render_last isLast with ⟨front, printed⟩
    have parts : registrationText collection (registeredName collection) .javaScript
        = registration collection ++ ";\n" := rfl
    refine ⟨front ++ start, ?_⟩
    rw [printed, render_ended, parts]
    simp only [String.append_assoc]
  cases moduleSystem with
  | commonJs => exact ends "module.exports = " rfl
  | esModule => exact ends "export default " rfl

theorem exists_end_artifact (collection : Collection) (moduleSystem : ModuleSystem)
    (language : Language) :
    ∃ front, (artifact collection moduleSystem language).content
      = front ++ registrationText collection (registeredName collection) language := by
  cases language with
  | typeScript => exact exists_end_typedFile collection
  | javaScript => exact exists_end_untypedFile collection moduleSystem

end StandaloneSchema

namespace Sync

/-! ## References and registrations -/

/-- The schema file of a selected collection. -/
structure IsSchemaOf (sync : Sync) (collection : Collection) (file : Artifact) : Prop where
  selected : collection ∈ sync.selected
  listed : file ∈ sync.files
  emitted : StandaloneSchema.emit collection sync.moduleSystem sync.language = .file file

/-- A schema file that ends by registering its model under a name. -/
structure Registers (sync : Sync) (collection : Collection) (file : Artifact) (name : String) :
    Prop extends IsSchemaOf sync collection file where
  named : StandaloneSchema.registeredName collection = name
  printed : ∃ front, file.content
    = front ++ StandaloneSchema.registrationText collection name sync.language

/-- A reference in one of the schema files. -/
def IsReference (sync : Sync) (name : String) : Prop :=
  ∃ collection file, IsSchemaOf sync collection file ∧ ∃ field ∈ collection.declared,
    "ref: " ++ Json.stringLiteral name ∈ (StandaloneSchema.dialect sync.language).options field

def IsRegistered (sync : Sync) (name : String) : Prop :=
  ∃ collection file, Registers sync collection file name

/-- What a reference has to do with the models that are registered. -/
structure LeadsToModel (sync : Sync) (name : String) : Prop where
  /-- It is the label of a collection, whose file registers the label in small letters. -/
  drawn : ∃ target file, target.label = name ∧ Registers sync target file (Text.lowercase name)
  registered_iff : IsRegistered sync name ↔ Text.lowercase name = name

variable {collections : List Collection} {language : Language} {moduleSystem : ModuleSystem}

theorem selected_make_all :
    (make collections language moduleSystem .all).selected = collections :=
  List.filter_eq_self.mpr fun _ _ => rfl

theorem registers_of_mem {sync : Sync} {collection : Collection} (known : collection ∈ sync.selected)
    (declares : collection.hasDeclared = true) :
    Registers sync collection (sync.schema collection) (Text.lowercase collection.label) where
  selected := known
  listed := mem_files.mpr ⟨collection, known, declares, rfl⟩
  emitted := if_pos declares
  named := rfl
  printed := StandaloneSchema.exists_end_artifact collection sync.moduleSystem sync.language

theorem reference_mem_options_iff {field : Field} {name : String} :
    "ref: " ++ Json.stringLiteral name ∈ (StandaloneSchema.dialect language).options field ↔
      field.target? = some name := by
  have spelling : (StandaloneSchema.dialect language).spelling = .label := by cases language <;> rfl
  rw [Schema.Dialect.ref_mem_options, Schema.Dialect.reference?, spelling, Option.map_eq_some_iff]
  constructor
  · rintro ⟨_, refers, rfl⟩
    exact refers
  · exact fun refers => ⟨name, refers, rfl⟩

/-- Registered names are in small letters. -/
theorem lowercase_of_isRegistered {sync : Sync} {name : String}
    (registered : IsRegistered sync name) : Text.lowercase name = name := by
  rcases registered with ⟨collection, file, registers⟩
  rw [← registers.named]
  exact Text.lowercase_lowercase collection.label

/-- Each reference leads to a file of the sync, and names its model just if it is in
small letters. -/
theorem references_lead_to_models {source : Source}
    (accepted : Diagram.readCollections source = .ok collections)
    (declare : ∀ collection ∈ collections, collection.hasDeclared = true) (language : Language)
    (moduleSystem : ModuleSystem) {name : String}
    (isReference : IsReference (make collections language moduleSystem .all) name) :
    LeadsToModel (make collections language moduleSystem .all) name := by
  rcases isReference with ⟨collection, file, isSchema, field, isDeclared, isPrinted⟩
  have known := isSchema.selected
  rw [selected_make_all] at known
  have refers := reference_mem_options_iff.mp isPrinted
  have isField : field ∈ collection.fields := List.mem_of_mem_filter isDeclared
  rcases Diagram.target_mem_collections accepted known isField refers with ⟨target, isTarget, rfl⟩
  have isSelected : target ∈ (make collections language moduleSystem .all).selected := by
    rwa [selected_make_all]
  have registers := registers_of_mem isSelected (declare target isTarget)
  refine ⟨⟨target, _, rfl, registers⟩, lowercase_of_isRegistered, fun small => ?_⟩
  rw [small] at registers
  exact ⟨target, _, registers⟩

/-- Posts refer to tags by their label. -/
theorem isReference_taggedPosts (language : Language) (moduleSystem : ModuleSystem) :
    IsReference (make [Project.tags "name", Project.posts] language moduleSystem .all) "Tag" := by
  let sync := make [Project.tags "name", Project.posts] language moduleSystem .all
  have known : Project.posts ∈ sync.selected := by
    rw [selected_make_all]
    simp
  have registers := registers_of_mem known rfl
  refine ⟨_, _, registers.toIsSchemaOf, _, List.mem_cons_self .., ?_⟩
  rw [reference_mem_options_iff, Field.target?, Field.kind, Project.ofTag_ref]
  rfl

theorem hasDeclared_taggedPosts :
    ∀ collection ∈ [Project.tags "name", Project.posts], collection.hasDeclared = true := by
  decide

theorem references_lead_to_models_taggedPosts :
    LeadsToModel (make [Project.tags "name", Project.posts] .typeScript .esModule .all) "Tag" :=
  references_lead_to_models (Project.readCollections_taggedPosts "name") hasDeclared_taggedPosts _ _
    (isReference_taggedPosts _ _)

/-- The model of the tags is registered as `tag`. -/
theorem references_name_no_model :
    ∃ collections,
      Diagram.readCollections ⟨"diagram.json", (Project.taggedPosts "name").compact⟩
          = .ok collections ∧
        (∀ collection ∈ collections, collection.hasDeclared = true) ∧
        ∀ language moduleSystem, ∃ name,
          IsReference (make collections language moduleSystem .all) name ∧
            ¬ IsRegistered (make collections language moduleSystem .all) name := by
  refine ⟨_, Project.readCollections_taggedPosts "name", hasDeclared_taggedPosts, ?_⟩
  refine fun language moduleSystem => ⟨"Tag", isReference_taggedPosts .., fun registered => ?_⟩
  have large : Text.lowercase "Tag" ≠ "Tag" := by decide +kernel
  exact large (lowercase_of_isRegistered registered)

end Sync

end SchemaScaffold
