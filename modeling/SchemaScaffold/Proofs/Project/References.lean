import SchemaScaffold.Project
import SchemaScaffold.Proofs.Diagram.Formats
import SchemaScaffold.Proofs.Diagram.Targets
import SchemaScaffold.Proofs.Json.Delimiters

/-! References between the models of a project. A collection without fields of
its own has no model, but models of other collections may still refer to it. -/

namespace SchemaScaffold

/-! ## References as they are printed -/

namespace Schema.Dialect

theorem ref_mem_options {dialect : Dialect} {field : Field} {name : String} :
    "ref: " ++ Json.stringLiteral name ∈ dialect.options field ↔
      dialect.reference? field = some name := by
  constructor
  · intro isOption
    simp only [options, List.mem_append, List.mem_singleton, List.mem_map,
      Option.mem_toList] at isOption
    rcases isOption with
      (((isType | ⟨printed, refers, isReference⟩) | isRequired) | isUnique) |
        ⟨literal, _, isDefault⟩
    · exact absurd (congrArg String.toList isType) (by simp)
    · rw [refers, Json.stringLiteral_injective (String.append_right_inj _ |>.mp isReference)]
    · split at isRequired
      · rw [List.mem_singleton] at isRequired
        exact absurd (congrArg String.toList isRequired) (by simp)
      · cases isRequired
    · split at isUnique
      · rw [List.mem_singleton] at isUnique
        exact absurd (congrArg String.toList isUnique) (by simp)
      · cases isUnique
    · exact absurd (congrArg String.toList isDefault) (by simp)
  · intro refers
    simp [options, refers]

end Schema.Dialect

namespace Schema

/-- Foreign targets come from the declared fields. -/
theorem target_of_mem_foreignTargets {collection : Collection} {target : String}
    (isForeign : target ∈ foreignTargets collection) :
    ∃ field ∈ collection.declared, field.target? = some target := by
  have fromList : ∀ targets found : List String,
      target ∈ targets.foldl (addTarget collection.pascal) found →
        target ∈ found ∨ target ∈ targets := by
    intro targets
    induction targets with
    | nil => exact fun _ isFound => .inl isFound
    | cons head rest induction =>
        intro found isFound
        rw [List.foldl_cons] at isFound
        rcases induction _ isFound with added | later
        · rw [addTarget] at added
          split at added
          · exact .inl added
          · rcases List.mem_append.mp added with before | here
            · exact .inl before
            · rw [List.mem_singleton.mp here]
              exact .inr (List.mem_cons_self ..)
        · exact .inr (List.mem_cons_of_mem _ later)
  rcases fromList _ [] isForeign with isFound | isTarget
  · cases isFound
  · exact List.mem_filterMap.mp isTarget

end Schema

/-! ## The models of a project -/

namespace Project

variable {collections : List Collection} {config : Config}

/-- A file of the project that holds the model of a collection. -/
structure IsModel (collections : List Collection) (config : Config) (collection : Collection)
    (file : ProjectFile) : Prop where
  known : collection ∈ collections
  listed : file ∈ files collections config
  emitted : ∃ artifact, Model.emit collection config = .file artifact ∧
    file = .ofArtifact "models" artifact

/-- Each reference that a model prints is a name under which the project registers
a model. -/
def ReferencesRegistered (collections : List Collection) (config : Config) : Prop :=
  ∀ collection file, IsModel collections config collection file →
    ∀ field ∈ collection.declared, ∀ name,
      "ref: " ++ Json.stringLiteral name ∈ (Model.dialect config.language).options field →
        ∃ target targetFile, IsModel collections config target targetFile ∧
          Model.registeredName target = name

/-- Each file that a typed model imports types from is in the project. Imports
name it with the extension of the compiled file. -/
def ImportsResolved (collections : List Collection) (config : Config) : Prop :=
  config.language = .typeScript →
    ∀ collection file, IsModel collections config collection file →
      ∀ statement ∈ (Model.sourceFile collection config.language).imports,
        statement.typeOnly = true →
          ∃ stem, statement.source = "./" ++ stem ++ ".js" ∧
            ∃ target ∈ files collections config,
              target.segments = ["src", "models", stem ++ ".ts"]

def ReferencesClosed (collections : List Collection) (config : Config) : Prop :=
  ReferencesRegistered collections config ∧ ImportsResolved collections config

/-- Whatever is referred to has a field of its own, or shares its name with a
collection that has. -/
def TargetsDeclareFields (collections : List Collection) : Prop :=
  ∀ collection ∈ collections, ∀ field ∈ collection.declared, ∀ target ∈ collections,
    field.target? = some target.label →
      ∃ emitted ∈ collections, emitted.hasDeclared = true ∧ emitted.pascal = target.pascal

/-- The model of a collection is in the project just if the collection declares
fields. -/
theorem exists_isModel_iff (config : Config) {collection : Collection}
    (known : collection ∈ collections) :
    (∃ file, IsModel collections config collection file) ↔ collection.hasDeclared = true := by
  constructor
  · intro hasModel
    rcases hasModel with ⟨file, _, _, artifact, emitted, _⟩
    rw [Model.emit, Emission.ofCollection] at emitted
    split at emitted
    · assumption
    · cases emitted
  · intro declares
    have emitted : Model.emit collection config
        = .file (Model.artifact collection config.language) := by
      rw [Model.emit, Emission.ofCollection, if_pos declares]
    refine ⟨_, known, ?_, _, emitted, rfl⟩
    apply List.mem_append_left
    apply List.mem_flatMap.mpr
    refine ⟨collection, known, ?_⟩
    apply List.mem_filterMap.mpr
    refine ⟨("models", Model.emit collection config), List.mem_cons_self .., ?_⟩
    rw [emitted]
    rfl

theorem hasDeclared_of_mem {collection : Collection} {field : Field}
    (isDeclared : field ∈ collection.declared) : collection.hasDeclared = true := by
  cases declared : collection.declared with
  | nil =>
      rw [declared] at isDeclared
      cases isDeclared
  | cons _ _ => simp [Collection.hasDeclared, declared]

theorem reference_mem_options_iff {field : Field} {name : String} :
    "ref: " ++ Json.stringLiteral name ∈ (Model.dialect config.language).options field ↔
      ∃ target, field.target? = some target ∧ Naming.pascal target = name := by
  rw [Schema.Dialect.ref_mem_options, Schema.Dialect.reference?, Option.map_eq_some_iff]
  cases config.language <;> rfl

/-- The names that models refer to are registered just if every collection that
is referred to has a name under which a model is emitted. -/
theorem referencesRegistered_iff :
    ReferencesRegistered collections config ↔
      ∀ collection ∈ collections, ∀ field ∈ collection.declared, ∀ target,
        field.target? = some target →
          ∃ emitted ∈ collections, emitted.hasDeclared = true ∧
            emitted.pascal = Naming.pascal target := by
  constructor
  · intro registered collection known field isDeclared target refers
    rcases (exists_isModel_iff config known).mpr (hasDeclared_of_mem isDeclared) with
      ⟨file, isModel⟩
    rcases registered collection file isModel field isDeclared (Naming.pascal target)
        (reference_mem_options_iff.mpr ⟨target, refers, rfl⟩) with
      ⟨emitted, emittedFile, isEmitted, sameName⟩
    exact ⟨emitted, isEmitted.known, (exists_isModel_iff config isEmitted.known).mp ⟨_, isEmitted⟩,
      sameName⟩
  · intro emits collection file isModel field isDeclared name isPrinted
    rcases reference_mem_options_iff.mp isPrinted with ⟨target, refers, rfl⟩
    rcases emits collection isModel.known field isDeclared target refers with
      ⟨emitted, known, declares, sameName⟩
    rcases (exists_isModel_iff config known).mpr declares with ⟨file, isEmitted⟩
    exact ⟨emitted, file, isEmitted, sameName⟩

/-- Imports follow the references, so they are resolved whenever these are. -/
theorem importsResolved_of_registered (registered : ReferencesRegistered collections config) :
    ImportsResolved collections config := by
  rw [referencesRegistered_iff] at registered
  intro typed collection file isModel statement isImport typeOnly
  rw [Model.sourceFile, typed] at isImport
  rcases List.mem_cons.mp isImport with rfl | isForeign
  · cases typeOnly
  · rcases List.mem_map.mp isForeign with ⟨target, isTarget, rfl⟩
    rcases Schema.target_of_mem_foreignTargets isTarget with ⟨field, isDeclared, refers⟩
    rcases registered collection isModel.known field isDeclared target refers with
      ⟨emitted, known, declares, sameName⟩
    rcases (exists_isModel_iff config known).mpr declares with
      ⟨file, isEmitted⟩
    refine ⟨Naming.camel target ++ ".model", ?_, file, isEmitted.listed, ?_⟩
    · simp [Model.typeImport, String.append_assoc]
    · rcases isEmitted.emitted with ⟨artifact, isArtifact, rfl⟩
      rw [Model.emit, Emission.ofCollection, if_pos declares] at isArtifact
      rw [← Emission.file.inj isArtifact]
      have sameStem : emitted.camel = Naming.camel target := Naming.camel_eq_of_pascal_eq sameName
      simp [ProjectFile.ofArtifact, Model.artifact, Model.fileName, sameStem, typed,
        Language.extension, String.append_assoc]

/-- The references of a project are closed just if every collection that is
referred to declares a field, or shares its name with one that does. -/
theorem referencesClosed_iff {source : Source}
    (accepted : Diagram.readCollections source = .ok collections) (config : Config) :
    ReferencesClosed collections config ↔ TargetsDeclareFields collections := by
  constructor
  · intro closed collection known field isDeclared target _ refers
    exact referencesRegistered_iff.mp closed.1 collection known field isDeclared _ refers
  · intro declare
    have registered : ReferencesRegistered collections config := by
      rw [referencesRegistered_iff]
      intro collection known field isDeclared label refers
      have isField : field ∈ collection.fields := List.mem_of_mem_filter isDeclared
      rcases Diagram.target_mem_collections accepted known isField refers with
        ⟨target, isTarget, rfl⟩
      exact declare collection known field isDeclared target isTarget refers
    exact ⟨registered, importsResolved_of_registered registered⟩

/-- Posts refer to tags, which have one field. -/
def taggedPosts (fieldName : String) : Json.Value :=
  .object
    [("edges", .array
      [.object
        [("source", .string "1"), ("target", .string "2"), ("targetHandle", .string "target-0")]]),
     ("nodes", .array
      [.object
        [("data", .object
          [("fields", .array [.object [("name", .string fieldName), ("type", .string "string")]]),
           ("label", .string "Tag")]),
         ("id", .string "1")],
       .object
        [("data", .object
          [("fields", .array [.object [("name", .string "tag"), ("type", .string "ref")]]),
           ("label", .string "Post")]),
         ("id", .string "2")]])]

def tags (fieldName : String) : Collection := ⟨"Tag", [{ name := fieldName, typeTag := "string" }]⟩

def posts : Collection :=
  ⟨"Post", [{ name := "tag", typeTag := "ref", reference := some "Tag" }]⟩

theorem ofTag_ref : FieldKind.ofTag "ref" = .ref := by
  decide +kernel

open Json.Value.Everywhere in
theorem readCollections_taggedPosts (fieldName : String) :
    Diagram.readCollections ⟨"diagram.json", (taggedPosts fieldName).compact⟩
      = .ok [tags fieldName, posts] := by
  have sorted : (taggedPosts fieldName).Sorted := by
    simp only [Json.Value.Sorted, taggedPosts, string_iff, array_iff, object_iff, Json.Value.keys,
      List.forall_mem_cons, List.not_mem_nil, false_implies, implies_true, and_true, List.map]
    decide
  have integral : (taggedPosts fieldName).Integral := by
    simp [Json.Value.Integral, taggedPosts, string_iff, array_iff, object_iff,
      Json.Value.HasStoredNumber]
  have shallow : (taggedPosts fieldName).nesting ≤ 127 := by
    simp [taggedPosts, Json.Value.nesting, Json.Value.nestingOfItems,
      Json.Value.nestingOfMembers]
  have firstHandle : Diagram.handle 0 = "target-0" := by decide +kernel
  rw [Diagram.readCollections_compact "diagram.json" sorted integral shallow rfl]
  simp [Diagram.collections, Diagram.collectionsWith, Diagram.collectionOf, Diagram.ofShape,
    Node.ofShape, Edge.ofShape, DrawnField.ofShape, DrawnField.toField, DrawnField.defaultValue?,
    Diagram.resolveByHandle, Diagram.edgeTo?, Diagram.node?, ofTag_ref, firstHandle, tags,
    posts]

def typedConfig : Config := ⟨"demo", .typeScript, .empty, "demo"⟩

theorem referencesClosed_taggedPosts :
    Diagram.readCollections ⟨"diagram.json", (taggedPosts "name").compact⟩
        = .ok [tags "name", posts] ∧
      ReferencesClosed [tags "name", posts] typedConfig := by
  have accepted := readCollections_taggedPosts "name"
  refine ⟨accepted, (referencesClosed_iff accepted typedConfig).mpr ?_⟩
  intro _ _ _ _ target known _
  have declare : ∀ target ∈ [tags "name", posts], target.hasDeclared = true := by
    simp [tags, posts, Collection.hasDeclared, Collection.declared, Field.isIdentity,
      Field.identityName]
  exact ⟨target, known, declare target known, rfl⟩

/-- If tags only have the identity field, the model of posts refers to a model
that does not exist, and imports from a file that is not there. -/
theorem references_dangle :
    ∃ collections,
      Diagram.readCollections ⟨"diagram.json", (taggedPosts "_id").compact⟩ = .ok collections ∧
        ¬ ReferencesRegistered collections typedConfig ∧
        ¬ ImportsResolved collections typedConfig := by
  have known : posts ∈ [tags "_id", posts] := by simp
  refine ⟨_, readCollections_taggedPosts "_id", ?_, ?_⟩
  · rw [referencesRegistered_iff]
    intro registered
    rcases registered posts known _ (List.mem_cons_self ..) "Tag"
      (by simp [Field.target?, Field.kind, ofTag_ref]) with ⟨emitted, isCollection, declares, sameName⟩
    rcases List.mem_pair.mp isCollection with rfl | rfl
    · cases declares
    · revert sameName
      decide +kernel
  · intro resolved
    have declares : posts.hasDeclared = true := rfl
    rcases (exists_isModel_iff typedConfig known).mpr declares with ⟨file, isModel⟩
    have foreign : Schema.foreignTargets posts = ["Tag"] := by decide +kernel
    have isImport : Model.typeImport "Tag"
        ∈ (Model.sourceFile posts typedConfig.language).imports := by
      simp [Model.sourceFile, Model.imports, typedConfig, foreign]
    rcases resolved rfl posts file isModel _ isImport rfl with
      ⟨stem, sameSource, target, isListed, segments⟩
    have sameStem : stem = "tag.model" := by
      have source : (Model.typeImport "Tag").source = "./" ++ "tag.model" ++ ".js" := by
        decide +kernel
      rw [source, String.append_left_inj, String.append_right_inj] at sameSource
      exact sameSource.symm
    have missing : ["src", "models", "tag.model.ts"]
        ∉ (files [tags "_id", posts] typedConfig).map ProjectFile.segments := by
      decide +kernel
    apply missing
    rw [List.mem_map]
    exact ⟨target, isListed, by rw [segments, sameStem]; rfl⟩

end Project

end SchemaScaffold
