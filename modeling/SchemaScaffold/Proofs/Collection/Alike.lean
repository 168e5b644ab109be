import Mathlib.Data.List.Forall2
import SchemaScaffold.Project.Generation
import SchemaScaffold.Sync

/-! Which part of a collection generated code depends on. Collections are alike if
they agree in this part, and then everything that is generated from them is the same. -/

namespace SchemaScaffold

/-- A tag without a meaning is as good as any other. -/
inductive FieldKind.Alike : FieldKind → FieldKind → Prop
  | same (kind : FieldKind) : Alike kind kind
  | other (tag tag' : String) : Alike (.other tag) (.other tag')

/-- The id of a field, the spelling of its tag and a reference that its kind does not
use may differ. -/
structure Field.Alike (field field' : Field) : Prop where
  name : field'.name = field.name
  kind : field.kind.Alike field'.kind
  required : field'.required = field.required
  unique : field'.unique = field.unique
  list : field'.list = field.list
  default : field'.default = field.default
  target : field'.target? = field.target?

/-- Whatever is drawn about identity fields may differ as well. -/
structure Collection.Alike (collection collection' : Collection) : Prop where
  label : collection'.label = collection.label
  declared : List.Forall₂ Field.Alike collection.declared collection'.declared

/-! ## Fields -/

namespace FieldKind.Alike

variable {kind kind' : FieldKind}

theorem holdsId (alike : kind.Alike kind') : kind'.holdsId = kind.holdsId := by
  cases alike <;> rfl

theorem isRef (alike : kind.Alike kind') : (kind' == .ref) = (kind == .ref) := by
  cases alike <;> rfl

end FieldKind.Alike

namespace Field.Alike

open Schema

variable {field field' : Field}

theorem idToken_itemType (alike : field.Alike field') (token : IdToken) :
    token.itemType field' = token.itemType field := by
  have kinds := alike.kind
  rw [IdToken.itemType, IdToken.itemType]
  generalize field.kind = kind at kinds ⊢
  generalize field'.kind = kind' at kinds ⊢
  cases kinds <;> rfl

theorem owner_itemType (alike : field.Alike field') (owner : Owner) :
    owner.itemType field' = owner.itemType field := by
  have kinds := alike.kind
  rw [Owner.itemType, Owner.itemType, alike.target]
  generalize field.kind = kind at kinds ⊢
  generalize field'.kind = kind' at kinds ⊢
  cases kinds <;> rfl

theorem entry (alike : field.Alike field') (dialect : Dialect) :
    dialect.entry field' = dialect.entry field := by
  simp only [Dialect.entry, Dialect.options, Dialect.reference?, IdToken.fieldType,
    Field.defaultLiteral?, alike.idToken_itemType, alike.name, alike.list, alike.target,
    alike.required, alike.unique, alike.default]

theorem interfaceMember (alike : field.Alike field') (owner : Owner) :
    interfaceMember owner field' = interfaceMember owner field := by
  simp only [Schema.interfaceMember, Owner.memberType, alike.owner_itemType, alike.name,
    alike.list, alike.required]

end Field.Alike

/-! ## Collections -/

theorem map_eq_of_forall₂ {α β : Type} {related : α → α → Prop} {items items' : List α}
    (areRelated : List.Forall₂ related items items') {f : α → β}
    (reads : ∀ {item item'}, related item item' → f item' = f item) :
    items'.map f = items.map f := by
  induction areRelated with
  | nil => rfl
  | cons head _ rest => rw [List.map_cons, List.map_cons, reads head, rest]

namespace Collection.Alike

variable {collection collection' : Collection}

theorem pascal (alike : collection.Alike collection') : collection'.pascal = collection.pascal := by
  rw [Collection.pascal, alike.label, Collection.pascal]

theorem camel (alike : collection.Alike collection') : collection'.camel = collection.camel := by
  rw [Collection.camel, alike.label, Collection.camel]

theorem hasDeclared (alike : collection.Alike collection') :
    collection'.hasDeclared = collection.hasDeclared := by
  have declared := alike.declared
  rw [Collection.hasDeclared, Collection.hasDeclared]
  generalize collection.declared = fields at declared ⊢
  generalize collection'.declared = fields' at declared ⊢
  cases declared <;> rfl

theorem idFields (alike : collection.Alike collection') :
    collection'.idFields = collection.idFields := by
  have ids := List.rel_filter (R := Field.Alike) (p := fun field => field.kind.holdsId)
    (q := fun field => field.kind.holdsId)
    (fun field field' alike => by simp only [alike.kind.holdsId]) alike.declared
  exact map_eq_of_forall₂ ids fun alike => alike.name

theorem foreignTargets (alike : collection.Alike collection') :
    Schema.foreignTargets collection' = Schema.foreignTargets collection := by
  have throughMap (fields : List Field) :
      fields.filterMap Field.target? = (fields.map Field.target?).filterMap id := by
    rw [List.filterMap_map]
    rfl
  rw [Schema.foreignTargets, Schema.foreignTargets, throughMap, throughMap,
    map_eq_of_forall₂ alike.declared fun alike => alike.target, alike.pascal]

theorem entries (alike : collection.Alike collection') (dialect : Schema.Dialect) :
    dialect.entries collection' = dialect.entries collection :=
  map_eq_of_forall₂ alike.declared fun alike => alike.entry dialect

theorem interface (alike : collection.Alike collection') (owner : Schema.Owner) :
    Schema.interface owner collection' = Schema.interface owner collection := by
  rw [Schema.interface, Schema.interface,
    map_eq_of_forall₂ alike.declared fun alike => alike.interfaceMember owner]

/-! ## Emissions -/

theorem model (alike : collection.Alike collection') (language : Language) :
    Model.artifact collection' language = Model.artifact collection language := by
  have fileName : Model.fileName collection' language = Model.fileName collection language := by
    rw [Model.fileName, alike.camel, Model.fileName]
  have schemaName : Model.schemaName collection' = Model.schemaName collection := by
    rw [Model.schemaName, alike.pascal, Model.schemaName]
  have owner : Model.owner collection' = Model.owner collection := by
    rw [Model.owner, alike.pascal, alike.label, Model.owner]
  have imports : Model.imports collection' language = Model.imports collection language := by
    cases language with
    | typeScript => rw [Model.imports, alike.foreignTargets, Model.imports]
    | javaScript => rfl
  have preamble : Model.preamble collection' language = Model.preamble collection language := by
    cases language with
    | typeScript => rw [Model.preamble, owner, alike.interface, Model.preamble]
    | javaScript => rfl
  have declaration :
      Model.declaration collection' language = Model.declaration collection language := by
    unfold Model.declaration
    rw [schemaName, alike.entries, alike.label]
  have registration :
      Model.registration collection' language = Model.registration collection language := by
    unfold Model.registration Model.registeredName
    rw [schemaName, alike.pascal, alike.label]
  rw [Model.artifact, Model.artifact, Model.sourceFile, Model.sourceFile, Schema.hook, Schema.hook,
    fileName, imports, preamble, declaration, registration, schemaName, alike.pascal,
    alike.idFields]

theorem route (alike : collection.Alike collection') (config : Config) :
    Route.artifact collection' config = Route.artifact collection config := by
  have label := alike.label
  cases collection
  cases collection'
  cases label
  rfl

theorem controller (alike : collection.Alike collection') (language : Language) :
    Controller.artifact collection' language = Controller.artifact collection language := by
  have ids := alike.idFields
  have label := alike.label
  rw [Controller.artifact, Controller.sourceFile, Controller.referenceFields, ids]
  cases collection
  cases collection'
  cases label
  rfl

theorem schema (alike : collection.Alike collection') (moduleSystem : ModuleSystem)
    (language : Language) :
    StandaloneSchema.artifact collection' moduleSystem language
      = StandaloneSchema.artifact collection moduleSystem language := by
  have fileName : StandaloneSchema.fileName collection' language
      = StandaloneSchema.fileName collection language := by
    rw [StandaloneSchema.fileName, alike.pascal, StandaloneSchema.fileName]
  have schemaName : StandaloneSchema.schemaName collection'
      = StandaloneSchema.schemaName collection := by
    rw [StandaloneSchema.schemaName, alike.pascal, StandaloneSchema.schemaName]
  have owner : StandaloneSchema.owner collection' = StandaloneSchema.owner collection := by
    rw [StandaloneSchema.owner, alike.pascal, StandaloneSchema.owner]
  have declaration (constructor : String) :
      StandaloneSchema.declaration collection' language constructor
        = StandaloneSchema.declaration collection language constructor := by
    rw [StandaloneSchema.declaration, schemaName, alike.entries, StandaloneSchema.declaration]
  have hook : StandaloneSchema.hook collection' language
      = StandaloneSchema.hook collection language := by
    rw [StandaloneSchema.hook, StandaloneSchema.hook, Schema.hook, Schema.hook, schemaName,
      alike.idFields]
  have arguments : StandaloneSchema.registrationArguments collection'
      = StandaloneSchema.registrationArguments collection := by
    unfold StandaloneSchema.registrationArguments StandaloneSchema.registeredName
    rw [schemaName, Collection.storageName, alike.label, Collection.storageName]
  rw [StandaloneSchema.artifact, StandaloneSchema.artifact, fileName]
  cases language with
  | typeScript =>
      rw [StandaloneSchema.sourceFile, StandaloneSchema.sourceFile, StandaloneSchema.typedFile,
        StandaloneSchema.typedFile, alike.foreignTargets, owner, alike.interface, declaration, hook,
        arguments, alike.pascal]
  | javaScript =>
      unfold StandaloneSchema.sourceFile StandaloneSchema.untypedFile StandaloneSchema.registration
      rw [declaration, hook, arguments]

theorem emission (alike : collection.Alike collection') {artifact artifact' : Artifact}
    (same : artifact' = artifact) :
    Emission.ofCollection collection' artifact' = Emission.ofCollection collection artifact := by
  rw [Emission.ofCollection, Emission.ofCollection, alike.hasDeclared, alike.label, same]

theorem collectionFiles (alike : collection.Alike collection') (config : Config) :
    Project.collectionFiles config collection' = Project.collectionFiles config collection := by
  rw [Project.collectionFiles, Project.collectionFiles, Model.emit, Controller.emit, Route.emit,
    alike.emission (alike.model config.language), alike.emission (alike.controller config.language),
    alike.emission (alike.route config)]
  rfl

theorem mount (alike : collection.Alike collection') :
    Project.Mount.ofCollection collection' = Project.Mount.ofCollection collection := by
  have label := alike.label
  cases collection
  cases collection'
  cases label
  rfl

theorem includes (alike : collection.Alike collection') (selection : Selection) :
    selection.includes collection' = selection.includes collection := by
  cases selection with
  | all => rfl
  | named names => simp only [Selection.includes, Selection.refersTo, alike.label, alike.pascal]

end Collection.Alike

/-! ## Everything that is generated -/

/-- All emitters, previews and schema files are the same for both. -/
structure SameOutput (collections collections' : List Collection) : Prop where
  models : ∀ config, collections'.map (fun collection => Model.emit collection config)
    = collections.map fun collection => Model.emit collection config
  controllers : ∀ config, collections'.map (fun collection => Controller.emit collection config)
    = collections.map fun collection => Controller.emit collection config
  routes : ∀ config, collections'.map (fun collection => Route.emit collection config)
    = collections.map fun collection => Route.emit collection config
  schemas : ∀ moduleSystem language,
    collections'.map (fun collection => StandaloneSchema.emit collection moduleSystem language)
      = collections.map fun collection => StandaloneSchema.emit collection moduleSystem language
  preview : ∀ config, Project.preview collections' config = Project.preview collections config
  sync : ∀ language moduleSystem selection,
    let sync := Sync.make collections language moduleSystem selection
    let sync' := Sync.make collections' language moduleSystem selection
    sync'.files = sync.files ∧ sync'.skipped = sync.skipped

section Generated

variable {collections collections' : List Collection}

theorem files_of_alike (areAlike : List.Forall₂ Collection.Alike collections collections')
    (config : Config) : Project.files collections' config = Project.files collections config := by
  have declaring := List.rel_filter (R := Collection.Alike) (p := fun one => one.hasDeclared)
    (q := fun one => one.hasDeclared) (fun one other alike => by simp only [alike.hasDeclared])
    areAlike
  have mounts : Project.mounts collections' = Project.mounts collections := by
    rw [Project.mounts, Project.mounts, Project.Mount.ofCollections, Project.Mount.ofCollections,
      map_eq_of_forall₂ declaring fun alike => alike.mount]
  rw [Project.files, Project.files, List.flatMap_def, List.flatMap_def, mounts,
    map_eq_of_forall₂ areAlike fun alike => alike.collectionFiles config]

theorem preview_of_alike (areAlike : List.Forall₂ Collection.Alike collections collections')
    (config : Config) :
    Project.preview collections' config = Project.preview collections config := by
  have warnings : duplicateWarnings collections' = duplicateWarnings collections := by
    rw [duplicateWarnings, duplicateWarnings, repeatedLabels, repeatedLabels,
      map_eq_of_forall₂ areAlike fun alike => alike.label]
  have throughMap (collections : List Collection) : Project.skipped collections config
      = (collections.map fun collection => Model.emit collection config).filterMap
          Emission.skipped? := by
    rw [List.filterMap_map]
    rfl
  have skipped : Project.skipped collections' config = Project.skipped collections config := by
    rw [throughMap, throughMap]
    exact congrArg _ (map_eq_of_forall₂ areAlike fun alike =>
      alike.emission (alike.model config.language))
  rw [Project.preview, Project.preview, Project.report, Project.report, warnings, skipped,
    files_of_alike areAlike]

theorem emissions_of_alike (areAlike : List.Forall₂ Collection.Alike collections collections')
    (language : Language) (moduleSystem : ModuleSystem) (selection : Selection) :
    (Sync.make collections' language moduleSystem selection).emissions
      = (Sync.make collections language moduleSystem selection).emissions := by
  have selected := List.rel_filter (R := Collection.Alike)
    (p := fun one => selection.includes one) (q := fun one => selection.includes one)
    (fun one other alike => by simp only [alike.includes]) areAlike
  exact map_eq_of_forall₂ selected fun alike => alike.emission (alike.schema _ language)

theorem sameOutput_of_alike (areAlike : List.Forall₂ Collection.Alike collections collections') :
    SameOutput collections collections' where
  models config := map_eq_of_forall₂ areAlike fun alike =>
    alike.emission (alike.model config.language)
  controllers config := map_eq_of_forall₂ areAlike fun alike =>
    alike.emission (alike.controller config.language)
  routes config := map_eq_of_forall₂ areAlike fun alike => alike.emission (alike.route config)
  schemas moduleSystem language := map_eq_of_forall₂ areAlike fun alike =>
    alike.emission (alike.schema moduleSystem language)
  preview := preview_of_alike areAlike
  sync language moduleSystem selection := by
    have emissions := emissions_of_alike areAlike language moduleSystem selection
    exact ⟨congrArg (List.filterMap Emission.artifact?) emissions,
      congrArg (List.filterMap Emission.skipped?) emissions⟩

end Generated

/-! ## Changes without effect -/

/-- A change to the fields of a collection that means nothing. -/
inductive Unnoticed : List Field → List Field → Prop
  | identity (front behind : List Field) (field : Field) (isIdentity : field.name = "_id") :
      Unnoticed (front ++ behind) (front ++ field :: behind)
  | id (front behind : List Field) (field : Field) (id : Option String) :
      Unnoticed (front ++ field :: behind) (front ++ { field with id := id } :: behind)
  | tag (front behind : List Field) (field : Field) (tag : String)
      (alike : field.kind.Alike (.ofTag tag)) :
      Unnoticed (front ++ field :: behind) (front ++ { field with typeTag := tag } :: behind)
  | reference (front behind : List Field) (field : Field) (reference : Option String)
      (unused : field.kind ≠ .ref) :
      Unnoticed (front ++ field :: behind)
        (front ++ { field with reference := reference } :: behind)

theorem Field.Alike.refl (field : Field) : field.Alike field :=
  ⟨rfl, .same _, rfl, rfl, rfl, rfl, rfl⟩

theorem Collection.Alike.refl (collection : Collection) : collection.Alike collection :=
  ⟨rfl, List.forall₂_same.mpr fun field _ => .refl field⟩

theorem Field.Alike.isIdentity {field field' : Field} (alike : field.Alike field') :
    field'.isIdentity = field.isIdentity := by
  rw [Field.isIdentity, alike.name, Field.isIdentity]

theorem alike_of_replaced (label : String) (front behind : List Field) {field field' : Field}
    (alike : field.Alike field') :
    Collection.Alike ⟨label, front ++ field :: behind⟩ ⟨label, front ++ field' :: behind⟩ := by
  have same (fields : List Field) : List.Forall₂ Field.Alike fields fields :=
    List.forall₂_same.mpr fun field _ => .refl field
  have fields := List.rel_append (same front) (.cons alike (same behind))
  exact ⟨rfl, List.rel_filter (fun _ _ alike => by simp only [alike.isIdentity]) fields⟩

theorem alike_of_unnoticed (label : String) {fields fields' : List Field}
    (unnoticed : Unnoticed fields fields') :
    Collection.Alike ⟨label, fields⟩ ⟨label, fields'⟩ := by
  cases unnoticed with
  | identity front behind field isIdentity =>
      have declared : Collection.declared ⟨label, front ++ field :: behind⟩
          = Collection.declared ⟨label, front ++ behind⟩ := by
        simp [Collection.declared, Field.isIdentity, Field.identityName, isIdentity]
      refine ⟨rfl, ?_⟩
      rw [declared]
      exact List.forall₂_same.mpr fun field _ => .refl field
  | id front behind field id =>
      exact alike_of_replaced label front behind ⟨rfl, .same _, rfl, rfl, rfl, rfl, rfl⟩
  | tag front behind field tag alike =>
      refine alike_of_replaced label front behind ⟨rfl, alike, rfl, rfl, rfl, rfl, ?_⟩
      exact congrArg (fun isRef : Bool => if isRef then field.reference else none) alike.isRef
  | reference front behind field reference unused =>
      refine alike_of_replaced label front behind ⟨rfl, .same _, rfl, rfl, rfl, rfl, ?_⟩
      have noTarget (reference : Option String) :
          Field.target? { field with reference := reference } = none :=
        if_neg fun isRef => unused (eq_of_beq isRef)
      exact (noTarget reference).trans (noTarget field.reference).symm

/-- What generated code takes notice of in collections, and what it does not. -/
structure OnlyMeaningCounts (collections : List Collection) : Prop where
  alike : ∀ collections', List.Forall₂ Collection.Alike collections collections' →
    SameOutput collections collections'
  unnoticed : ∀ before label fields fields' after,
    collections = before ++ ⟨label, fields⟩ :: after → Unnoticed fields fields' →
      SameOutput collections (before ++ ⟨label, fields'⟩ :: after)

theorem only_meaning_counts (collections : List Collection) : OnlyMeaningCounts collections where
  alike _ := sameOutput_of_alike
  unnoticed before label fields fields' after equal unnoticed := by
    rw [equal]
    have same (collections : List Collection) :
        List.Forall₂ Collection.Alike collections collections :=
      List.forall₂_same.mpr fun collection _ => .refl collection
    exact sameOutput_of_alike
      (List.rel_append (same before) (.cons (alike_of_unnoticed label unnoticed) (same after)))

/-- An identity field, the case of a known tag, an unknown tag and a stray reference. -/
theorem only_meaning_counts_respelled :
    let drawn : Collection :=
      ⟨"Post",
        [{ name := "_id", typeTag := "string", required := true },
         { name := "author", typeTag := "REF", reference := some "User", id := some "f1" },
         { name := "score", typeTag := "decimal" }]⟩
    let respelled : Collection :=
      ⟨"Post",
        [{ name := "author", typeTag := "ref", reference := some "User" },
         { name := "score", typeTag := "money", reference := some "User" }]⟩
    List.Forall₂ Collection.Alike [drawn] [respelled] ∧ SameOutput [drawn] [respelled] := by
  have kinds : FieldKind.ofTag "REF" = .ref ∧ FieldKind.ofTag "ref" = .ref ∧
      FieldKind.ofTag "decimal" = .other "decimal" ∧ FieldKind.ofTag "money" = .other "money" := by
    decide +kernel
  rcases kinds with ⟨capital, small, decimal, money⟩
  intro drawn respelled
  have author : Field.Alike
      { name := "author", typeTag := "REF", reference := some "User", id := some "f1" }
      { name := "author", typeTag := "ref", reference := some "User" } := by
    refine ⟨rfl, ?_, rfl, rfl, rfl, rfl, ?_⟩
    · rw [Field.kind, Field.kind, capital, small]
      exact .same .ref
    · simp [Field.target?, Field.kind, capital, small]
  have score : Field.Alike { name := "score", typeTag := "decimal" }
      { name := "score", typeTag := "money", reference := some "User" } := by
    refine ⟨rfl, ?_, rfl, rfl, rfl, rfl, ?_⟩
    · rw [Field.kind, Field.kind, decimal, money]
      exact .other _ _
    · simp [Field.target?, Field.kind, decimal, money]
  have alike : drawn.Alike respelled := ⟨rfl, .cons author (.cons score .nil)⟩
  have areAlike : List.Forall₂ Collection.Alike [drawn] [respelled] := .cons alike .nil
  exact ⟨areAlike, (only_meaning_counts [drawn]).alike [respelled] areAlike⟩

end SchemaScaffold
