import Mathlib.Data.List.Basic
import Mathlib.Data.Set.Insert
import SchemaScaffold.Project.Generation
import SchemaScaffold.Proofs.Project.FileNames

/-! Features are switches that do not touch each other. Every file reads some of the
features, and what it looks like is settled once these are. So a feature only matters
at the places of the files that read it. -/

namespace SchemaScaffold

/-- Configs that differ in their features at most, and not in those that are read. -/
structure Config.AgreeOn (config config' : Config) (read : Set Feature) : Prop where
  projectName : config'.projectName = config.projectName
  language : config'.language = config.language
  has : ∀ feature ∈ read, config'.has feature = config.has feature

namespace Config.AgreeOn

variable {config config' : Config} {read : Set Feature}

theorem mono {kept : Set Feature} (agree : config.AgreeOn config' kept) (isKept : read ⊆ kept) :
    config.AgreeOn config' read :=
  ⟨agree.projectName, agree.language, fun feature isRead => agree.has feature (isKept isRead)⟩

theorem isTyped (agree : config.AgreeOn config' read) : config'.isTyped = config.isTyped := by
  rw [Config.isTyped, agree.language, Config.isTyped]

theorem extension (agree : config.AgreeOn config' read) :
    config'.extension = config.extension := by
  rw [Config.extension, agree.language, Config.extension]

end Config.AgreeOn

namespace Project

open Workspace

variable {config config' : Config}

/-! ## What the files read -/

theorem route_congr (agree : config.AgreeOn config' {.auth, .swagger}) (collection : Collection) :
    Route.artifact collection config' = Route.artifact collection config := by
  have auth := agree.has .auth (by simp)
  have swagger := agree.has .swagger (by simp)
  simp only [Route.artifact, Route.sourceFile, Route.collectionRemarks, Route.recordRemarks,
    agree.language, auth, swagger]

/-- Only the documentation server tells how requests are authorized. -/
def appReads (config : Config) : Set Feature :=
  {feature | feature = .swagger ∨ feature = .auth ∧ config.has .swagger = true}

theorem app_congr (agree : config.AgreeOn config' (appReads config)) (mounts : List Mount) :
    app config' mounts = app config mounts := by
  have swagger := agree.has .swagger (.inl rfl)
  cases on : config.has .swagger with
  | false =>
      simp only [app, App.sourceFile, App.imports, agree.extension, swagger, on, Bool.false_eq_true,
        if_false]
  | true =>
      have auth := agree.has .auth (.inr ⟨rfl, on⟩)
      have documented : App.documentation config' = App.documentation config := by
        simp only [App.documentation, App.specificationConstant, App.specificationText,
          App.specification, agree.projectName, agree.extension, auth]
      simp only [app, App.sourceFile, App.imports, agree.extension, swagger, documented]

/-- Containers need no packages. -/
theorem ofConfig_eq (config : Config) :
    Manifest.ofConfig config
      = (([.auth, .swagger, .tests].filter config.has).map Manifest.requirements).foldl
          (Manifest.require config.isTyped)
          ((Manifest.basic config.projectName).withLanguage config.language) := by
  have containers (manifest : Manifest) :
      (([Feature.docker].filter config.has).map Manifest.requirements).foldl
        (Manifest.require config.isTyped) manifest = manifest := by
    cases on : config.has .docker <;>
      simp [on, Manifest.require, Manifest.requirements, Manifest.addScripts,
        Manifest.addDependencies, Manifest.addDevDependencies]
  have all : Feature.all = [.auth, .swagger] ++ [.docker] ++ [.tests] := rfl
  have others : [Feature.auth, .swagger, .tests] = [.auth, .swagger] ++ [.tests] := rfl
  rw [Manifest.ofConfig, all, others]
  simp only [List.filter_append, List.map_append, List.foldl_append, containers]

theorem manifest_congr (agree : config.AgreeOn config' {.auth, .swagger, .tests}) :
    Manifest.ofConfig config' = Manifest.ofConfig config := by
  have same : ∀ feature ∈ [Feature.auth, .swagger, .tests],
      config'.has feature = config.has feature := by
    simpa using agree.has
  rw [ofConfig_eq, ofConfig_eq, List.filter_congr same, agree.isTyped, agree.projectName,
    agree.language]

theorem environmentVariables_congr (agree : config.AgreeOn config' {.auth}) (secret : String) :
    environmentVariables config' secret = environmentVariables config secret := by
  rw [environmentVariables, environmentVariables, agree.projectName, agree.has .auth rfl]

theorem ignoreList_congr (agree : config.AgreeOn config' {.tests}) :
    ignoreList config' = ignoreList config := by
  simp only [ignoreList, ignoredPatterns, agree.isTyped, agree.has .tests rfl]

theorem readme_congr (agree : config.AgreeOn config' Set.univ) (routes : List String) :
    readme config' routes = readme config routes := by
  have has : config'.has = config.has := by
    funext feature
    exact agree.has feature (Set.mem_univ feature)
  simp only [readme, Readme.lines, Readme.featureLines, Readme.startLines, Readme.hint, has,
    agree.projectName, agree.language]

/-! ## Places -/

def routePlaces (collections : List Collection) (language : Language) : List (List String) :=
  (collections.filter Collection.hasDeclared).map fun collection =>
    ["src", "routes", Route.fileName collection language]

/-- Where the files are that a feature has a say in. -/
def affectedPlaces (collections : List Collection) (config : Config) :
    Feature → List (List String)
  | .auth =>
      ["src", "middleware", "auth." ++ config.extension]
        :: (routePlaces collections config.language
          ++ (if config.has .swagger then [["src", "app." ++ config.extension]] else [])
          ++ [["package.json"], [".env"], [".env.example"], ["README.md"]])
  | .swagger =>
      routePlaces collections config.language
        ++ [["src", "app." ++ config.extension], ["package.json"], ["README.md"]]
  | .docker => [["Dockerfile"], ["docker-compose.yml"], ["README.md"]]
  | .tests =>
      [["jest.config.js"], ["tests", "integration", "app.test." ++ config.extension],
       ["tests", "unit", ".gitkeep"], ["package.json"], [".gitignore"], ["README.md"]]

/-- The files that are at none of the places. -/
def elsewhere (places : List (List String)) (files : List ProjectFile) : List ProjectFile :=
  files.filter fun file => !places.contains file.segments

/-- The files are the same ones in the same order, apart from some places. -/
def AgreeElsewhere (places : List (List String)) (files files' : List ProjectFile) : Prop :=
  elsewhere places files' = elsewhere places files

theorem elsewhere_eq_nil {places : List (List String)} {files : List ProjectFile}
    (isAt : ∀ file ∈ files, file.segments ∈ places) : elsewhere places files = [] := by
  rw [elsewhere, List.filter_eq_nil_iff]
  intro file isFile
  simp [isAt file isFile]

namespace AgreeElsewhere

variable {places : List (List String)} {file file' : ProjectFile}
variable {files files' behind behind' : List ProjectFile}

theorem refl (files : List ProjectFile) : AgreeElsewhere places files files := rfl

theorem append (front : AgreeElsewhere places files files')
    (rest : AgreeElsewhere places behind behind') :
    AgreeElsewhere places (files ++ behind) (files' ++ behind') := by
  rw [AgreeElsewhere, elsewhere, elsewhere] at front rest ⊢
  rw [List.filter_append, List.filter_append, front, rest]

theorem cons (same : file'.segments = file.segments)
    (equal : file.segments ∉ places → file' = file) (rest : AgreeElsewhere places files files') :
    AgreeElsewhere places (file :: files) (file' :: files') := by
  have first : AgreeElsewhere places [file] [file'] := by
    by_cases isAt : file.segments ∈ places
    · simp [AgreeElsewhere, elsewhere, same, isAt]
    · rw [equal isAt]
      exact .refl _
  exact first.append rest

theorem flatMap {filesOf filesOf' : Collection → List ProjectFile} {collections : List Collection}
    (agree : ∀ collection ∈ collections,
      AgreeElsewhere places (filesOf collection) (filesOf' collection)) :
    AgreeElsewhere places (collections.flatMap filesOf) (collections.flatMap filesOf') := by
  rw [AgreeElsewhere, elsewhere, elsewhere, List.filter_flatMap, List.filter_flatMap]
  exact List.flatMap_congr agree

theorem whenHas {feature : Feature} (same : config'.has feature = config.has feature ∨
    ∀ file ∈ files, file.segments ∈ places) :
    AgreeElsewhere places (whenHas config feature files) (whenHas config' feature files) := by
  rcases same with same | isAt
  · rw [Project.whenHas, Project.whenHas, same]
    exact .refl _
  · rw [AgreeElsewhere, elsewhere_eq_nil (forall_mem_whenHas fun _ => isAt),
      elsewhere_eq_nil (forall_mem_whenHas fun _ => isAt)]

end AgreeElsewhere

/-! ## Whole projects -/

section Changed

variable {collections : List Collection} {changed : List Feature} {read : Set Feature}

/-- Where the files are that the changed features have a say in. -/
def changedPlaces (collections : List Collection) (config : Config) (changed : List Feature) :
    List (List String) :=
  changed.flatMap (affectedPlaces collections config)

/-- A file reads nothing that is changed if it is at none of these places. -/
theorem agreeOn_of_not_mem (agree : config.AgreeOn config' {feature | feature ∉ changed})
    {place : List String}
    (affected : ∀ feature ∈ read, place ∈ affectedPlaces collections config feature)
    (notThere : place ∉ changedPlaces collections config changed) :
    config.AgreeOn config' read := by
  refine agree.mono fun feature isRead isChanged => notThere ?_
  exact List.mem_flatMap.mpr ⟨feature, isChanged, affected feature isRead⟩

theorem collectionFiles_agree (agree : config.AgreeOn config' {feature | feature ∉ changed})
    {collection : Collection} (isKnown : collection ∈ collections) :
    AgreeElsewhere (changedPlaces collections config changed) (collectionFiles config collection)
      (collectionFiles config' collection) := by
  rw [collectionFiles_eq, collectionFiles_eq]
  split
  · next declares =>
      let place := ["src", "routes", Route.fileName collection config.language]
      have isRoute : place ∈ routePlaces collections config.language :=
        List.mem_map.mpr ⟨collection, List.mem_filter.mpr ⟨isKnown, declares⟩, rfl⟩
      have affected : ∀ feature ∈ ({.auth, .swagger} : Set Feature),
          place ∈ affectedPlaces collections config feature := by
        simp [affectedPlaces, isRoute]
      have segments : (ProjectFile.ofArtifact "routes" (Route.artifact collection config')).segments
          = place := by
        simp only [place, ← agree.language]
        rfl
      rw [sourcesOf, sourcesOf, agree.language]
      refine .append (.refl [_, _]) (.cons segments (fun notThere => ?_) (.refl []))
      rw [route_congr (agreeOn_of_not_mem agree affected notThere)]
  · exact .refl []

theorem commonFiles_agree_elsewhere
    (agree : config.AgreeOn config' {feature | feature ∉ changed}) (mounts : List Mount) :
    AgreeElsewhere (changedPlaces collections config changed) (commonFiles config mounts)
      (commonFiles config' mounts) := by
  have optional {feature : Feature} {files : List ProjectFile}
      (affected : ∀ file ∈ files, file.segments ∈ affectedPlaces collections config feature) :
      AgreeElsewhere (changedPlaces collections config changed) (whenHas config feature files)
        (whenHas config' feature files) := by
    refine .whenHas ?_
    by_cases isChanged : feature ∈ changed
    · exact .inr fun file isFile => List.mem_flatMap.mpr ⟨feature, isChanged, affected file isFile⟩
    · exact .inl (agree.has feature isChanged)
  have appPlace : (app config' mounts).segments = (app config mounts).segments := by
    rw [app, app, agree.extension]
  rw [commonFiles, commonFiles, agree.language, agree.projectName, agree.isTyped]
  refine .append (.append (.append (.append (.append (.refl _) (optional ?_)) ?_) (.refl _))
    (optional ?_)) (optional ?_)
  · simp [gate, affectedPlaces, Config.extension]
  · refine .cons appPlace (fun notThere => ?application) <|
      .cons rfl (fun _ => rfl) <|
      .cons rfl (fun notThere => ?manifest) <|
      .cons rfl (fun notThere => ?environment) <|
      .cons rfl (fun notThere => ?shared) <|
      .cons rfl (fun notThere => ?ignored) <|
      .cons rfl (fun notThere => ?introduction) (.refl [])
    case application =>
      refine app_congr (agreeOn_of_not_mem agree ?_ notThere) mounts
      simp +contextual [appReads, app, affectedPlaces]
    case manifest =>
      rw [manifest_congr (agreeOn_of_not_mem agree ?_ notThere)]
      simp [affectedPlaces, Manifest.file]
    case environment =>
      rw [environment, environment,
        environmentVariables_congr (agreeOn_of_not_mem agree ?_ notThere)]
      simp [affectedPlaces, environment]
    case shared =>
      rw [environmentExample, environmentExample,
        environmentVariables_congr (agreeOn_of_not_mem agree ?_ notThere)]
      simp [affectedPlaces, environmentExample]
    case ignored =>
      rw [ignoreList_congr (agreeOn_of_not_mem agree ?_ notThere)]
      simp [affectedPlaces, ignoreList]
    case introduction =>
      rw [readme_congr (agreeOn_of_not_mem agree ?_ notThere)]
      intro feature _
      cases feature <;> simp [affectedPlaces, readme]
  · simp [affectedPlaces, testRunner, firstTest, unitTestFolder, Config.extension]
  · simp [affectedPlaces, image, composition]

/-- Projects agree wherever no changed feature has a say. -/
theorem files_agree_elsewhere (collections : List Collection)
    (agree : config.AgreeOn config' {feature | feature ∉ changed}) :
    AgreeElsewhere (changedPlaces collections config changed) (files collections config)
      (files collections config') :=
  .append (.flatMap fun _ isKnown => collectionFiles_agree agree isKnown)
    (commonFiles_agree_elsewhere agree _)

end Changed

/-! ## Previews -/

/-- The name of a file at a place. -/
def nameAt (place : List String) : String := Path.normal (Path.joinAll "" place)

/-- The names and contents of a project's files. -/
def shownFiles (collections : List Collection) (config : Config) : List (String × String) :=
  (files collections config).map fun file => (file.name, file.content)

/-- What a preview shows of the files that are at none of the places. -/
def shownElsewhere (places : List (List String)) (shown : List (String × String)) :
    List (String × String) :=
  shown.filter fun entry => !(places.map nameAt).contains entry.1

theorem shownElsewhere_eq {places : List (List String)} {collections : List Collection}
    (agree : AgreeElsewhere places (files collections config) (files collections config')) :
    shownElsewhere places (shownFiles collections config')
      = shownElsewhere places (shownFiles collections config) := by
  -- A file whose name is not left out is not at a place that is.
  have isElsewhere (file : ProjectFile) :
      (!(places.map nameAt).contains file.name)
        = ((!(places.map nameAt).contains file.name) && !places.contains file.segments) := by
    have named : file.segments ∈ places → file.name ∈ places.map nameAt :=
      List.mem_map_of_mem (f := nameAt)
    by_cases isAt : file.segments ∈ places
    · simp [named isAt]
    · simp [isAt]
  have throughFiles (config : Config) : shownElsewhere places (shownFiles collections config)
      = shownElsewhere places
          ((elsewhere places (files collections config)).map fun file =>
            (file.name, file.content)) := by
    rw [shownElsewhere, shownElsewhere, shownFiles, List.filter_map, List.filter_map, elsewhere,
      List.filter_filter]
    exact congrArg _ (List.filter_congr fun file _ => isElsewhere file)
  rw [throughFiles, throughFiles, agree]

/-- How the projects under two configs compare that differ in their features only. -/
structure AreSwitches (collections : List Collection) (config config' : Config) : Prop where
  shown : (preview collections config).result = .preview (shownFiles collections config) ∧
    (preview collections config').result = .preview (shownFiles collections config')
  /-- The order in which features were enabled plays no part. -/
  sameMembers :
    (∀ feature, feature ∈ config'.features.members ↔ feature ∈ config.features.members) →
      shownFiles collections config' = shownFiles collections config
  /-- One feature matters at its places only, whatever the others are. -/
  oneFeature : ∀ feature,
    (∀ other, other ≠ feature →
      (other ∈ config'.features.members ↔ other ∈ config.features.members)) →
    AgreeElsewhere (affectedPlaces collections config feature) (files collections config)
        (files collections config') ∧
      shownElsewhere (affectedPlaces collections config feature) (shownFiles collections config')
        = shownElsewhere (affectedPlaces collections config feature)
            (shownFiles collections config)
  /-- Models and controllers depend on no feature. -/
  sources : ∀ collection,
    Model.emit collection config' = Model.emit collection config ∧
      Controller.emit collection config' = Controller.emit collection config
  sourcesUnaffected : ∀ feature name,
    ["src", "models", name] ∉ affectedPlaces collections config feature ∧
      ["src", "controllers", name] ∉ affectedPlaces collections config feature

theorem features_are_switches (collections : List Collection)
    (same : config' = { config with features := config'.features }) :
    AreSwitches collections config config' := by
  have language : config'.language = config.language := by rw [same]
  have agreeOn {read : Set Feature} (members : ∀ feature ∈ read,
      (feature ∈ config'.features.members ↔ feature ∈ config.features.members)) :
      config.AgreeOn config' read := by
    refine ⟨by rw [same], language, fun feature isRead => ?_⟩
    rw [Config.has, Config.has, FeatureSet.has, FeatureSet.has, Bool.eq_iff_iff,
      List.contains_iff_mem, List.contains_iff_mem]
    exact members feature isRead
  exact
    { shown := ⟨rfl, rfl⟩
      sameMembers := by
        intro members
        have noneChanged : config.AgreeOn config' {feature | feature ∉ ([] : List Feature)} :=
          agreeOn fun feature _ => members feature
        have agree := files_agree_elsewhere collections noneChanged
        rw [AgreeElsewhere, changedPlaces, List.flatMap_nil, elsewhere, elsewhere] at agree
        simp only [List.contains_nil, Bool.not_false, List.filter_true] at agree
        rw [shownFiles, agree, shownFiles]
      oneFeature := by
        intro feature members
        have oneChanged : config.AgreeOn config' {other | other ∉ [feature]} :=
          agreeOn fun other isOther => members other (by simpa using isOther)
        have agree := files_agree_elsewhere collections oneChanged
        rw [changedPlaces, List.flatMap_singleton] at agree
        exact ⟨agree, shownElsewhere_eq agree⟩
      sources := by
        intro collection
        rw [Model.emit, Controller.emit, language]
        exact ⟨rfl, rfl⟩
      sourcesUnaffected := by
        intro feature name
        cases feature <;> simp [affectedPlaces, routePlaces] }

/-- A project with documentation, without and with authentication. -/
def documentedConfig (features : List Feature) : Config :=
  ⟨"demo", .typeScript, .ofList features, "demo"⟩

theorem features_are_switches_auth :
    let collections : List Collection := [⟨"Order", [{ name := "total", typeTag := "number" }]⟩]
    let config := documentedConfig [.swagger]
    let config' := documentedConfig [.auth, .swagger]
    config' = { config with features := config'.features } ∧
      AreSwitches collections config config' ∧
      elsewhere (affectedPlaces collections config .auth) (files collections config')
        = elsewhere (affectedPlaces collections config .auth) (files collections config) ∧
      affectedPlaces collections config .auth
        = [["src", "middleware", "auth.ts"], ["src", "routes", "order.routes.ts"],
           ["src", "app.ts"], ["package.json"], [".env"], [".env.example"], ["README.md"]] := by
  intro collections config config'
  have switches : AreSwitches collections config config' := features_are_switches collections rfl
  have members : config'.features.members = [.auth, .swagger] ∧
      config.features.members = [.swagger] := ⟨rfl, rfl⟩
  have onlyAuth : ∀ other, other ≠ .auth →
      (other ∈ config'.features.members ↔ other ∈ config.features.members) := by
    intro other different
    simp [members, different]
  exact ⟨rfl, switches, (switches.oneFeature .auth onlyAuth).1, by decide +kernel⟩

end Project

end SchemaScaffold
