import SchemaScaffold.Proofs.Project.Outcome
import SchemaScaffold.Proofs.Project.ReadMounts

/-! The plan of a project: which files there are, and that the application, the
routes and the introduction agree on where the collections are served. -/

namespace SchemaScaffold.Project

open Code

/-! ## The files -/

/-- Where the files are that are there once. -/
def commonPlaces (config : Config) : List (List String) :=
  let source (stem : String) : String := stem ++ config.extension
  let whenHas (feature : Feature) (places : List (List String)) : List (List String) :=
    if config.has feature then places else []
  [["src", "config", source "db."], ["src", "middleware", source "error."]]
    ++ whenHas .auth [["src", "middleware", source "auth."]]
    ++ [["src", source "app."], ["src", source "index."], ["package.json"], [".env"],
        [".env.example"], [".gitignore"], ["README.md"]]
    ++ (if config.isTyped then [["tsconfig.json"]] else [])
    ++ whenHas .tests
        [["jest.config.js"], ["tests", "integration", source "app.test."],
         ["tests", "unit", ".gitkeep"]]
    ++ whenHas .docker [["Dockerfile"], ["docker-compose.yml"]]

theorem map_segments_commonFiles (config : Config) (mounts : List Mount) :
    (commonFiles config mounts).map ProjectFile.segments = commonPlaces config := by
  have placesWhenHas (feature : Feature) (files : List ProjectFile) :
      (whenHas config feature files).map ProjectFile.segments
        = if config.has feature then files.map ProjectFile.segments else [] := by
    rw [whenHas, apply_ite (List.map ProjectFile.segments), List.map_nil]
  simp only [commonFiles, List.map_append, placesWhenHas, apply_ite (List.map ProjectFile.segments)]
  rfl

theorem map_name_commonFiles (config : Config) (mounts : List Mount) :
    (commonFiles config mounts).map ProjectFile.name
      = (commonPlaces config).map fun place => "/".intercalate place := by
  rw [← map_segments_commonFiles config mounts, List.map_map]
  exact List.map_congr_left fun file isFile =>
    (hasPlainPath_of_mem_commonFiles config mounts file isFile).name_eq

/-- The files that are there once, around the application and the introduction. -/
def filesBefore (config : Config) : List ProjectFile :=
  [connection config.language, errorHandler config.language]
    ++ whenHas config .auth [gate config.language]

def filesBetween (config : Config) : List ProjectFile :=
  [entryPoint config.language, (Manifest.ofConfig config).file, environment config,
   environmentExample config, ignoreList config]

def filesBehind (config : Config) : List ProjectFile :=
  (if config.isTyped then [compilerSettings] else [])
    ++ whenHas config .tests
        [testRunner config.language, firstTest config.language, unitTestFolder]
    ++ whenHas config .docker [image config.language, composition config.projectName]

/-- Only the application and the introduction depend on the collections. -/
theorem commonFiles_eq (config : Config) (mounts : List Mount) :
    commonFiles config mounts
      = filesBefore config ++ app config mounts
          :: (filesBetween config ++ readme config (mounts.map Mount.path)
            :: filesBehind config) := by
  simp only [commonFiles, filesBefore, filesBetween, filesBehind, List.append_assoc,
    List.cons_append, List.nil_append]

theorem flatMap_collectionFiles (config : Config) (collections : List Collection) :
    collections.flatMap (collectionFiles config)
      = (emitted collections).flatMap (sourcesOf config) := by
  induction collections with
  | nil => rfl
  | cons collection rest induction =>
      rw [List.flatMap_cons, induction, collectionFiles_eq, emitted, emitted, List.filter_cons]
      split <;> rfl

/-! ## The table of requests -/

/-- The rows of a router in the table of requests. -/
def tableRows (name : String) : List String :=
  ["| GET | `" ++ servedAt name ++ "` |",
   "| POST | `" ++ servedAt name ++ "` |",
   "| GET | `" ++ servedAt name ++ "/:id` |",
   "| PUT | `" ++ servedAt name ++ "/:id` |",
   "| DELETE | `" ++ servedAt name ++ "/:id` |"]

/-- The introduction up to its table of requests. -/
def introduction (config : Config) : List String := Readme.lines config []

theorem rows_eq (name : String) : Readme.rows (Mount.ofName name).path = tableRows name := by
  simp [Readme.rows, Operation.onCollection, Operation.onRecord, Readme.row, Operation.verb,
    Verb.title, Operation.pathEnd, Operation.takesId, Mount.ofName, tableRows, ← String.toList_inj]

theorem lines_readme (config : Config) (names : List String) :
    Readme.lines config (names.map fun name => (Mount.ofName name).path)
      = introduction config ++ names.flatMap tableRows := by
  simp only [introduction, Readme.lines, List.flatMap_map, rows_eq, List.flatMap_nil,
    List.append_nil]

theorem textOfLines_append (front behind : List String) :
    textOfLines (front ++ behind) = textOfLines front ++ textOfLines behind := by
  rw [textOfLines, List.map_append, String.join_append]
  rfl

/-! ## The plan -/

/-- The same file, with the same content unless it is at one of the places. -/
def AgreesUnlessAt (places : List (List String)) (file other : ProjectFile) : Prop :=
  file.segments = other.segments ∧ (file.segments ∉ places → file = other)

/-- What the plan of a project says about its collections. -/
structure IsPlan (collections : List Collection) (config : Config) : Prop where
  preview : (preview collections config).result
    = .preview ((files collections config).map fun file => (file.name, file.content))
  /-- Three files for each collection that declares fields, and nothing for others. -/
  order : files collections config
    = (emitted collections).flatMap (sourcesOf config) ++ commonFiles config (mounts collections)
  /-- The model, the controller and the route of a collection, in this order. -/
  sources : ∀ collection, (sourcesOf config collection).map ProjectFile.segments
    = [["src", "models", collection.camel ++ ".model." ++ config.extension],
       ["src", "controllers", collection.camel ++ ".controller." ++ config.extension],
       ["src", "routes", collection.camel ++ ".routes." ++ config.extension]]
  commonNames : (commonFiles config (mounts collections)).map ProjectFile.name
    = (commonPlaces config).map fun place => "/".intercalate place
  skipped : skipped collections config
    = (collections.filter fun collection => !collection.hasDeclared).map fun collection =>
        ⟨collection.label, .noFields⟩
  routersDistinct : (routerNames collections).Nodup
  planned : app config (mounts collections) ∈ commonFiles config (mounts collections) ∧
    readme config ((mounts collections).map Mount.path) ∈ commonFiles config (mounts collections)
  /-- One import for each router, behind those that there are without collections. -/
  routersImported : scan readImport? (app config (mounts collections)).content
    = App.imports config []
      ++ (routerNames collections).map (fun name =>
        { source := "./routes/" ++ (name ++ ".routes.js"), default := some (name ++ "Routes") })
      ++ App.documented readImport? config
  /-- One call for each router, in front of the handler of errors. -/
  routersMounted : scan used? (app config (mounts collections)).content
    = App.middlewareUses ++ App.documented used? config
      ++ (routerNames collections).map (fun name =>
        ["\"" ++ servedAt name ++ "\"", name ++ "Routes"])
      ++ [["errorHandler"]]
  /-- The documentation has nothing to do with routers, unless the name of the project
  has lines of its own. -/
  documentation : Lacks '\n' config.projectName →
    App.documented readImport? config = [] ∧
    App.documented used? config = if config.has .swagger then [App.documentationUse] else []
  /-- The comments of a route state where it is mounted. -/
  pathsStated : ∀ collection ∈ emitted collections,
    collection.camel ∈ routerNames collections ∧
    scan statedPath? (Route.artifact collection config).content
      = [servedAt collection.camel, servedAt collection.camel ++ Route.idPlace config]
  /-- Five rows for each router, behind the head of the table. -/
  requestsListed : (readme config ((mounts collections).map Mount.path)).content
    = textOfLines (introduction config)
      ++ textOfLines ((routerNames collections).flatMap tableRows)
  tableHead : ["| Method | Path |", "|---|---|"] <:+ introduction config
  /-- One more collection only adds its own files, and changes the application and the
  introduction. -/
  appended : ∀ added,
    files (collections ++ [added]) config
      = (emitted collections).flatMap (sourcesOf config)
        ++ (if added.hasDeclared then sourcesOf config added else [])
        ++ commonFiles config (mounts (collections ++ [added])) ∧
    List.Forall₂ (AgreesUnlessAt [["src", "app." ++ config.extension], ["README.md"]])
      (commonFiles config (mounts collections))
      (commonFiles config (mounts (collections ++ [added])))

theorem commonFiles_agree (config : Config) (mounts others : List Mount) :
    List.Forall₂ (AgreesUnlessAt [["src", "app." ++ config.extension], ["README.md"]])
      (commonFiles config mounts) (commonFiles config others) := by
  let agree := AgreesUnlessAt [["src", "app." ++ config.extension], ["README.md"]]
  have same (files : List ProjectFile) : List.Forall₂ agree files files :=
    List.forall₂_same.mpr fun file _ => ⟨rfl, fun _ => rfl⟩
  have application : agree (app config mounts) (app config others) :=
    ⟨rfl, fun elsewhere => absurd (List.mem_cons_self ..) elsewhere⟩
  have introduction : agree (readme config (mounts.map Mount.path))
      (readme config (others.map Mount.path)) :=
    ⟨rfl, fun elsewhere => absurd (List.mem_cons_of_mem _ (List.mem_cons_self ..)) elsewhere⟩
  rw [commonFiles_eq, commonFiles_eq]
  exact List.rel_append (same _)
    (.cons application (List.rel_append (same _) (.cons introduction (same _))))

/-- The plan emits and mounts the same collections, whatever these are. -/
theorem plan_mounts_emitted (collections : List Collection) (config : Config) :
    IsPlan collections config where
  preview := rfl
  order := by rw [← flatMap_collectionFiles, files]
  sources collection := by
    rw [segments_sourcesOf]
    simp [sourcePlaces, Config.extension, String.append_assoc]
  commonNames := map_name_commonFiles config _
  skipped := skipped_eq collections config
  routersDistinct := nodup_eraseDups _
  planned := by
    rw [commonFiles_eq]
    simp
  routersImported := by
    have ofNames : App.imports config (mounts collections)
        = App.imports config [] ++ (routerNames collections).map fun name =>
            (Mount.ofName name).importStatement := by
      simp [App.imports, mounts_eq, Function.comp_def]
    rw [App.scan_readImport? (areRouters collections) config, ofNames]
    simp [Mount.importStatement, Mount.ofName, String.append_assoc]
  routersMounted := by
    rw [App.scan_used? (areRouters collections) config, mounts_eq, List.map_map]
    simp only [List.append_assoc]
    rfl
  documentation plainName := by
    constructor
    · rw [App.documented_of_plain skipsBlocks_readImport? (fun _ => readImport?_eq_none (by simp))
        plainName, readImport?_eq_none (by simp [useLine])]
      exact ite_self _
    · rw [App.documented_of_plain skipsBlocks_used? (fun _ => used?_eq_none (by simp)) plainName,
        App.used?_documentationUse]
      rfl
  pathsStated collection isEmitted :=
    ⟨List.mem_eraseDups.mpr (List.mem_map_of_mem isEmitted),
      Route.scan_statedPath? collection config⟩
  requestsListed := by
    have routes : (mounts collections).map Mount.path
        = (routerNames collections).map fun name => (Mount.ofName name).path := by
      rw [mounts_eq, List.map_map]
      rfl
    simp only [readme, routes, lines_readme, textOfLines_append]
  tableHead := by
    have head : ["| Method | Path |", "|---|---|"]
        <:+ ["", "## Endpoints", "", "| Method | Path |", "|---|---|"] := by decide
    rw [introduction, Readme.lines, List.flatMap_nil, List.append_nil]
    exact head.trans (List.suffix_append _ _)
  appended added := by
    refine ⟨?_, commonFiles_agree config _ _⟩
    rw [files, List.flatMap_append, flatMap_collectionFiles, List.flatMap_singleton,
      collectionFiles_eq]

end SchemaScaffold.Project
