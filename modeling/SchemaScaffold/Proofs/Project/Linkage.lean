import SchemaScaffold.Proofs.Project.Mounts
import SchemaScaffold.Proofs.Project.ReadSources

/-! The three files of a collection fit together, though each makes its names out
of the label by itself. All of it is said about the texts of the files. -/

namespace SchemaScaffold.Project

open Code

/-! ## The application -/

theorem mem_mounts {collection : Collection} {collections : List Collection}
    (isCollection : collection ∈ collections) (declares : collection.hasDeclared = true) :
    Mount.ofCollection collection ∈ mounts collections := by
  have kept : collection ∈ emitted collections := List.mem_filter.mpr ⟨isCollection, declares⟩
  have isName : collection.camel ∈ routerNames collections :=
    List.mem_eraseDups.mpr (List.mem_map_of_mem kept)
  rw [mounts_eq]
  exact List.mem_map_of_mem isName

theorem isSolid_importStatement (collection : Collection) :
    IsSolidImport (Mount.ofCollection collection).importStatement := by
  have camel : Text.IsSolid collection.camel := Naming.isSolid_camel _
  have binding : Text.IsSolid (collection.camel ++ "Routes") :=
    camel.append (.of_all (by decide))
  have source : Text.IsSolid ("./routes/" ++ Route.moduleName collection) :=
    Text.IsSolid.append (.of_all (by decide))
      ((camel.append (.of_all (by decide))).append (.of_all (by decide)))
  have notBrace : collection.camel ++ "Routes" ≠ "\x7b" := by
    intro equal
    have lengths := congrArg (fun text => text.toList.length) equal
    simp at lengths
  exact .default binding notBrace source

/-- The application imports the router of each of its mounts. -/
theorem importStatement_mem_app {collection : Collection} {mounts : List Mount} (config : Config)
    (isMount : Mount.ofCollection collection ∈ mounts) :
    (Mount.ofCollection collection).importStatement
      ∈ scan readImport? (app config mounts).content := by
  have isImport : (Mount.ofCollection collection).importStatement ∈ App.imports config mounts :=
    List.mem_append_right _ (List.mem_map_of_mem isMount)
  rw [app, scan_sourceFile (skipsBlocks_readImport?).nothing, List.append_assoc]
  apply List.mem_append_left
  refine List.mem_flatMap.mpr ⟨_, isImport, ?_⟩
  rw [(isSolid_importStatement collection).found_readImport?]
  exact List.mem_singleton_self _

/-! ## The links -/

/-- The names of the constants that a source exports. -/
def exportedNames (content : String) : List String := scan exportedName? content

/-- The imports of a source from the files of a folder. -/
def importsFrom (folder content : String) : List Import :=
  (scan readImport? content).filter fun statement =>
    folder.toList.isPrefixOf statement.source.toList

/-- The requests that the router of a source serves, unless it does anything else. -/
def wirings (content : String) : Option (List Wiring) :=
  wiringsOf none (scan routerLine? content)

/-- The specifier leads to the artifact in its folder, with the extension of a
script in the place of its own. -/
def Specifies (folder source : String) (artifact : Artifact) (config : Config) : Prop :=
  ∃ stem, artifact.fileName = stem ++ "." ++ config.extension ∧ source = folder ++ (stem ++ ".js")

/-- How the files of a collection refer to each other. -/
structure AreLinked (collection : Collection) (config : Config)
    (model controller route : Artifact) : Prop where
  handlersNamed : exportedNames controller.content = handlerNames collection
  handlersDistinct : (exportedNames controller.content).length = 5 ∧
    (exportedNames controller.content).Nodup
  /-- The route imports all that the controller exports, in the same order. -/
  controllerImported : ∃ source,
    importsFrom "../controllers/" route.content
      = [{ source, named := exportedNames controller.content }] ∧
    Specifies "../controllers/" source controller config
  /-- The controller imports what the model exports at its end. -/
  modelImported : ∃ source name,
    importsFrom "../models/" controller.content = [{ source, named := [name] }] ∧
    (exportedNames model.content).getLast? = some name ∧
    Specifies "../models/" source model config
  routeMounted : Specifies "./routes/" (Mount.ofCollection collection).source route config
  mountImported : ∀ collections, collection ∈ collections →
    (Mount.ofCollection collection).importStatement
      ∈ scan readImport? (app config (mounts collections)).content
  requestsServed :
    wirings route.content = some
      [⟨"/", "get", Operation.listAll.handlerName collection⟩,
       ⟨"/", "post", Operation.create.handlerName collection⟩,
       ⟨"/:id", "get", Operation.getOne.handlerName collection⟩,
       ⟨"/:id", "put", Operation.update.handlerName collection⟩,
       ⟨"/:id", "delete", Operation.delete.handlerName collection⟩]

theorem importsFrom_models (collection : Collection) (language : Language) :
    importsFrom "../models/" (Controller.artifact collection language).content
      = [{ source := "../models/" ++ Model.moduleName collection
           named := [collection.pascal] }] := by
  rw [importsFrom, Controller.artifact, Controller.scan_readImport?, Controller.imports,
    List.filter_append]
  cases language <;> simp [Language.isTyped]

theorem importsFrom_controllers (collection : Collection) (config : Config) :
    importsFrom "../controllers/" (Route.artifact collection config).content
      = [{ source := "../controllers/" ++ Controller.moduleName collection
           named := handlerNames collection }] := by
  rw [importsFrom, Route.artifact, Route.scan_readImport?, Route.imports, List.filter_append,
    List.filter_append]
  cases config.has .auth <;> simp

theorem specifies_suffix (folder stem kind content : String) (config : Config) :
    Specifies folder (folder ++ (stem ++ (kind ++ ".") ++ "js"))
      ⟨stem ++ (kind ++ ".") ++ config.extension, content⟩ config :=
  ⟨stem ++ kind, by simp [← String.toList_inj], by simp [← String.toList_inj]⟩

theorem wirings_route (collection : Collection) (config : Config) :
    wirings (Route.artifact collection config).content = some
      [⟨"/", "get", Operation.listAll.handlerName collection⟩,
       ⟨"/", "post", Operation.create.handlerName collection⟩,
       ⟨"/:id", "get", Operation.getOne.handlerName collection⟩,
       ⟨"/:id", "put", Operation.update.handlerName collection⟩,
       ⟨"/:id", "delete", Operation.delete.handlerName collection⟩] := by
  rw [wirings, Route.artifact, Route.scan_routerLine?]
  rfl

theorem areLinked {collection : Collection} (declares : collection.hasDeclared = true)
    (config : Config) :
    AreLinked collection config (Model.artifact collection config.language)
      (Controller.artifact collection config.language) (Route.artifact collection config) := by
  have handlers : exportedNames (Controller.artifact collection config.language).content
      = handlerNames collection :=
    Controller.scan_exportedName? collection config.language.isTyped
  constructor
  case handlersNamed => exact handlers
  case handlersDistinct =>
    rw [handlers]
    exact ⟨rfl, nodup_handlerNames collection⟩
  case controllerImported =>
    rw [handlers]
    exact ⟨_, importsFrom_controllers collection config,
      specifies_suffix _ _ ".controller" _ config⟩
  case modelImported =>
    exact ⟨_, _, importsFrom_models collection config.language,
      Model.getLast?_scan_exportedName? collection config.language,
      specifies_suffix _ _ ".model" _ config⟩
  case routeMounted => exact specifies_suffix _ _ ".routes" _ config
  case mountImported =>
    exact fun collections isCollection =>
      importStatement_mem_app config (mem_mounts isCollection declares)
  case requestsServed => exact wirings_route collection config

/-- The three files of a collection link up, whatever its label. -/
theorem files_linked {collection : Collection} (declares : collection.hasDeclared = true)
    (config : Config) :
    ∃ model controller route,
      Model.emit collection config = .file model ∧
      Controller.emit collection config = .file controller ∧
      Route.emit collection config = .file route ∧
      AreLinked collection config model controller route := by
  exact ⟨_, _, _, if_pos declares, if_pos declares, if_pos declares, areLinked declares config⟩

/-- A label of two words in an application with all features. -/
def orderLines : Collection := ⟨"order_LINE", [{ name := "amount", typeTag := "number" }]⟩

def shop : Config := ⟨"shop", .typeScript, .ofList Feature.all, "out"⟩

theorem files_linked_orderLines :
    orderLines.hasDeclared = true ∧ ∃ model controller route,
      Controller.emit orderLines shop = .file controller ∧
      exportedNames controller.content
        = ["getAllOrderLines", "getOrderLine", "createOrderLine", "updateOrderLine",
           "deleteOrderLine"] ∧
      AreLinked orderLines shop model controller route := by
  have declares : orderLines.hasDeclared = true := by decide +kernel
  rcases files_linked declares shop with ⟨model, controller, route, _, emitted, _, linked⟩
  exact ⟨declares, model, controller, route, emitted,
    linked.handlersNamed.trans (by decide +kernel), linked⟩

end SchemaScaffold.Project
