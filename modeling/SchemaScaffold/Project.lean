import SchemaScaffold.Project.App
import SchemaScaffold.Project.Container
import SchemaScaffold.Project.Manifest
import SchemaScaffold.Project.Middleware
import SchemaScaffold.Project.Readme
import SchemaScaffold.Project.Server
import SchemaScaffold.Project.Settings
import SchemaScaffold.Project.Testing

/-! The files of a whole project: three for each collection that declares
fields, and those that depend on the settings. -/

namespace SchemaScaffold.Project

def collectionFiles (config : Config) (collection : Collection) : List ProjectFile :=
  [("models", Model.emit collection config),
   ("controllers", Controller.emit collection config),
   ("routes", Route.emit collection config)].filterMap fun (folder, emission) =>
    emission.artifact?.map (ProjectFile.ofArtifact folder)

/-- The mounts of the collections that have a route. -/
def mounts (collections : List Collection) : List Mount :=
  Mount.ofCollections (collections.filter Collection.hasDeclared)

def whenHas (config : Config) (feature : Feature) (files : List ProjectFile) : List ProjectFile :=
  if config.has feature then files else []

/-- The files that are there once. -/
def commonFiles (config : Config) (mounts : List Mount) : List ProjectFile :=
  [connection config.language, errorHandler config.language]
    ++ whenHas config .auth [gate config.language]
    ++ [app config mounts,
        entryPoint config.language,
        (Manifest.ofConfig config).file,
        environment config,
        environmentExample config,
        ignoreList config,
        readme config (mounts.map Mount.path)]
    ++ (if config.isTyped then [compilerSettings] else [])
    ++ whenHas config .tests
        [testRunner config.language, firstTest config.language, unitTestFolder]
    ++ whenHas config .docker [image config.language, composition config.projectName]

/-- All files, in the order in which they are written. -/
def files (collections : List Collection) (config : Config) : List ProjectFile :=
  collections.flatMap (collectionFiles config) ++ commonFiles config (mounts collections)

/-- The collections without files. -/
def skipped (collections : List Collection) (config : Config) : List Skipped :=
  collections.filterMap fun collection => (Model.emit collection config).skipped?

end SchemaScaffold.Project
