import SchemaScaffold.Project
import SchemaScaffold.Proofs.Workspace.Joins

/-! The names of a project's files. The files that belong to the user are told
from all others by their names alone, whatever the collections are called. -/

namespace SchemaScaffold.Project

open Workspace

/-- The files that are created once are at the top of the project. -/
def userNames : List String := [".env", ".env.example", "README.md"]

/-- The name that a file's path ends in, below every folder. -/
structure HasName (file : ProjectFile) (name : String) : Prop where
  ends : ∀ base, Path.lastSegment (file.path base) = some name
  named : Disk.isName name = true
  createdOnce : file.isCreatedOnce = true ↔ name ∈ userNames
  atTop : file.isCreatedOnce = true ↔ file.segments ∈ userNames.map fun name => [name]
  whole : file.isCreatedOnce = true → file.segments = [name]

/-! ## Source files of collections -/

/-- A suffix that no slash is in belongs to the last segment. -/
theorem lastSegment_of_suffix (front : String) {suffix : String}
    (noSlash : ∀ c ∈ suffix.toList, (c == '/') = false) :
    ∃ before, Path.lastSegment (front ++ suffix) = some (before ++ suffix) := by
  rcases Text.exists_last_piece noSlash front.toList with ⟨pieces, last, _, split⟩
  refine ⟨String.ofList last, ?_⟩
  rw [Path.lastSegment, Path.segments, Text.pieces, String.toList_append, split, List.map_append,
    List.getLast?_append]
  simp

/-- How the source files of a collection end. -/
def sourceSuffixes : List String :=
  [".model.ts", ".model.js", ".controller.ts", ".controller.js", ".routes.ts", ".routes.js"]

theorem hasName_ofArtifact {folder front suffix content : String}
    (isSource : suffix ∈ sourceSuffixes) :
    ∃ name, HasName (.ofArtifact folder ⟨front ++ suffix, content⟩) name := by
  have noSlash : ∀ suffix ∈ sourceSuffixes, ∀ c ∈ suffix.toList, (c == '/') = false := by
    simp [sourceSuffixes]
  have lastChar : ∀ suffix ∈ sourceSuffixes, suffix.toList.getLast? = some 's' := by decide
  have noUserName : ∀ name ∈ userNames, name.toList.getLast? ≠ some 's' := by decide
  rcases lastSegment_of_suffix front (noSlash suffix isSource) with ⟨before, ends⟩
  have different : ∀ other : String, other.toList.getLast? ≠ some 's' →
      before ++ suffix ≠ other := by
    intro other endsOtherwise equal
    apply endsOtherwise
    rw [← equal, String.toList_append, List.getLast?_append, lastChar suffix isSource]
    rfl
  have notUser : before ++ suffix ∉ userNames :=
    fun isUser => different _ (noUserName _ isUser) rfl
  refine ⟨before ++ suffix, fun base => ?_, ?_, ?_, ?_, fun once => nomatch once⟩
  · exact (Path.lastSegment_joinAll base ["src", folder] (front ++ suffix)).trans ends
  · simp [Disk.isName, Path.isRedundant, different "" (by decide), different "." (by decide),
      different ".." (by decide)]
  · simp [ProjectFile.ofArtifact, notUser]
  · simp [ProjectFile.ofArtifact]

/-- The files of a collection that declares fields. -/
def sourcesOf (config : Config) (collection : Collection) : List ProjectFile :=
  [.ofArtifact "models" (Model.artifact collection config.language),
   .ofArtifact "controllers" (Controller.artifact collection config.language),
   .ofArtifact "routes" (Route.artifact collection config)]

theorem collectionFiles_eq (config : Config) (collection : Collection) :
    collectionFiles config collection
      = if collection.hasDeclared then sourcesOf config collection else [] := by
  rw [collectionFiles, Model.emit, Controller.emit, Route.emit, Emission.ofCollection,
    Emission.ofCollection, Emission.ofCollection]
  cases collection.hasDeclared <;> rfl

theorem mem_collectionFiles {config : Config} {collection : Collection} {file : ProjectFile} :
    file ∈ collectionFiles config collection ↔
      collection.hasDeclared = true ∧ file ∈ sourcesOf config collection := by
  rw [collectionFiles_eq]
  split <;> simp_all

/-- The folders of a collection's source files, each with how its file ends. -/
def sourcePlaces (language : Language) : List (String × String) :=
  [("models", ".model." ++ language.extension),
   ("controllers", ".controller." ++ language.extension),
   ("routes", ".routes." ++ language.extension)]

theorem segments_sourcesOf (config : Config) (collection : Collection) :
    (sourcesOf config collection).map ProjectFile.segments
      = (sourcePlaces config.language).map fun place =>
          ["src", place.1, collection.camel ++ place.2] := by
  simp [sourcesOf, sourcePlaces, ProjectFile.ofArtifact, Model.artifact, Model.fileName,
    Controller.artifact, Controller.fileName, Route.artifact, Route.fileName, String.append_assoc]

theorem exists_place {config : Config} {collection : Collection} {file : ProjectFile}
    (isSource : file ∈ sourcesOf config collection) :
    ∃ place ∈ sourcePlaces config.language,
      file = .ofArtifact place.1 ⟨collection.camel ++ place.2, file.content⟩ := by
  have all : ∀ file ∈ sourcesOf config collection, file.isCreatedOnce = false := by
    simp [sourcesOf, ProjectFile.ofArtifact]
  have isPlaced : file.segments ∈ (sourcesOf config collection).map ProjectFile.segments :=
    List.mem_map_of_mem isSource
  rw [segments_sourcesOf] at isPlaced
  rcases List.mem_map.mp isPlaced with ⟨place, isPlace, segments⟩
  refine ⟨place, isPlace, ?_⟩
  rw [ProjectFile.ofArtifact, segments, ← all file isSource]

theorem of_mem_sourcePlaces {language : Language} :
    ∀ place ∈ sourcePlaces language, place.2 ∈ sourceSuffixes ∧
      ∀ name ∈ ["src", place.1], Path.IsPlainName name := by
  cases language <;> decide +kernel

theorem isCreatedOnce_of_mem_collectionFiles {config : Config} {collection : Collection}
    {file : ProjectFile} (isFile : file ∈ collectionFiles config collection) :
    file.isCreatedOnce = false := by
  rcases exists_place (mem_collectionFiles.mp isFile).2 with ⟨place, _, equal⟩
  rw [equal]
  rfl

theorem exists_hasName_of_mem_collectionFiles {config : Config} {collection : Collection}
    {file : ProjectFile} (isFile : file ∈ collectionFiles config collection) :
    ∃ name, HasName file name := by
  rcases exists_place (mem_collectionFiles.mp isFile).2 with ⟨place, isPlace, equal⟩
  rw [equal]
  exact hasName_ofArtifact (of_mem_sourcePlaces place isPlace).1

/-! ## Files that are there once -/

theorem name_eq_intercalate {file : ProjectFile} (some : file.segments ≠ [])
    (plain : ∀ name ∈ file.segments, Path.IsPlainName name) :
    file.name = "/".intercalate file.segments :=
  Path.normal_joinAll some plain

/-- A path of plain names whose last one says whether the file is the user's. -/
structure HasPlainPath (file : ProjectFile) : Prop where
  parts : ∃ front last, file.segments = front ++ [last] ∧
    file.isCreatedOnce = userNames.contains last ∧ (last ∈ userNames → front = [])
  plain : ∀ name ∈ file.segments, Path.IsPlainName name

namespace HasPlainPath

variable {file : ProjectFile}

theorem of_names (front : List String) (last : String)
    (segments : file.segments = front ++ [last])
    (once : file.isCreatedOnce = userNames.contains last) (top : last ∈ userNames → front = [])
    (plain : ∀ name ∈ front ++ [last], Path.IsPlainName name) : HasPlainPath file :=
  ⟨⟨front, last, segments, once, top⟩, segments ▸ plain⟩

theorem segments_ne_nil (has : HasPlainPath file) : file.segments ≠ [] := by
  rcases has.parts with ⟨front, last, segments, _⟩
  simp [segments]

theorem name_eq (has : HasPlainPath file) : file.name = "/".intercalate file.segments :=
  name_eq_intercalate has.segments_ne_nil has.plain

theorem exists_hasName (has : HasPlainPath file) : ∃ name, HasName file name := by
  rcases has.parts with ⟨front, last, segments, once, top⟩
  have plain : Path.IsPlainName last := has.plain last (by simp [segments])
  refine ⟨last, fun base => ?_, plain.named, ?_, ?_, ?_⟩
  · rw [ProjectFile.path, segments, Path.lastSegment_joinAll, Path.lastSegment, plain.segments]
    rfl
  · rw [once, List.contains_iff_mem]
  · rw [once, List.contains_iff_mem, segments]
    constructor
    · intro isUser
      rw [top isUser]
      exact List.mem_map_of_mem isUser
    · intro isTop
      rcases List.mem_map.mp isTop with ⟨name, isUser, equal⟩
      cases front with
      | nil =>
          cases equal
          exact isUser
      | cons _ _ => simp at equal
  · intro isUser
    rw [once, List.contains_iff_mem] at isUser
    rw [segments, top isUser]
    rfl

end HasPlainPath

theorem forall_mem_whenHas {config : Config} {feature : Feature} {files : List ProjectFile}
    {holds : ProjectFile → Prop} (all : config.has feature = true → ∀ file ∈ files, holds file) :
    ∀ file ∈ whenHas config feature files, holds file := by
  intro file isFile
  rw [whenHas] at isFile
  split at isFile
  · next on => exact all on file isFile
  · cases isFile

/-- What holds of all files that there may be holds of those that there are. Only
the gate is asked about with its feature. -/
theorem forall_mem_commonFiles {config : Config} {mounts : List Mount} {holds : ProjectFile → Prop}
    (always : ∀ file ∈
      [connection config.language, errorHandler config.language, app config mounts,
       entryPoint config.language, (Manifest.ofConfig config).file, environment config,
       environmentExample config, ignoreList config, readme config (mounts.map Mount.path)],
      holds file)
    (gated : config.has .auth = true → holds (gate config.language))
    (optional : ∀ file ∈
      [compilerSettings, testRunner config.language, firstTest config.language, unitTestFolder,
       image config.language, composition config.projectName], holds file) :
    ∀ file ∈ commonFiles config mounts, holds file := by
  have typed : ∀ file ∈ (if config.isTyped then [compilerSettings] else []), holds file := by
    split
    · simp_all
    · exact List.forall_mem_nil _
  simp only [List.forall_mem_cons] at always optional
  rcases always with ⟨connection, errorHandler, rest⟩
  rcases optional with ⟨_, testRunner, firstTest, unitTestFolder, docker⟩
  simp only [commonFiles, List.forall_mem_append, and_assoc]
  refine ⟨?_, forall_mem_whenHas fun on => ?_, ?_, typed, forall_mem_whenHas fun _ => ?_,
    forall_mem_whenHas fun _ => ?_⟩ <;> simp only [List.forall_mem_cons]
  · exact ⟨connection, errorHandler, List.forall_mem_nil _⟩
  · exact ⟨gated on, List.forall_mem_nil _⟩
  · exact rest
  · exact ⟨testRunner, firstTest, unitTestFolder, List.forall_mem_nil _⟩
  · exact docker

/-- How the source files that belong to no collection begin. -/
def commonStems : List String := ["db.", "error.", "auth.", "app.", "index.", "app.test."]

/-- The folders of these source files. -/
def commonFolders : List (List String) :=
  [["src"], ["src", "config"], ["src", "middleware"], ["tests", "integration"]]

/-- The files at the top of the project. -/
def topNames : List String :=
  userNames ++ ["package.json", ".gitignore", "tsconfig.json", "jest.config.js", "Dockerfile",
    "docker-compose.yml"]

namespace HasPlainPath

variable {file : ProjectFile}

theorem of_stem {language : Language} (front : List String) (isFolder : front ∈ commonFolders)
    {stem : String} (isStem : stem ∈ commonStems)
    (segments : file.segments = front ++ [stem ++ language.extension])
    (once : file.isCreatedOnce = false) : HasPlainPath file := by
  have folders : ∀ front ∈ commonFolders, ∀ name ∈ front, Path.IsPlainName name := by
    decide +kernel
  have stems : ∀ stem ∈ commonStems, ∀ extension ∈ ["ts", "js"],
      userNames.contains (stem ++ extension) = false ∧ stem ++ extension ∉ userNames ∧
        Path.IsPlainName (stem ++ extension) := by
    decide +kernel
  have isExtension : language.extension ∈ ["ts", "js"] := by cases language <;> decide
  rcases stems stem isStem _ isExtension with ⟨notUser, notMember, plain⟩
  refine .of_names _ _ segments (once.trans notUser.symm) (fun isUser => absurd isUser notMember) ?_
  rw [List.forall_mem_append, List.forall_mem_singleton]
  exact ⟨folders front isFolder, plain⟩

theorem of_top {last : String} (isTop : last ∈ topNames) (segments : file.segments = [last])
    (once : file.isCreatedOnce = userNames.contains last) : HasPlainPath file := by
  have plain : ∀ last ∈ topNames, Path.IsPlainName last := by decide +kernel
  exact .of_names _ _ segments once (fun _ => rfl) (List.forall_mem_singleton.mpr (plain last isTop))

end HasPlainPath

theorem hasPlainPath_of_mem_commonFiles (config : Config) (mounts : List Mount) :
    ∀ file ∈ commonFiles config mounts, HasPlainPath file := by
  refine forall_mem_commonFiles ?_ (fun _ => ?_) ?_
  · simp only [List.forall_mem_cons]
    refine ⟨?_, ?_, ?_, ?_, ?_, ?_, ?_, ?_, ?_, List.forall_mem_nil _⟩
    · exact .of_stem ["src", "config"] (by decide) (by decide) rfl rfl
    · exact .of_stem ["src", "middleware"] (by decide) (by decide) rfl rfl
    · exact .of_stem ["src"] (by decide) (by decide) rfl rfl
    · exact .of_stem ["src"] (by decide) (by decide) rfl rfl
    · exact .of_top (by decide) rfl rfl
    · exact .of_top (by decide) rfl rfl
    · exact .of_top (by decide) rfl rfl
    · exact .of_top (by decide) rfl rfl
    · exact .of_top (by decide) rfl rfl
  · exact .of_stem ["src", "middleware"] (by decide) (by decide) rfl rfl
  · simp only [List.forall_mem_cons]
    refine ⟨?_, ?_, ?_, ?_, ?_, ?_, List.forall_mem_nil _⟩
    · exact .of_top (by decide) rfl rfl
    · exact .of_top (by decide) rfl rfl
    · exact .of_stem ["tests", "integration"] (by decide) (by decide) rfl rfl
    · exact .of_names ["tests", "unit"] ".gitkeep" rfl rfl (by decide) (by decide +kernel)
    · exact .of_top (by decide) rfl rfl
    · exact .of_top (by decide) rfl rfl

/-- Every file of a project has a name, and its name says whether it is kept. -/
theorem exists_hasName {collections : List Collection} {config : Config} {file : ProjectFile}
    (isFile : file ∈ files collections config) : ∃ name, HasName file name := by
  rcases List.mem_append.mp isFile with ofCollection | isCommon
  · rcases List.mem_flatMap.mp ofCollection with ⟨collection, _, isFile⟩
    exact exists_hasName_of_mem_collectionFiles isFile
  · exact (hasPlainPath_of_mem_commonFiles _ _ file isCommon).exists_hasName

/-- Each of the user's files is there exactly once. -/
theorem filter_isCreatedOnce (collections : List Collection) (config : Config) :
    ((files collections config).filter ProjectFile.isCreatedOnce).map ProjectFile.segments
      = userNames.map fun name => [name] := by
  have ofCollections :
      (collections.flatMap (collectionFiles config)).filter ProjectFile.isCreatedOnce = [] := by
    rw [List.filter_eq_nil_iff]
    intro file isFile
    rcases List.mem_flatMap.mp isFile with ⟨collection, _, isFile⟩
    rw [isCreatedOnce_of_mem_collectionFiles isFile]
    exact Bool.false_ne_true
  have whenHas_eq_nil : ∀ {feature : Feature} {files : List ProjectFile},
      files.filter ProjectFile.isCreatedOnce = [] →
        (whenHas config feature files).filter ProjectFile.isCreatedOnce = [] := by
    intro feature files equal
    rw [whenHas]
    split
    · exact equal
    · rfl
  have typed : (if config.isTyped then [compilerSettings] else []).filter
      ProjectFile.isCreatedOnce = [] := by
    split <;> rfl
  rw [files, List.filter_append, ofCollections, commonFiles]
  simp only [List.filter_append, typed]
  rw [whenHas_eq_nil rfl, whenHas_eq_nil rfl, whenHas_eq_nil rfl]
  rfl

end SchemaScaffold.Project
