import SchemaScaffold.Proofs.Project.Collisions
import SchemaScaffold.Proofs.Project.Saving

/-! What the schema files that were written leave in the folder of a link: the
selected collections are in the report, their schemas are on the disk, and what
was asked for in vain is warned about. -/

namespace SchemaScaffold

open Workspace Disk

namespace Sync

/-! ## Schema files as files of a project -/

/-- A schema file lies in its folder itself and is never kept. -/
def schemaFile (artifact : Artifact) : ProjectFile := ⟨[artifact.fileName], artifact.content, false⟩

theorem run_save_schemaFile (folder : String) (artifact : Artifact) (disk : Disk) :
    ((schemaFile artifact).save folder).run disk
      = (((writeFile (Path.join folder artifact.fileName) artifact.content).run disk).1.map
            fun () => .written,
          ((writeFile (Path.join folder artifact.fileName) artifact.content).run disk).2) := by
  have notKept : ¬ Project.isKept folder (schemaFile artifact, disk) = true := Bool.false_ne_true
  rw [ProjectFile.run_save, if_neg notKept, ProjectFile.run_write]
  rfl

/-- Schema files are saved as those of a project are, but for how a fault is told. -/
theorem run_saveAll (folder : String) (files : List Artifact) (disk : Disk) :
    (saveAll folder files).run disk
      = ((((Project.saveAll folder (files.map schemaFile)).run disk).1.mapError
            ProjectFault.fault).map fun _ => files.map Artifact.fileName,
          ((Project.saveAll folder (files.map schemaFile)).run disk).2) := by
  induction files generalizing disk with
  | nil => rfl
  | cons file rest induction =>
      have first := run_save_schemaFile folder file disk
      rw [saveAll, Script.run_bind]
      rcases written : (writeFile (Path.join folder file.fileName) file.content).run disk with
        ⟨result, middle⟩
      rw [written] at first
      simp only [List.map_cons]
      cases result with
      | error fault =>
          rw [Project.run_saveAll_of_error first]
          rfl
      | ok done =>
          rw [Project.run_saveAll_of_ok first]
          simp only [Script.run_bind, Script.run_pure, induction]
          cases ((Project.saveAll folder (rest.map schemaFile)).run middle).1 <;> rfl

/-! ## The schemas of a selection -/

variable {sync : Sync} {folder : String} {start after : Disk}

/-- The selected collections that have a schema file. -/
def declaring (sync : Sync) : List Collection := sync.selected.filter Collection.hasDeclared

def schema (sync : Sync) (collection : Collection) : Artifact :=
  StandaloneSchema.artifact collection sync.moduleSystem sync.language

/-- Where the schema file of a collection belongs. -/
def schemaPath (sync : Sync) (folder : String) (collection : Collection) : String :=
  Path.join folder (StandaloneSchema.fileName collection sync.language)

theorem path_schema (sync : Sync) (folder : String) (collection : Collection) :
    (schemaFile (sync.schema collection)).path folder = sync.schemaPath folder collection := by
  rw [ProjectFile.path, schemaFile, Path.joinAll, List.foldl_cons, List.foldl_nil, schemaPath,
    schema, StandaloneSchema.artifact]

theorem files_eq (sync : Sync) : sync.files = sync.declaring.map sync.schema :=
  sync.files_eq_map

theorem skipped_eq (sync : Sync) :
    sync.skipped = (sync.selected.filter fun collection => !collection.hasDeclared).map
      fun collection => ⟨collection.label, .noFields⟩ := by
  rw [skipped, emissions, List.filterMap_map]
  exact Emission.skipped_ofCollection sync.schema sync.selected

/-- The collections whose files have their turns, each with the disk as it is then. -/
theorem exists_collection {turn : ProjectFile × Disk}
    (isTurn : turn ∈ Project.turns folder (sync.files.map schemaFile) start) :
    ∃ collection ∈ sync.declaring, turn.1 = schemaFile (sync.schema collection) := by
  have isFile := List.mem_map_of_mem (f := Prod.fst) isTurn
  rw [Project.map_turns, files_eq, List.map_map] at isFile
  rcases List.mem_map.mp isFile with ⟨collection, isDeclaring, equal⟩
  exact ⟨collection, isDeclaring, equal.symm⟩

theorem isKept_turn {turn : ProjectFile × Disk}
    (isTurn : turn ∈ Project.turns folder (sync.files.map schemaFile) start) :
    Project.isKept folder turn = false := by
  rcases exists_collection isTurn with ⟨collection, _, equal⟩
  rw [Project.isKept, equal]
  rfl

theorem exists_turn {collection : Collection} (isDeclaring : collection ∈ sync.declaring) :
    ∃ turn ∈ Project.turns folder (sync.files.map schemaFile) start,
      turn.1 = schemaFile (sync.schema collection) := by
  have isFile : schemaFile (sync.schema collection) ∈ sync.files.map schemaFile := by
    rw [files_eq]
    exact List.mem_map_of_mem (List.mem_map_of_mem isDeclaring)
  rw [← Project.map_turns folder (sync.files.map schemaFile) start] at isFile
  rcases List.mem_map.mp isFile with ⟨turn, isTurn, equal⟩
  exact ⟨turn, isTurn, equal⟩

/-- A path that leads to the folder's files leads to a name. -/
theorem exists_location {collection : Collection} {target : Target}
    (leads : after.target (sync.schemaPath folder collection) = .ok target) :
    ∃ location, after.IsAt (sync.schemaPath folder collection) location := by
  have isSuffix := isSuffix_extension sync.language
  rcases Project.lastSegment_of_suffix collection.pascal isSuffix.noSlash.isCut_eq_false with
    ⟨before, ends⟩
  rw [← String.append_assoc] at ends
  exact exists_isAt leads ((Path.lastSegment_join _ _).trans ends) (isSuffix.isName_append before)

theorem mem_selected {collection : Collection} : collection ∈ sync.selected ↔
    collection ∈ sync.collections ∧ sync.selection.includes collection = true :=
  List.mem_filter

/-! ## What is on the disk -/

section Saves

variable {saved : SavedFiles} {collection : Collection} {location : Location}
variable (saves : Project.Saves folder (Project.turns folder (sync.files.map schemaFile) start)
  start after saved)

include saves

theorem exists_location_of_saves (isDeclaring : collection ∈ sync.declaring) :
    ∃ location, after.IsAt (sync.schemaPath folder collection) location := by
  rcases exists_turn isDeclaring with ⟨turn, isTurn, equal⟩
  rcases saves.leads turn isTurn with ⟨target, leads⟩
  rw [equal, path_schema] at leads
  exact exists_location leads

/-- Where schemas were written, there is that of the last collection of this place. -/
theorem lastContent_of_saves (isDeclaring : collection ∈ sync.declaring)
    (isAt : after.IsAt (sync.schemaPath folder collection) location) :
    ∃ earlier last later, sync.declaring = earlier ++ last :: later ∧
      after.IsAt (sync.schemaPath folder last) location ∧
      (∀ other ∈ later, ¬ after.IsAt (sync.schemaPath folder other) location) ∧
      after.entry? location = some (.file (sync.schema last).content) := by
  rcases exists_turn isDeclaring with ⟨turn, isTurn, equal⟩
  have isTurnAt : after.IsAt (turn.1.path folder) location := by
    rwa [equal, path_schema]
  rcases saves.content turn isTurn (isKept_turn isTurn) location isTurnAt with
    ⟨earlier, last, later, split, isLastAt, noneLater, there⟩
  -- The turns are those of the collections one by one, so both lists split alike.
  have files := congrArg (List.map Prod.fst) split
  rw [Project.map_turns, files_eq, List.map_map, List.map_append, List.map_cons,
    List.map_eq_append_iff] at files
  rcases files with ⟨before, others, whole, _, equalOthers⟩
  rcases List.map_eq_cons_iff.mp equalOthers with ⟨written, behind, rfl, equalLast, equalLater⟩
  rw [← equalLast, Function.comp_apply] at isLastAt there
  rw [path_schema] at isLastAt
  refine ⟨before, written, behind, whole, isLastAt, ?_, there⟩
  intro other isOther
  have isFile := List.mem_map_of_mem (f := schemaFile ∘ sync.schema) isOther
  rw [equalLater] at isFile
  rcases List.mem_map.mp isFile with ⟨otherTurn, isLater, equalOther⟩
  have isOtherTurn : otherTurn ∈ Project.turns folder (sync.files.map schemaFile) start := by
    rw [split]
    simp [isLater]
  have notThere := noneLater otherTurn isLater (isKept_turn isOtherTurn)
  rwa [equalOther, Function.comp_apply, path_schema] at notThere

theorem sameFile_of_saves
    (noneThere : ∀ collection ∈ sync.declaring,
      ¬ after.IsAt (sync.schemaPath folder collection) location) :
    SameFile start after location := by
  refine saves.untouched location fun turn isTurn _ isAt => ?_
  rcases exists_collection isTurn with ⟨collection, isDeclaring, equal⟩
  rw [equal, path_schema] at isAt
  exact noneThere collection isDeclaring isAt

end Saves

/-! ## Warnings -/

/-- A name selects the collections whose label it is and those that are called so in
code. -/
def Selects (name : String) (collection : Collection) : Prop :=
  name = collection.label ∨ name = collection.pascal

theorem refersTo_iff {name : String} {collection : Collection} :
    Selection.refersTo name collection = true ↔ Selects name collection := by
  simp [Selection.refersTo, Selects]

theorem includes_iff {selection : Selection} {collection : Collection} :
    selection.includes collection = true ↔
      selection = .all ∨
        ∃ names, selection = .named names ∧ ∃ name ∈ names, Selects name collection := by
  cases selection with
  | all => simp [Selection.includes]
  | named names => simp [Selection.includes, refersTo_iff]

theorem unknownWarning_injective {name other : String}
    (same : unknownWarning name = unknownWarning other) : name = other := by
  unfold unknownWarning at same
  rwa [String.append_left_inj, String.append_right_inj] at same

theorem unknownWarning_mem {name : String} {collections : List Collection} {selection : Selection} :
    unknownWarning name ∈ duplicateWarnings collections ++ unknownWarnings collections selection ↔
      ∃ names, selection = .named names ∧ name ∈ names ∧
        ∀ collection ∈ collections, ¬ Selects name collection := by
  have notDuplicate : unknownWarning name ∉ duplicateWarnings collections := by
    intro isWarning
    rcases List.mem_map.mp isWarning with ⟨label, _, same⟩
    exact duplicateWarning_ne_unknownWarning label name same
  rw [List.mem_append, or_iff_right notDuplicate, unknownWarnings_eq,
    List.mem_map_of_injective fun _ _ => unknownWarning_injective]
  cases selection with
  | all => simp [Selection.unknown]
  | named names => simp [Selection.unknown, ← refersTo_iff]

/-! ## Runs that succeed -/

variable {collections : List Collection} {link : Link} {base title : String}
variable {selection : Selection} {report : SyncReport}

theorem run_eq_ok
    (ran : (run collections link base selection title).run start = (.ok report, after)) :
    let sync := ofLink collections link selection
    (∃ saved, (Project.saveAll (link.modelsFolder base) (sync.files.map schemaFile)).run start
        = (.ok saved, after)) ∧
      report.written = sync.files.map Artifact.fileName ∧ report.skipped = sync.skipped := by
  rw [run, Script.run_bind, write, run_saveAll] at ran
  rcases saves : (Project.saveAll (link.modelsFolder base)
    ((ofLink collections link selection).files.map schemaFile)).run start with ⟨result, reached⟩
  rw [saves] at ran
  cases result with
  | error fault => cases ran
  | ok saved =>
      cases ran
      exact ⟨⟨saved, saves⟩, rfl, rfl⟩

/-- How a selection, the report on writing its schemas and the disk before and after
fit together. -/
structure WritesSelection (sync : Sync) (folder : String) (start after : Disk)
    (report : SyncReport) : Prop where
  selects : ∀ collection, collection ∈ sync.selected ↔ collection ∈ sync.collections ∧
    (sync.selection = .all ∨
      ∃ names, sync.selection = .named names ∧ ∃ name ∈ names, Selects name collection)
  inOrder : sync.selected.Sublist sync.collections
  written : report.written = (sync.selected.filter Collection.hasDeclared).map fun collection =>
    StandaloneSchema.fileName collection sync.language
  skipped : report.skipped = (sync.selected.filter fun collection => !collection.hasDeclared).map
    fun collection => ⟨collection.label, .noFields⟩
  /-- Every selected collection is in the report once. -/
  once : report.written.length + report.skipped.length = sync.selected.length
  preview : report.written = sync.files.map Artifact.fileName
  located : ∀ collection ∈ sync.declaring,
    ∃ location, after.IsAt (sync.schemaPath folder collection) location
  /-- Where schemas were written, there is that of the last collection of this place. -/
  lastContent : ∀ collection ∈ sync.declaring, ∀ location,
    after.IsAt (sync.schemaPath folder collection) location →
      ∃ earlier last later, sync.declaring = earlier ++ last :: later ∧
        after.IsAt (sync.schemaPath folder last) location ∧
        (∀ other ∈ later, ¬ after.IsAt (sync.schemaPath folder other) location) ∧
        after.entry? location = some (.file (sync.schema last).content)
  /-- No file appears, changes or disappears anywhere else. -/
  otherContent : ∀ location,
    (∀ collection ∈ sync.declaring, ¬ after.IsAt (sync.schemaPath folder collection) location) →
    ∀ text, after.entry? location = some (.file text) ↔ start.entry? location = some (.file text)
  /-- A name that was asked for is warned about just if it selects nothing. -/
  unknown : ∀ name, unknownWarning name ∈ report.warnings ↔
    ∃ names, sync.selection = .named names ∧ name ∈ names ∧
      ∀ collection ∈ sync.collections, ¬ Selects name collection

theorem run_writes_selection
    (ran : (run collections link base selection title).run start = (.ok report, after)) :
    WritesSelection (ofLink collections link selection) (link.modelsFolder base) start after
      report := by
  rcases run_eq_ok ran with ⟨⟨saved, saving⟩, written, skipped⟩
  have saves := Project.saveAll_saves saving
  have warnings := warnings_run (congrArg Prod.fst ran)
  have writtenNames : report.written = (ofLink collections link selection).declaring.map
      fun collection => StandaloneSchema.fileName collection link.language := by
    rw [written, files_eq, List.map_map]
    rfl
  rw [skipped_eq] at skipped
  exact
    { selects := by
        intro collection
        rw [mem_selected, includes_iff]
      inOrder := List.filter_sublist
      written := writtenNames
      skipped := skipped
      once := by
        rw [writtenNames, skipped, List.length_map, List.length_map]
        exact (List.length_eq_length_filter_add _).symm
      preview := written
      located := fun _ isDeclaring => exists_location_of_saves saves isDeclaring
      lastContent := fun _ isDeclaring _ isAt => lastContent_of_saves saves isDeclaring isAt
      otherContent := fun _ noneThere => sameFile_of_saves saves noneThere
      unknown := by
        intro name
        rw [warnings]
        exact unknownWarning_mem }

/-- A backend folder that has a schema from an earlier run. -/
def syncedFolder : Disk :=
  ⟨["home"],
    [(["home"], .folder), (["home", "models"], .folder),
     (["home", "models", "OrderItem.js"], .file "stale")]⟩

def linkOfModels : Link := ⟨"prj-1", "models", .javaScript, .commonJs, 0⟩

/-- Two labels are made into the name that is asked for, one collection has no
fields, and one name is asked for in vain. -/
theorem run_syncedFolder :
    let collections := Project.similar ++ [⟨"Draft", []⟩, Project.titled "User"]
    let selection := Selection.named ["OrderItem", "Draft", "Ghost"]
    ∃ report after,
      (run collections linkOfModels "" selection "Shop").run syncedFolder = (.ok report, after) ∧
      WritesSelection (ofLink collections linkOfModels selection) (linkOfModels.modelsFolder "")
        syncedFolder after report ∧
      report.written = ["OrderItem.js", "OrderItem.js"] ∧
      report.skipped = [⟨"Draft", .noFields⟩] ∧
      report.warnings = ["No collection named 'Ghost' in this project"] := by
  intro collections selection
  have succeeds : (((run collections linkOfModels "" selection "Shop").run syncedFolder).1.map
      fun report => (report.written, report.skipped, report.warnings)).toOption
      = some (["OrderItem.js", "OrderItem.js"], [⟨"Draft", .noFields⟩],
          ["No collection named 'Ghost' in this project"]) := by
    decide +kernel
  rcases outcome : (run collections linkOfModels "" selection "Shop").run syncedFolder with
    ⟨result, after⟩
  rw [outcome] at succeeds
  cases result with
  | error fault => cases succeeds
  | ok report =>
      have parts := Option.some.inj succeeds
      rw [Prod.mk.injEq, Prod.mk.injEq] at parts
      exact ⟨report, after, rfl, run_writes_selection outcome, parts⟩

end Sync

end SchemaScaffold
