import Mathlib.Data.List.Nodup
import SchemaScaffold.Project.Generation
import SchemaScaffold.Proofs.Project.FileNames
import SchemaScaffold.Proofs.Project.Saving
import SchemaScaffold.Proofs.Workspace.Rewriting

/-! What a project that was written leaves on the disk, compared to its preview
and to what was there before. -/

namespace SchemaScaffold.Project

open Workspace Disk

variable {collections : List Collection} {config : Config} {folder : String}
variable {start after : Disk} {saved : SavedFiles}

theorem mem_of_mem_turns {turn : ProjectFile × Disk} {files : List ProjectFile}
    (isTurn : turn ∈ turns folder files start) : turn.1 ∈ files := by
  rw [← map_turns folder files start]
  exact List.mem_map_of_mem isTurn

/-- Each of the user's files has one turn only. -/
theorem turn_unique {turn other : ProjectFile × Disk}
    (isTurn : turn ∈ turns folder (files collections config) start)
    (isOther : other ∈ turns folder (files collections config) start)
    (once : turn.1.isCreatedOnce = true) (otherOnce : other.1.isCreatedOnce = true)
    (same : turn.1.segments = other.1.segments) : turn = other := by
  have segments := filter_isCreatedOnce collections config
  rw [← map_turns folder (files collections config) start, List.filter_map,
    List.map_map] at segments
  have nodup : (((turns folder (files collections config) start).filter
      (ProjectFile.isCreatedOnce ∘ Prod.fst)).map (ProjectFile.segments ∘ Prod.fst)).Nodup := by
    rw [segments]
    decide
  exact List.inj_on_of_nodup_map nodup (List.mem_filter.mpr ⟨isTurn, once⟩)
    (List.mem_filter.mpr ⟨isOther, otherOnce⟩) same

/-- A file that is kept and one that is written never have the same place, because
their names differ. -/
theorem not_isAt_of_isKept {turn other : ProjectFile × Disk} {location : Location}
    (isTurn : turn ∈ turns folder (files collections config) start)
    (isOther : other ∈ turns folder (files collections config) start)
    (kept : isKept folder turn = true) (written : isKept folder other = false)
    (isAt : after.IsAt (turn.1.path folder) location) :
    ¬ after.IsAt (other.1.path folder) location := by
  intro isAt'
  have once : turn.1.isCreatedOnce = true := (Bool.and_eq_true_iff.mp kept).1
  rcases exists_hasName (mem_of_mem_turns isTurn) with ⟨name, hasName⟩
  rcases exists_hasName (mem_of_mem_turns isOther) with ⟨name', hasName'⟩
  have ends := isAt.getLast? (hasName.ends folder) hasName.named
  have ends' := isAt'.getLast? (hasName'.ends folder) hasName'.named
  rw [ends] at ends'
  cases ends'
  have otherOnce := hasName'.createdOnce.mpr (hasName.createdOnce.mp once)
  have same := (hasName.whole once).trans (hasName'.whole otherOnce).symm
  rw [turn_unique isTurn isOther once otherOnce same, written] at kept
  cases kept

theorem skipped_eq (collections : List Collection) (config : Config) :
    skipped collections config
      = (collections.filter fun collection => !collection.hasDeclared).map fun collection =>
          ⟨collection.label, .noFields⟩ := by
  rw [skipped]
  exact Emission.skipped_ofCollection (Model.artifact · config.language) collections

/-- How the preview of a project, the report on writing it and the disk before and
after fit together. -/
structure Agreement (collections : List Collection) (config : Config) (folder : String)
    (start after : Disk) (saved : SavedFiles) : Prop where
  /-- The preview shows the files in the order in which they have their turns. -/
  preview : (preview collections config).result
    = .preview ((turns folder (files collections config) start).map fun turn =>
        (turn.1.name, turn.1.content))
  createdOnce : ∀ file ∈ files collections config,
    file.isCreatedOnce = true ↔ file.segments ∈ [[".env"], [".env.example"], ["README.md"]]
  kept : saved.kept = ((turns folder (files collections config) start).filter
    (isKept folder)).map fun turn => turn.1.name
  written : saved.written = ((turns folder (files collections config) start).filter
    fun turn => !isKept folder turn).map fun turn => turn.1.name
  located : ∀ file ∈ files collections config,
    ∃ location, after.IsAt (file.path folder) location
  /-- Where a file was written, there is the last file of the preview that has this
  place. -/
  lastContent : ∀ turn ∈ turns folder (files collections config) start,
    isKept folder turn = false → ∀ location, after.IsAt (turn.1.path folder) location →
      ∃ earlier last later, files collections config = earlier ++ last :: later ∧
        after.IsAt (last.path folder) location ∧
        (∀ other ∈ later, ¬ after.IsAt (other.path folder) location) ∧
        after.entry? location = some (.file last.content)
  keptContent : ∀ turn ∈ turns folder (files collections config) start,
    isKept folder turn = true → ∀ location, after.IsAt (turn.1.path folder) location →
      ∀ text, after.entry? location = some (.file text) ↔ start.entry? location = some (.file text)
  /-- No file appears, changes or disappears where none was written. -/
  otherContent : ∀ location,
    (∀ turn ∈ turns folder (files collections config) start, isKept folder turn = false →
      ¬ after.IsAt (turn.1.path folder) location) →
    ∀ text, after.entry? location = some (.file text) ↔ start.entry? location = some (.file text)
  skipped : (report collections config (.written folder saved.written saved.kept)).skipped
    = (collections.filter fun collection => !collection.hasDeclared).map fun collection =>
        ⟨collection.label, .noFields⟩

/-- Whatever was on the disk, a project that is written to its end agrees with its
preview. -/
theorem write_agrees
    (ran : (write collections config folder).run start = (.ok saved, after)) :
    Agreement collections config folder start after saved := by
  have saves := saveAll_saves ran
  have kept_not_written : ∀ turn ∈ turns folder (files collections config) start,
      isKept folder turn = true → ∀ location, after.IsAt (turn.1.path folder) location →
        ∀ other ∈ turns folder (files collections config) start, isKept folder other = false →
          ¬ after.IsAt (other.1.path folder) location :=
    fun turn isTurn kept location isAt other isOther written =>
      not_isAt_of_isKept isTurn isOther kept written isAt
  exact
    { preview := by
        have shown : (preview collections config).result
            = .preview ((files collections config).map fun file => (file.name, file.content)) := rfl
        rw [shown, ← map_turns folder (files collections config) start, List.map_map,
          map_turns]
        rfl
      createdOnce := by
        intro file isFile
        rcases exists_hasName isFile with ⟨name, hasName⟩
        exact hasName.atTop
      kept := saves.kept
      written := saves.written
      located := by
        intro file isFile
        rw [← map_turns folder (files collections config) start] at isFile
        rcases List.mem_map.mp isFile with ⟨turn, isTurn, rfl⟩
        rcases exists_hasName (mem_of_mem_turns isTurn) with ⟨name, hasName⟩
        rcases saves.leads turn isTurn with ⟨target, leads⟩
        exact exists_isAt leads (hasName.ends folder) hasName.named
      lastContent := by
        intro turn isTurn written location isAt
        rcases saves.content turn isTurn written location isAt with
          ⟨earlier, last, later, equal, isAtLast, notLater, there⟩
        refine ⟨earlier.map Prod.fst, last.1, later.map Prod.fst, ?_, isAtLast, ?_, there⟩
        · rw [← map_turns folder (files collections config) start, equal]
          simp
        · intro other isOther isAtOther
          rcases List.mem_map.mp isOther with ⟨otherTurn, isLater, rfl⟩
          have isOtherTurn : otherTurn ∈ turns folder (files collections config) start := by
            rw [equal]
            simp [isLater]
          cases otherKept : isKept folder otherTurn with
          | false => exact notLater otherTurn isLater otherKept isAtOther
          | true => exact kept_not_written _ isOtherTurn otherKept _ isAtOther _ isTurn written isAt
      keptContent := by
        intro turn isTurn kept location isAt
        exact saves.untouched location (kept_not_written turn isTurn kept location isAt)
      otherContent := saves.untouched
      skipped := skipped_eq collections config }

/-- A folder in which the environment of a project is already there. -/
def usedFolder : Disk :=
  ⟨["home"],
    [(["home"], .folder), (["home", "demo"], .folder),
     (["home", "demo", ".env"], .file "PORT=1\n")]⟩

def plainConfig : Config := ⟨"demo", .javaScript, .empty, "demo"⟩

/-- Two collections that share their files but not their fields. -/
def titledOrder : Collection := ⟨"Order Item", [{ name := "title", typeTag := "string" }]⟩

def countedOrder : Collection := ⟨"order_item", [{ name := "count", typeTag := "number" }]⟩

def bothOrders : List Collection := [titledOrder, countedOrder, ⟨"Draft", []⟩]

def modelFile (collection : Collection) : ProjectFile :=
  .ofArtifact "models" (Model.artifact collection plainConfig.language)

def orderModel : Location := ["home", "demo", "src", "models", "orderItem.model.js"]

/-- The environment is kept, and of the two models at one place the later one stays. -/
theorem run_write_bothOrders :
    ∃ saved after, (write bothOrders plainConfig "demo").run usedFolder = (.ok saved, after) ∧
      saved.kept = [".env"] ∧
      (∀ collection ∈ [titledOrder, countedOrder],
        after.IsAt ((modelFile collection).path "demo") orderModel) ∧
      after.entry? orderModel = some (.file (modelFile countedOrder).content) ∧
      ∀ location ∈ [["home", "demo", "README.md"], ["home", "demo", "src", "app.js"]],
        after.HasFile location := by
  have facts :
      ((write bothOrders plainConfig "demo").run usedFolder).1.toOption.map SavedFiles.kept
          = some [".env"] ∧
        (∀ collection ∈ [titledOrder, countedOrder],
          Disk.IsAt ((write bothOrders plainConfig "demo").run usedFolder).2
            ((modelFile collection).path "demo") orderModel) ∧
        Disk.entry? ((write bothOrders plainConfig "demo").run usedFolder).2 orderModel
          = some (.file (modelFile countedOrder).content) ∧
        ∀ location ∈ [["home", "demo", "README.md"], ["home", "demo", "src", "app.js"]],
          Disk.HasFile ((write bothOrders plainConfig "demo").run usedFolder).2 location := by
    decide +kernel
  rcases ran : (write bothOrders plainConfig "demo").run usedFolder with ⟨result, after⟩
  rw [ran] at facts
  cases result with
  | error fault => cases facts.1
  | ok saved => exact ⟨saved, after, rfl, Option.some.inj facts.1, facts.2⟩

theorem write_usedFolder :
    ∃ saved after, (write bothOrders plainConfig "demo").run usedFolder = (.ok saved, after) ∧
      Agreement bothOrders plainConfig "demo" usedFolder after saved ∧ saved.kept = [".env"] ∧
      (modelFile titledOrder).content ≠ (modelFile countedOrder).content ∧
      (∀ collection ∈ [titledOrder, countedOrder],
        after.IsAt ((modelFile collection).path "demo") orderModel) ∧
      after.entry? orderModel = some (.file (modelFile countedOrder).content) := by
  have different : (modelFile titledOrder).content ≠ (modelFile countedOrder).content := by
    decide +kernel
  rcases run_write_bothOrders with ⟨saved, after, ran, kept, areAt, written, _⟩
  exact ⟨saved, after, ran, write_agrees ran, kept, different, areAt, written⟩

end SchemaScaffold.Project
