import SchemaScaffold.Project.Writing
import SchemaScaffold.Proofs.Project.FileNames
import SchemaScaffold.Proofs.Text.Blanks
import SchemaScaffold.Proofs.Workspace.Access
import SchemaScaffold.Proofs.Workspace.Confinement
import SchemaScaffold.Sync.Writing

/-! Which files are generated outside of the folder that they are meant for. All
names are fixed but for those that are made from labels, and a name keeps the
slashes and dots of its label. So whether everything stays inside is a matter of the
labels alone. -/

namespace SchemaScaffold

open Workspace Path Script

/-! ## The files that are written -/

theorem ProjectFile.mayWrite_save {file : ProjectFile} {base path : String} :
    (file.save base).MayWrite path ↔ path = file.path base := by
  have write_iff : (file.write base).MayWrite path ↔ path = file.path base := by
    rw [ProjectFile.write, mayWrite_bind_pure, mayWrite_writeFile]
  rw [ProjectFile.save]
  split
  · rw [mayWrite_bind]
    constructor
    · rintro (⟨_, looked⟩ | ⟨isThere, _, writes⟩)
      · exact looked.elim
      · revert writes
        split
        · exact False.elim
        · exact write_iff.mp
    · exact fun same => .inr ⟨false, ⟨none, rfl⟩, write_iff.mpr same⟩
  · exact write_iff

theorem ProjectFile.mayGive_save (file : ProjectFile) (base : String) :
    (file.save base).MayGive (.ok .written) := by
  have writes : (file.write base).MayGive (.ok .written) :=
    mayGive_bind.mpr ⟨.ok (), mayGive_writeFile _ _, rfl⟩
  rw [ProjectFile.save]
  split
  · exact mayGive_bind.mpr ⟨false, ⟨none, rfl⟩, writes⟩
  · exact writes

theorem Project.mayWrite_saveAll {base path : String} {files : List ProjectFile} :
    (Project.saveAll base files).MayWrite path ↔ ∃ file ∈ files, path = file.path base := by
  induction files with
  | nil => simp [Project.saveAll]
  | cons file rest induction =>
      rw [Project.saveAll, mayWrite_bind_ok (fun _ => id) (fun _ => mayWrite_bind_pure)
        (file.mayGive_save base), ProjectFile.mayWrite_save, induction]
      simp

theorem Sync.mayWrite_saveAll {folder path : String} {files : List Artifact} :
    (Sync.saveAll folder files).MayWrite path ↔ ∃ file ∈ files, path = join folder file.fileName := by
  induction files with
  | nil => simp [Sync.saveAll]
  | cons file rest induction =>
      rw [Sync.saveAll, mayWrite_bind_ok (fun _ => id) (fun _ => mayWrite_bind_pure)
        (mayGive_writeFile _ _), mayWrite_writeFile, induction]
      simp

/-- Every file that is written below a folder lies under it, whatever the folder. -/
def IsConfined {α : Type} (generate : String → Script α) : Prop :=
  ∀ folder path, (generate folder).MayWrite path → LiesUnder folder path

/-- No file outside of the folder changes when a confined script is run. -/
theorem IsConfined.sameFile {α : Type} {generate : String → Script α}
    (confined : IsConfined generate) (folder : String) (disk : Disk) {location : Location}
    (outside : ∀ path, LiesUnder folder path →
      ¬ ((generate folder).run disk).2.IsAt path location) :
    Disk.SameFile disk ((generate folder).run disk).2 location :=
  ((generate folder).run_sameFile disk).2 location fun path writes =>
    outside path (confined folder path writes)

/-! ## Projects -/

namespace Project

variable {collections : List Collection} {config : Config}

theorem path_eq_join {file : ProjectFile} (isFile : file ∈ files collections config)
    (base : String) : file.path base = join base (file.path "") := by
  have starts : ∃ first rest, file.segments = first :: rest ∧ first ≠ "" := by
    rcases List.mem_append.mp isFile with ofCollection | isCommon
    · rcases List.mem_flatMap.mp ofCollection with ⟨collection, _, isFile⟩
      rcases exists_place (mem_collectionFiles.mp isFile).2 with ⟨place, _, equal⟩
      exact ⟨"src", _, congrArg ProjectFile.segments equal, by decide⟩
    · have has := hasPlainPath_of_mem_commonFiles _ _ file isCommon
      rcases List.exists_cons_of_ne_nil has.segments_ne_nil with ⟨first, rest, segments⟩
      exact ⟨first, rest, segments, (has.plain first (segments ▸ List.mem_cons_self)).ne_empty⟩
  rcases starts with ⟨first, rest, segments, some⟩
  rw [ProjectFile.path, ProjectFile.path, segments, joinAll_eq_join some]

theorem isConfined_write_iff_files :
    IsConfined (write collections config)
      ↔ ∀ file ∈ files collections config, StaysBelow (file.path "") := by
  constructor
  · intro confined file isFile
    rw [← liesUnder_join_iff]
    intro folder
    rw [← path_eq_join isFile]
    exact confined folder _ (mayWrite_saveAll.mpr ⟨file, isFile, rfl⟩)
  · intro stay folder path writes
    rcases mayWrite_saveAll.mp writes with ⟨file, isFile, rfl⟩
    rw [path_eq_join isFile]
    exact liesUnder_join_iff.mpr (stay file isFile) folder

theorem isSuffix_of_mem_sourceSuffixes : ∀ suffix ∈ sourceSuffixes, IsSuffix suffix := by
  have noSlash : ∀ suffix ∈ sourceSuffixes, Code.Lacks '/' suffix := by
    simp [sourceSuffixes, Code.Lacks]
  have ends : ∀ suffix ∈ sourceSuffixes, suffix.toList.getLast? = some 's' := by decide
  exact fun suffix isSource => ⟨noSlash suffix isSource, 's', ends suffix isSource, by decide⟩

/-- The source files of a collection lie two folders below the project's own. -/
theorem path_of_mem_sourcesOf {collection : Collection} {file : ProjectFile}
    (isSource : file ∈ sourcesOf config collection) :
    isAbsolute (file.path "") = isAbsolute collection.camel ∧
      (StaysBelow (file.path "") ↔ StaysWithin 2 collection.camel) := by
  rcases exists_place isSource with ⟨place, isPlace, equal⟩
  rcases of_mem_sourcePlaces place isPlace with ⟨isSuffix, plain⟩
  have isSuffix := isSuffix_of_mem_sourceSuffixes place.2 isSuffix
  rw [equal]
  constructor
  · exact (isAbsolute_joinAll_concat (List.cons_ne_nil _ _) plain _).trans
      (isSuffix.isAbsolute_append collection.camel)
  · exact (staysBelow_joinAll_concat (List.cons_ne_nil _ _) plain).trans
      (staysWithin_append_suffix isSuffix 2 collection.camel)

/-- A project is confined as far as the names of its collections are. -/
theorem isConfined_write_iff :
    IsConfined (write collections config)
      ↔ ∀ collection ∈ collections, collection.hasDeclared = true →
          StaysWithin 2 collection.camel := by
  rw [isConfined_write_iff_files]
  constructor
  · intro stay collection isCollection declares
    have isSource : ProjectFile.ofArtifact "models" (Model.artifact collection config.language)
        ∈ sourcesOf config collection := List.mem_cons_self
    have isFile := mem_collectionFiles.mpr ⟨declares, isSource⟩
    refine (path_of_mem_sourcesOf isSource).2.mp (stay _ ?_)
    exact List.mem_append_left _ (List.mem_flatMap.mpr ⟨collection, isCollection, isFile⟩)
  · intro within file isFile
    rcases List.mem_append.mp isFile with ofCollection | isCommon
    · rcases List.mem_flatMap.mp ofCollection with ⟨collection, isCollection, isFile⟩
      rcases mem_collectionFiles.mp isFile with ⟨declares, isSource⟩
      exact (path_of_mem_sourcesOf isSource).2.mpr (within collection isCollection declares)
    · have has := hasPlainPath_of_mem_commonFiles _ _ file isCommon
      exact staysBelow_joinAll has.segments_ne_nil has.plain

end Project

/-! ## Schema files -/

namespace Sync

theorem files_eq_map (sync : Sync) :
    sync.files = (sync.selected.filter Collection.hasDeclared).map fun collection =>
      StandaloneSchema.artifact collection sync.moduleSystem sync.language := by
  rw [files, emissions, List.filterMap_map]
  exact Emission.artifacts_ofCollection _ sync.selected

theorem mem_files {sync : Sync} {file : Artifact} :
    file ∈ sync.files ↔ ∃ collection ∈ sync.selected, collection.hasDeclared = true ∧
      file = StandaloneSchema.artifact collection sync.moduleSystem sync.language := by
  rw [files_eq_map, List.mem_map]
  simp only [List.mem_filter, and_assoc, eq_comm]

theorem isSuffix_extension (language : Language) : IsSuffix ("." ++ language.extension) := by
  have noSlash : Code.Lacks '/' ("." ++ language.extension) := by cases language <;> decide
  have ends : ("." ++ language.extension).toList.getLast? = some 's' := by
    cases language <;> decide
  exact ⟨noSlash, 's', ends, by decide⟩

/-- A schema file lies in its folder itself. -/
theorem path_fileName (collection : Collection) (language : Language) :
    let path := StandaloneSchema.fileName collection language
    isAbsolute path = isAbsolute collection.pascal ∧
      (StaysBelow path ↔ StaysWithin 0 collection.pascal) := by
  have isSuffix := isSuffix_extension language
  rw [StandaloneSchema.fileName, String.append_assoc]
  exact ⟨isSuffix.isAbsolute_append _, staysWithin_append_suffix isSuffix 0 _⟩

theorem isConfined_write_iff {sync : Sync} :
    IsConfined sync.write
      ↔ ∀ collection ∈ sync.selected, collection.hasDeclared = true →
          StaysWithin 0 collection.pascal := by
  constructor
  · intro confined collection isSelected declares
    rw [← (path_fileName collection sync.language).2, ← liesUnder_join_iff]
    intro folder
    exact confined folder _
      (mayWrite_saveAll.mpr ⟨_, mem_files.mpr ⟨collection, isSelected, declares, rfl⟩, rfl⟩)
  · intro within folder path writes
    rcases mayWrite_saveAll.mp writes with ⟨file, isFile, rfl⟩
    rcases mem_files.mp isFile with ⟨collection, isSelected, declares, rfl⟩
    have stays := within collection isSelected declares
    rw [← (path_fileName collection sync.language).2, ← liesUnder_join_iff] at stays
    exact stays folder

end Sync

/-! ## Both -/

namespace Project

/-- Which labels keep a project and the schema files for a linked one inside. -/
structure ConfinedByLabels (collections : List Collection) (config : Config) (sync : Sync) :
    Prop where
  project : IsConfined (write collections config)
    ↔ ∀ collection ∈ collections, collection.hasDeclared = true → StaysWithin 2 collection.camel
  schemas : IsConfined sync.write
    ↔ ∀ collection ∈ sync.selected, collection.hasDeclared = true →
        StaysWithin 0 collection.pascal
  /-- Labels without a slash always do. -/
  ofLabels : (∀ collection ∈ collections ++ sync.collections, '/' ∉ collection.label.toList) →
    IsConfined (write collections config) ∧ IsConfined sync.write
  /-- Then all other files on a disk stay as they are. -/
  outside : IsConfined (write collections config) → ∀ folder disk location,
    (∀ path, LiesUnder folder path →
      ¬ ((write collections config folder).run disk).2.IsAt path location) →
    Disk.SameFile disk ((write collections config folder).run disk).2 location

theorem confined_by_labels (collections : List Collection) (config : Config) (sync : Sync) :
    ConfinedByLabels collections config sync where
  project := isConfined_write_iff
  schemas := Sync.isConfined_write_iff
  ofLabels noSlash := by
    rw [List.forall_mem_append] at noSlash
    constructor
    · rw [isConfined_write_iff]
      exact fun collection isCollection _ =>
        staysWithin_of_noSlash (Naming.noSlash_names (noSlash.1 collection isCollection)).1 2
    · rw [Sync.isConfined_write_iff]
      intro collection isSelected _
      have isCollection := (List.mem_filter.mp isSelected).1
      exact staysWithin_of_noSlash (Naming.noSlash_names (noSlash.2 collection isCollection)).2 0
  outside confined folder disk _ := confined.sameFile folder disk

/-- A collection of one field. -/
def titled (label : String) : Collection := ⟨label, [{ name := "title", typeTag := "string" }]⟩

def untypedConfig : Config := ⟨"demo", .javaScript, .empty, "out"⟩

/-- Labels with pairs of dots lead out of the folder. -/
theorem generation_escapes :
    (∃ path, (write [titled "../../../evil"] untypedConfig "out").MayWrite path ∧
        ¬ LiesUnder "out" path) ∧
      ∃ path, ((Sync.make [titled "../evil"] .javaScript .commonJs .all).write "out").MayWrite path ∧
        ¬ LiesUnder "out" path := by
  constructor
  · let collection := titled "../../../evil"
    let model := ProjectFile.ofArtifact "models" (Model.artifact collection .javaScript)
    have isSource : model ∈ sourcesOf untypedConfig collection := List.mem_cons_self
    have isFile : model ∈ files [collection] untypedConfig := by
      have ofCollection := mem_collectionFiles.mpr ⟨by decide, isSource⟩
      exact List.mem_append_left _
        (List.mem_flatMap.mpr ⟨collection, List.mem_singleton_self _, ofCollection⟩)
    have climbs : isAbsolute collection.camel = false ∧ ¬ StaysWithin 2 collection.camel := by
      decide +kernel
    rcases path_of_mem_sourcesOf isSource with ⟨absolute, staysBelow_iff⟩
    refine ⟨model.path "out", mayWrite_saveAll.mpr ⟨model, isFile, rfl⟩, ?_⟩
    rw [path_eq_join isFile, liesUnder_join_of_relative (absolute.trans climbs.1), staysBelow_iff]
    exact climbs.2
  · let collection := titled "../evil"
    let sync := Sync.make [collection] .javaScript .commonJs .all
    have isSelected : collection ∈ sync.selected := List.mem_singleton_self _
    have isFile := Sync.mem_files.mpr ⟨collection, isSelected, by decide, rfl⟩
    have climbs : isAbsolute collection.pascal = false ∧ ¬ StaysWithin 0 collection.pascal := by
      decide +kernel
    rcases Sync.path_fileName collection .javaScript with ⟨absolute, staysBelow_iff⟩
    refine ⟨_, Sync.mayWrite_saveAll.mpr ⟨_, isFile, rfl⟩, ?_⟩
    exact fun lies => climbs.2 (staysBelow_iff.mp
      ((liesUnder_join_of_relative (absolute.trans climbs.1) "out").mp lies))

end Project

end SchemaScaffold
