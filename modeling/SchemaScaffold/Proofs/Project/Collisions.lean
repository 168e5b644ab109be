import Mathlib.Data.List.NodupEquivFin
import SchemaScaffold.Project.Generation
import SchemaScaffold.Proofs.Collection.Repeats
import SchemaScaffold.Proofs.Project.Confinement

/-! Collections that write the same files, and whether the user is warned. The
warnings compare labels, the files are named by what is made of the labels, and
labels that differ may be made into one name. -/

namespace SchemaScaffold

open Workspace Path Script

/-! ## Repeated labels -/

/-- The warning about a label. -/
def duplicateWarning (label : String) : String :=
  s!"Collection '{label}' appears more than once; later files overwrite earlier ones"

theorem duplicateWarning_injective {label other : String}
    (same : duplicateWarning label = duplicateWarning other) : label = other := by
  unfold duplicateWarning at same
  rwa [String.append_left_inj, String.append_right_inj] at same

/-- The warnings are about the labels that occur more than once. -/
theorem duplicateWarning_mem {label : String} {collections : List Collection} :
    duplicateWarning label ∈ duplicateWarnings collections
      ↔ 2 ≤ (collections.map Collection.label).count label := by
  have warnings : duplicateWarnings collections
      = (repeatedLabels collections).map duplicateWarning := rfl
  rw [warnings, ← mem_repeatedLabels, List.mem_map]
  constructor
  · rintro ⟨other, isRepeated, same⟩
    exact duplicateWarning_injective same ▸ isRepeated
  · exact fun isRepeated => ⟨label, isRepeated, rfl⟩

/-! ## Overwritten files -/

/-- Both collections have a file of one name. -/
def Collide (namesOf : Collection → List String) (collection other : Collection) : Prop :=
  ∃ name ∈ namesOf collection, name ∈ namesOf other

/-- Whenever two entries of a list of collections have a file of one name, there is a
warning about the label of one of them. -/
def OverwritesAreNamed (namesOf : Collection → List String) (collections : List Collection)
    (warnings : List String) : Prop :=
  ∀ (i j : Nat) (collection other : Collection), i ≠ j → collections[i]? = some collection →
    collections[j]? = some other → Collide namesOf collection other →
    duplicateWarning collection.label ∈ warnings ∨ duplicateWarning other.label ∈ warnings

/-- Whether a label occurs more than once in a list of collections. -/
def IsRepeated (collections : List Collection) (label : String) : Prop :=
  2 ≤ (collections.map Collection.label).count label

/-- Of any two labels whose collections have a file of one name, one is repeated. -/
def CollisionsRepeat (namesOf : Collection → List String) (written collections : List Collection) :
    Prop :=
  ∀ collection ∈ written, ∀ other ∈ written, collection.label ≠ other.label →
    Collide namesOf collection other →
    IsRepeated collections collection.label ∨ IsRepeated collections other.label

theorem two_le_count {labels : List String} {i j : Nat} {label : String} (different : i ≠ j)
    (first : labels[i]? = some label) (second : labels[j]? = some label) :
    2 ≤ labels.count label := by
  have ordered {i j : Nat} (before : i < j) (first : labels[i]? = some label)
      (second : labels[j]? = some label) : 2 ≤ labels.count label := by
    rcases List.getElem?_eq_some_iff.mp first with ⟨inFirst, first⟩
    rcases List.getElem?_eq_some_iff.mp second with ⟨inSecond, second⟩
    rw [← List.duplicate_iff_two_le_count, List.duplicate_iff_exists_distinct_get]
    exact ⟨⟨i, inFirst⟩, ⟨j, inSecond⟩, before, first.symm, second.symm⟩
  rcases Nat.lt_or_gt_of_ne different with before | after
  · exact ordered before first second
  · exact ordered after second first

/-- Warnings that compare labels name all overwritten files just if no two labels that
occur once are made into one name. -/
theorem overwritesAreNamed_iff {namesOf : Collection → List String}
    {written collections : List Collection} {warnings : List String}
    (isPart : written.Sublist collections)
    (warned_iff : ∀ label, duplicateWarning label ∈ warnings ↔ IsRepeated collections label) :
    OverwritesAreNamed namesOf written warnings ↔ CollisionsRepeat namesOf written collections := by
  simp only [OverwritesAreNamed, warned_iff]
  constructor
  · intro named collection isFirst other isSecond different collide
    rcases List.mem_iff_getElem?.mp isFirst with ⟨i, first⟩
    rcases List.mem_iff_getElem?.mp isSecond with ⟨j, second⟩
    have apart : i ≠ j := by
      rintro rfl
      rw [first, Option.some.injEq] at second
      exact different (congrArg _ second)
    exact named i j collection other apart first second collide
  · intro repeat_ i j collection other apart first second collide
    by_cases same : collection.label = other.label
    · have labels := isPart.map Collection.label
      have twice : 2 ≤ (written.map Collection.label).count collection.label := by
        refine two_le_count apart (by simp [first]) (by simp [second, same])
      exact .inl (twice.trans (labels.count_le _))
    · exact repeat_ collection (List.mem_of_getElem? first) other (List.mem_of_getElem? second) same collide

/-! ## Projects -/

namespace Project

variable {collections : List Collection} {config : Config}

/-- The files of a collection, as a preview calls them. -/
def sourceNames (config : Config) (collection : Collection) : List String :=
  (collectionFiles config collection).map ProjectFile.name

theorem sourceNames_eq {collection : Collection} (declares : collection.hasDeclared = true) :
    sourceNames config collection = (sourcePlaces config.language).map fun place =>
      normal (joinAll "" ["src", place.1, collection.camel ++ place.2]) := by
  have name_eq (file : ProjectFile) : file.name = normal (joinAll "" file.segments) := rfl
  have names : (sourcesOf config collection).map ProjectFile.name
      = ((sourcesOf config collection).map ProjectFile.segments).map
          fun segments => normal (joinAll "" segments) := by
    rw [List.map_map]
    exact List.map_congr_left fun file _ => name_eq file
  rw [sourceNames, collectionFiles_eq, if_pos declares, names, segments_sourcesOf]
  simp only [List.map_map, Function.comp_def]

/-- A source file of a collection whose label has no slash has a plain path. -/
theorem isPlainName_of_mem_sourcesOf {collection : Collection}
    (noSlash : '/' ∉ collection.label.toList) {file : ProjectFile}
    (isSource : file ∈ sourcesOf config collection) :
    ∀ name ∈ file.segments, IsPlainName name := by
  rcases exists_place isSource with ⟨place, isPlace, equal⟩
  rcases of_mem_sourcePlaces place isPlace with ⟨isSuffix, plain⟩
  have isSuffix := isSuffix_of_mem_sourceSuffixes place.2 isSuffix
  have named : IsPlainName (collection.camel ++ place.2) :=
    ⟨.append (Naming.noSlash_names noSlash).1 isSuffix.noSlash, isSuffix.isName_append _⟩
  rw [equal]
  exact List.forall_mem_append.mpr ⟨plain, List.forall_mem_singleton.mpr named⟩

theorem suffix_eq_of_folder_eq {language : Language} :
    ∀ place ∈ sourcePlaces language, ∀ other ∈ sourcePlaces language, place.1 = other.1 →
      place.2 = other.2 := by
  cases language <;> decide

/-- Collections collide if the names of their files begin with the same text. -/
theorem collide_iff {collection other : Collection} (noSlash : '/' ∉ collection.label.toList)
    (noSlashOther : '/' ∉ other.label.toList) :
    Collide (sourceNames config) collection other ↔ collection.hasDeclared = true ∧
      other.hasDeclared = true ∧ collection.camel = other.camel := by
  constructor
  · rintro ⟨name, isName, isOtherName⟩
    rcases List.mem_map.mp isName with ⟨file, isFile, rfl⟩
    rcases List.mem_map.mp isOtherName with ⟨otherFile, isOtherFile, sameName⟩
    rcases mem_collectionFiles.mp isFile with ⟨declares, isSource⟩
    rcases mem_collectionFiles.mp isOtherFile with ⟨declaresOther, isOtherSource⟩
    refine ⟨declares, declaresOther, ?_⟩
    have plain := isPlainName_of_mem_sourcesOf noSlash isSource
    have plainOther := isPlainName_of_mem_sourcesOf noSlashOther isOtherSource
    rcases exists_place isSource with ⟨place, isPlace, equal⟩
    rcases exists_place isOtherSource with ⟨otherPlace, isOtherPlace, equalOther⟩
    have segments : file.segments = ["src", place.1, collection.camel ++ place.2] :=
      congrArg ProjectFile.segments equal
    have otherSegments :
        otherFile.segments = ["src", otherPlace.1, other.camel ++ otherPlace.2] :=
      congrArg ProjectFile.segments equalOther
    have some : file.segments ≠ [] := by simp [segments]
    have someOther : otherFile.segments ≠ [] := by simp [otherSegments]
    rw [name_eq_intercalate some plain, name_eq_intercalate someOther plainOther] at sameName
    have sameSegments := intercalate_injective someOther plainOther some plain sameName
    rw [segments, otherSegments] at sameSegments
    simp only [List.cons.injEq, true_and, and_true] at sameSegments
    rcases sameSegments with ⟨sameFolder, sameFile⟩
    have sameSuffix := suffix_eq_of_folder_eq otherPlace isOtherPlace place isPlace sameFolder
    rw [sameSuffix, String.append_left_inj] at sameFile
    exact sameFile.symm
  · rintro ⟨declares, declaresOther, same⟩
    have sameNames : sourceNames config other = sourceNames config collection := by
      rw [sourceNames_eq declares, sourceNames_eq declaresOther, same]
    have isName : (sourceNames config collection).head?.isSome := by
      rw [sourceNames_eq declares]
      rfl
    rcases Option.isSome_iff_exists.mp isName with ⟨name, first⟩
    exact ⟨name, List.mem_of_head? first, sameNames ▸ List.mem_of_head? first⟩

theorem warnings_previewOrGenerate {isPreview : Bool} {disk : Disk} {report : GenerationReport}
    (ran : ((previewOrGenerate collections config isPreview).run disk).1 = .ok report) :
    report.warnings = duplicateWarnings collections := by
  rw [previewOrGenerate] at ran
  split at ran
  · cases ran
    rfl
  · rw [generate, run_bind] at ran
    split at ran
    · cases ran
    · rw [run_bind] at ran
      split at ran
      · cases ran
      · cases ran
        rfl

end Project

/-! ## Schema files -/

namespace Sync

variable {collections : List Collection}

/-- The schema file of a collection, if it has one. -/
def schemaNames (language : Language) (moduleSystem : ModuleSystem) (collection : Collection) :
    List String :=
  ((StandaloneSchema.emit collection moduleSystem language).artifact?.map Artifact.fileName).toList

theorem mem_schemaNames {language : Language} {moduleSystem : ModuleSystem}
    {collection : Collection} {name : String} :
    name ∈ schemaNames language moduleSystem collection ↔ collection.hasDeclared = true ∧
      name = StandaloneSchema.fileName collection language := by
  rw [schemaNames, StandaloneSchema.emit, Emission.ofCollection]
  cases collection.hasDeclared <;>
    simp [Emission.artifact?, StandaloneSchema.artifact, @eq_comm _ name]

theorem collide_iff {language : Language} {moduleSystem : ModuleSystem}
    {collection other : Collection} :
    Collide (schemaNames language moduleSystem) collection other ↔ collection.hasDeclared = true ∧
      other.hasDeclared = true ∧ collection.pascal = other.pascal := by
  simp only [Collide, mem_schemaNames, StandaloneSchema.fileName]
  constructor
  · rintro ⟨_, ⟨declares, rfl⟩, declaresOther, same⟩
    exact ⟨declares, declaresOther, by simpa [String.append_left_inj] using same⟩
  · rintro ⟨declares, declaresOther, same⟩
    exact ⟨_, ⟨declares, rfl⟩, declaresOther, by rw [same]⟩

theorem warnings_run {link : Link} {base title : String} {selection : Selection} {disk : Disk}
    {report : SyncReport}
    (ran : ((run collections link base selection title).run disk).1 = .ok report) :
    report.warnings = duplicateWarnings collections ++ unknownWarnings collections selection := by
  rw [run, run_bind] at ran
  split at ran
  · cases ran
  · cases ran
    rfl

/-- The warning about a name that was asked for. -/
def unknownWarning (name : String) : String := s!"No collection named '{name}' in this project"

theorem unknownWarnings_eq (selection : Selection) :
    unknownWarnings collections selection
      = (selection.unknown collections).map unknownWarning := by
  unfold unknownWarnings unknownWarning
  rfl

theorem duplicateWarning_ne_unknownWarning (label name : String) :
    duplicateWarning label ≠ unknownWarning name := by
  intro same
  have first : (duplicateWarning label).toList.head? = (unknownWarning name).toList.head? := by
    rw [same]
  unfold duplicateWarning unknownWarning at first
  simp [toString] at first

/-- The warnings about names that were asked for say something else. -/
theorem duplicateWarning_not_mem_unknownWarnings (label : String) (selection : Selection) :
    duplicateWarning label ∉ unknownWarnings collections selection := by
  rw [unknownWarnings_eq]
  intro isWarning
  rcases List.mem_map.mp isWarning with ⟨name, _, same⟩
  exact duplicateWarning_ne_unknownWarning label name same.symm

end Sync

/-! ## Both -/

namespace Project

/-- What the reports on a project and on its schema files say about files that are
written twice. -/
structure CollisionsReported (collections : List Collection) (config : Config) (link : Link)
    (selection : Selection) : Prop where
  /-- The labels that are warned about are those that occur more than once. -/
  repeated : ∀ label, duplicateWarning label ∈ duplicateWarnings collections
    ↔ IsRepeated collections label
  generated : ∀ isPreview disk report,
    ((previewOrGenerate collections config isPreview).run disk).1 = .ok report →
      (OverwritesAreNamed (sourceNames config) collections report.warnings
        ↔ CollisionsRepeat (sourceNames config) collections collections)
  synced : ∀ base title disk report,
    ((Sync.run collections link base selection title).run disk).1 = .ok report →
      let sync := Sync.ofLink collections link selection
      let names := Sync.schemaNames sync.language sync.moduleSystem
      OverwritesAreNamed names sync.selected report.warnings
        ↔ CollisionsRepeat names sync.selected collections
  /-- Files are written twice when labels are made into one name. -/
  sameSources : ∀ collection other : Collection, '/' ∉ collection.label.toList →
    '/' ∉ other.label.toList →
      (Collide (sourceNames config) collection other ↔ collection.hasDeclared = true ∧
        other.hasDeclared = true ∧ collection.camel = other.camel)
  sameSchema : ∀ collection other : Collection,
    Collide (Sync.schemaNames link.language link.effectiveModuleSystem) collection other
      ↔ collection.hasDeclared = true ∧ other.hasDeclared = true ∧
        collection.pascal = other.pascal

theorem collisions_reported (collections : List Collection) (config : Config) (link : Link)
    (selection : Selection) : CollisionsReported collections config link selection where
  repeated _ := duplicateWarning_mem
  generated isPreview disk report ran := by
    rw [warnings_previewOrGenerate ran]
    exact overwritesAreNamed_iff (List.Sublist.refl _) fun _ => duplicateWarning_mem
  synced base title disk report ran := by
    rw [Sync.warnings_run ran]
    refine overwritesAreNamed_iff List.filter_sublist fun label => ?_
    rw [List.mem_append, duplicateWarning_mem]
    exact or_iff_left (Sync.duplicateWarning_not_mem_unknownWarnings label selection)
  sameSources _ _ noSlash noSlashOther := collide_iff noSlash noSlashOther
  sameSchema _ _ := Sync.collide_iff

/-- Labels that differ in case and in how their words are separated. -/
def similar : List Collection := [titled "Order Item", titled "order_item"]

/-- The second collection silently overwrites the files of the first. -/
theorem overwrites_silently :
    (∃ report, ((previewOrGenerate similar untypedConfig true).run ⟨["home"], []⟩).1 = .ok report ∧
      ¬ OverwritesAreNamed (sourceNames untypedConfig) similar report.warnings) ∧
      ¬ OverwritesAreNamed (Sync.schemaNames .javaScript .commonJs) similar
        (duplicateWarnings similar ++ Sync.unknownWarnings similar .all) := by
  have sameNames : (titled "Order Item").camel = (titled "order_item").camel ∧
      (titled "Order Item").pascal = (titled "order_item").pascal := by
    decide +kernel
  have noWarnings : duplicateWarnings similar = [] := by decide
  have noSlash : '/' ∉ "Order Item".toList ∧ '/' ∉ "order_item".toList := by decide
  have notNamed (namesOf : Collection → List String)
      (collide : Collide namesOf (titled "Order Item") (titled "order_item")) :
      ¬ OverwritesAreNamed namesOf similar [] := by
    intro named
    rcases named 0 1 _ _ (by decide) rfl rfl collide with isWarning | isWarning <;> cases isWarning
  constructor
  · refine ⟨preview similar untypedConfig, rfl, ?_⟩
    have warnings : (preview similar untypedConfig).warnings = [] := noWarnings
    rw [warnings]
    exact notNamed _ ((collide_iff noSlash.1 noSlash.2).mpr ⟨by decide, by decide, sameNames.1⟩)
  · have unknown : Sync.unknownWarnings similar .all = [] := rfl
    rw [noWarnings, unknown, List.append_nil]
    exact notNamed _ (Sync.collide_iff.mpr ⟨by decide, by decide, sameNames.2⟩)

end Project

end SchemaScaffold
