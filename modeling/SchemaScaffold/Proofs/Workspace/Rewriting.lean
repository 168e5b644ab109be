import SchemaScaffold.Proofs.Workspace.Names
import SchemaScaffold.Proofs.Workspace.Writing

/-! Writing over files that are there already. No folder has to be made for them,
so nothing but texts changes on the disk. -/

namespace SchemaScaffold.Workspace

namespace Disk

variable {disk disk' disk'' : Disk} {path text : String} {location : Location}

/-! ## Disks that entries stay on -/

def HasFile (disk : Disk) (location : Location) : Prop :=
  ∃ text, disk.entry? location = some (.file text)

instance (disk : Disk) (location : Location) : Decidable (disk.HasFile location) :=
  match found : disk.entry? location with
  | some (.file text) => .isTrue ⟨text, found⟩
  | some .folder => .isFalse (by simp [HasFile, found])
  | none => .isFalse (by simp [HasFile, found])

/-- Every folder stays a folder, and every file a file. -/
structure KeepsEntries (disk disk' : Disk) : Prop extends KeepsFolders disk disk' where
  files : ∀ location, disk.HasFile location → disk'.HasFile location

namespace KeepsEntries

theorem refl (disk : Disk) : KeepsEntries disk disk := ⟨.refl disk, fun _ isFile => isFile⟩

theorem trans (first : KeepsEntries disk disk') (second : KeepsEntries disk' disk'') :
    KeepsEntries disk disk'' :=
  ⟨first.toKeepsFolders.trans second.toKeepsFolders,
    fun location isFile => second.files location (first.files location isFile)⟩

end KeepsEntries

theorem Grows.keepsEntries (grows : Grows disk disk') : KeepsEntries disk disk' where
  toKeepsFolders := grows.keeps
  files location isFile := by
    rcases isFile with ⟨text, isThere⟩
    exact ⟨text, (grows.same location text).mpr isThere⟩

theorem keepsEntries_write (written : disk.write path text = .ok disk') :
    KeepsEntries disk disk' := by
  rcases write_eq_ok written with ⟨parent, name, _, keeps, isThere, others⟩
  refine ⟨keeps, fun location isFile => ?_⟩
  by_cases isHere : location = parent ++ [name]
  · rw [isHere]
    exact ⟨text, isThere⟩
  · rw [HasFile, others location isHere]
    exact isFile

/-! ## What a path is found to be -/

theorem entryIn_eq_ok {parent : Location} {name : String} {found : Option Entry} :
    disk.entryIn parent name = .ok found ↔
      ¬ nameLimit < name.utf8ByteSize ∧ disk.entry? (parent ++ [name]) = found := by
  rw [entryIn]
  split <;> simp_all

theorem examine_eq_folder : disk.examine path = some .folder ↔
    (∃ location, disk.target path = .ok (.folder location)) ∨
      ∃ parent name endsInSlash, disk.target path = .ok (.name parent name endsInSlash) ∧
        disk.entryIn parent name = .ok (some .folder) := by
  rw [examine]
  constructor
  · intro isFolder
    split at isFolder
    · cases isFolder
    · next location leads => exact .inl ⟨location, leads⟩
    · next parent name endsInSlash leads =>
        split at isFolder
        · next found => exact .inr ⟨parent, name, endsInSlash, leads, found⟩
        · split at isFolder <;> cases isFolder
        · cases isFolder
  · rintro (⟨location, leads⟩ | ⟨parent, name, endsInSlash, leads, found⟩)
    · rw [leads]
    · simp [leads, found]

theorem examine_eq_file : disk.examine path = some .file ↔
    ∃ parent name text, disk.target path = .ok (.name parent name false) ∧
      disk.entryIn parent name = .ok (some (.file text)) := by
  rw [examine]
  constructor
  · intro isFile
    split at isFile
    · cases isFile
    · cases isFile
    · next parent name endsInSlash leads =>
        split at isFile
        · cases isFile
        · next text found =>
            split at isFile
            · cases isFile
            · next noSlash =>
                rw [Bool.eq_false_iff.mpr noSlash] at leads
                exact ⟨parent, name, text, leads, found⟩
        · cases isFile
  · rintro ⟨parent, name, text, leads, found⟩
    simp [leads, found]

theorem KeepsFolders.examine (keeps : KeepsFolders disk disk')
    (isFolder : disk.examine path = some .folder) : disk'.examine path = some .folder := by
  rw [examine_eq_folder] at isFolder ⊢
  rcases isFolder with ⟨location, leads⟩ | ⟨parent, name, endsInSlash, leads, found⟩
  · exact .inl ⟨location, keeps.target leads⟩
  · rw [entryIn_eq_ok] at found
    exact .inr ⟨parent, name, endsInSlash, keeps.target leads,
      entryIn_eq_ok.mpr ⟨found.1, keeps.folders _ found.2⟩⟩

theorem KeepsEntries.examine (keeps : KeepsEntries disk disk')
    (isFile : disk.examine path = some .file) : disk'.examine path = some .file := by
  rw [examine_eq_file] at isFile ⊢
  rcases isFile with ⟨parent, name, text, leads, found⟩
  rw [entryIn_eq_ok] at found
  rcases keeps.files _ ⟨text, found.2⟩ with ⟨text', isThere⟩
  exact ⟨parent, name, text', keeps.target leads, entryIn_eq_ok.mpr ⟨found.1, isThere⟩⟩

theorem KeepsEntries.isSome_examine (keeps : KeepsEntries disk disk')
    (isThere : (disk.examine path).isSome = true) : (disk'.examine path).isSome = true := by
  rcases Option.isSome_iff_exists.mp isThere with ⟨kind, found⟩
  cases kind with
  | file => rw [keeps.examine found, Option.isSome_some]
  | folder => rw [keeps.toKeepsFolders.examine found, Option.isSome_some]

/-- Something is at the place of a path that ends in a name. -/
theorem IsAt.isSome_entry? (isAt : disk.IsAt path location)
    (isThere : (disk.examine path).isSome = true) : (disk.entry? location).isSome = true := by
  rcases isAt with ⟨parent, name, endsInSlash, leads, rfl⟩
  rcases Option.isSome_iff_exists.mp isThere with ⟨kind, found⟩
  cases kind with
  | file =>
      rcases examine_eq_file.mp found with ⟨_, _, text, leads', isFile⟩
      rw [leads] at leads'
      cases leads'
      rw [(entryIn_eq_ok.mp isFile).2, Option.isSome_some]
  | folder =>
      rcases examine_eq_folder.mp found with ⟨_, leads'⟩ | ⟨_, _, _, leads', isFolder⟩
      · rw [leads] at leads'
        cases leads'
      · rw [leads] at leads'
        cases leads'
        rw [(entryIn_eq_ok.mp isFolder).2, Option.isSome_some]

theorem examine_of_makeFolder (made : disk.makeFolder path = .ok disk') :
    disk'.examine path = some .folder := by
  have keeps := (grows_makeFolder made).keeps
  rw [makeFolder] at made
  split at made
  · cases made
  · cases made
  · next parent name endsInSlash leads =>
      split at made
      · cases made
      · cases made
      · next found =>
          cases made
          refine examine_eq_folder.mpr (.inr ⟨parent, name, endsInSlash, keeps.target leads, ?_⟩)
          refine entryIn_eq_ok.mpr ⟨(entryIn_eq_ok.mp found).1, ?_⟩
          rw [disk.entry?_put (by simp), if_pos rfl]

theorem makeFolder_of_examine (isFolder : disk.examine path = some .folder) :
    disk.makeFolder path = .error .alreadyExists := by
  rw [makeFolder]
  rcases examine_eq_folder.mp isFolder with ⟨location, leads⟩ | ⟨_, _, _, leads, found⟩
  · rw [leads]
  · simp [leads, found]

/-- After a file was written, its path leads to it. -/
theorem found_of_write (written : disk.write path text = .ok disk') :
    ∃ parent name, disk'.target path = .ok (.name parent name false) ∧
      disk'.entryIn parent name = .ok (some (.file text)) := by
  rcases write_eq_ok written with ⟨parent, name, leads, keeps, isThere, _⟩
  have short : ¬ nameLimit < name.utf8ByteSize := by
    intro long
    simp [write, leads, entryIn, long] at written
  exact ⟨parent, name, keeps.target leads, entryIn_eq_ok.mpr ⟨short, isThere⟩⟩

theorem examine_of_write (written : disk.write path text = .ok disk') :
    disk'.examine path = some .file := by
  rcases found_of_write written with ⟨parent, name, leads, found⟩
  exact examine_eq_file.mpr ⟨parent, name, text, leads, found⟩

theorem read_of_write (written : disk.write path text = .ok disk') :
    disk'.read path = .ok text := by
  rcases found_of_write written with ⟨parent, name, leads, found⟩
  simp [read, leads, found]

theorem write_of_examine (isFile : disk.examine path = some .file) (text : String) :
    ∃ location, disk.IsAt path location ∧ disk.HasFile location ∧
      disk.write path text = .ok (disk.put location (.file text)) := by
  rcases examine_eq_file.mp isFile with ⟨parent, name, old, leads, found⟩
  refine ⟨parent ++ [name], ⟨parent, name, false, leads, rfl⟩,
    ⟨old, (entryIn_eq_ok.mp found).2⟩, ?_⟩
  rw [write]
  simp [leads, found]

end Disk

/-! ## Folders that are there -/

open Disk

variable {disk after : Disk} {path text : String}

/-- Once a folder was asked for, it is there. -/
theorem examine_of_existing {answer : Except OsError Unit} {middle : Disk}
    (asked : (Script.folder path).run disk = (answer, middle))
    (ran : (makeChain.existing path answer).run middle = (.ok (), after)) :
    after.examine path = some .folder := by
  have unchanged : after = middle := by rw [← run_existing path answer middle, ran]
  rw [unchanged]
  rw [Script.run_folder] at asked
  rcases Script.attempt_cases disk (disk.makeFolder path) with
    ⟨error, _, equal⟩ | ⟨changed, made, equal⟩
  · rw [equal] at asked
    cases asked
    rw [makeChain.existing.eq_def] at ran
    split at ran
    · rw [Script.run_bind, Script.run_kindOf] at ran
      cases isFolder : disk.examine path == some Kind.folder with
      | true => exact eq_of_beq isFolder
      | false =>
          rw [isFolder] at ran
          cases ran
    · cases ran
  · rw [equal] at asked
    cases asked
    exact examine_of_makeFolder made

/-- The innermost of the folders that were made is there. -/
theorem examine_of_makeChain {paths : List String}
    (ran : (makeChain paths).run disk = (.ok (), after)) :
    ∀ path ∈ paths.head?, after.examine path = some .folder := by
  cases paths with
  | nil => exact fun _ isHead => nomatch isHead
  | cons path above =>
      intro head isHead
      cases isHead
      rcases asked : (Script.folder path).run disk with ⟨answer, middle⟩
      rw [makeChain, Script.run_bind, asked] at ran
      split at ran
      · next made =>
          cases (show answer = .ok () from made)
          exact examine_of_existing asked ran
      · rw [Script.run_bind] at ran
        split at ran
        · cases ran
        · rw [Script.run_bind] at ran
          exact examine_of_existing (Prod.ext rfl rfl) ran
      · exact examine_of_existing asked ran

theorem run_makeChain_of_examine {paths : List String}
    (isThere : ∀ path ∈ paths.head?, disk.examine path = some .folder) :
    (makeChain paths).run disk = (.ok (), disk) := by
  cases paths with
  | nil => rfl
  | cons path above =>
      have isFolder := isThere path rfl
      have asked : (Script.folder path).run disk = (.error .alreadyExists, disk) := by
        rw [Script.run_folder, makeFolder_of_examine isFolder]
        rfl
      rw [makeChain, Script.run_bind, asked]
      change (makeChain.existing path (.error .alreadyExists)).run disk = _
      rw [makeChain.existing, Script.run_bind, Script.run_kindOf, isFolder]
      rfl

/-! ## Files that are there -/

/-- A file is at the path, in a folder that would be found. -/
structure Disk.Ready (disk : Disk) (path : String) : Prop where
  above : ∀ parent ∈ Path.parent? path, ∀ folder ∈ (Path.chain parent).head?,
    disk.examine folder = some .folder
  isFile : disk.examine path = some .file

namespace Disk.Ready

theorem keeps {disk' : Disk} (ready : disk.Ready path) (keeps : KeepsEntries disk disk') :
    disk'.Ready path where
  above parent isParent folder isFirst :=
    keeps.toKeepsFolders.examine (ready.above parent isParent folder isFirst)
  isFile := keeps.examine ready.isFile

/-- What was written can be written again. -/
theorem of_writeFile (ran : (writeFile path text).run disk = (.ok (), after)) :
    after.Ready path := by
  rcases run_writeFile_eq_ok ran with ⟨middle, made, written⟩
  refine ⟨fun parent isParent folder isFirst => ?_, examine_of_write written⟩
  have chained : (makeFolders parent).run disk = (.ok (), middle) := by
    rw [makeParent, Option.mem_def.mp isParent] at made
    rw [Script.run_bind] at made
    rcases outcome : (makeFolders parent).run disk with ⟨result, reached⟩
    rw [outcome] at made
    cases result with
    | error cause => cases made
    | ok done =>
        cases made
        rfl
  exact (keepsEntries_write written).toKeepsFolders.examine
    (examine_of_makeChain chained folder isFirst)

theorem run_writeFile (ready : disk.Ready path) (text : String) :
    ∃ location, disk.IsAt path location ∧ disk.HasFile location ∧
      (writeFile path text).run disk = (.ok (), disk.put location (.file text)) := by
  rcases write_of_examine ready.isFile text with ⟨location, isAt, isFile, written⟩
  have made : (makeParent path).run disk = (.ok (), disk) := by
    rw [makeParent]
    split
    · rfl
    · next parent isParent =>
        have chained : (makeFolders parent).run disk = (.ok (), disk) :=
          run_makeChain_of_examine (ready.above parent isParent)
        rw [Script.run_bind, chained]
        rfl
  refine ⟨location, isAt, isFile, ?_⟩
  rw [writeFile, Script.run_bind, made, Script.run_bind, Script.run_file, written]
  rfl

end Disk.Ready

/-! ## Entries whose texts changed -/

/-- The same entries in the same order, except for the texts of files. Of several
entries for one location only the first one counts, and none counts for a
location that is `fixed`; the others stay. -/
inductive Retexted : (fixed : List Location) → List (Location × Entry) → List (Location × Entry) →
    Prop
  | nil {fixed} : Retexted fixed [] []
  | same {fixed location entry rest rest'} (behind : Retexted (location :: fixed) rest rest') :
      Retexted fixed ((location, entry) :: rest) ((location, entry) :: rest')
  | changed {fixed location text text' rest rest'} (notFixed : location ∉ fixed)
      (behind : Retexted (location :: fixed) rest rest') :
      Retexted fixed ((location, .file text) :: rest) ((location, .file text') :: rest')

namespace Retexted

variable {fixed : List Location} {entries entries' entries'' : List (Location × Entry)}
variable {location : Location}

theorem refl (fixed : List Location) (entries : List (Location × Entry)) :
    Retexted fixed entries entries := by
  induction entries generalizing fixed with
  | nil => exact .nil
  | cons head rest induction => exact .same (induction _)

theorem trans (first : Retexted fixed entries entries')
    (second : Retexted fixed entries' entries'') : Retexted fixed entries entries'' := by
  induction first generalizing entries'' with
  | nil => exact second
  | same _ induction =>
      cases second with
      | same behind => exact .same (induction behind)
      | changed notFixed behind => exact .changed notFixed (induction behind)
  | changed notFixed _ induction =>
      cases second with
      | same behind => exact .changed notFixed (induction behind)
      | changed _ behind => exact .changed notFixed (induction behind)

theorem putEntry {old : String} (isFile : entries.lookup location = some (.file old))
    (notFixed : location ∉ fixed) (text : String) :
    Retexted fixed entries (putEntry location (.file text) entries) := by
  induction entries generalizing fixed with
  | nil => cases isFile
  | cons head rest induction =>
      rcases head with ⟨first, existing⟩
      rw [lookup_cons_entry] at isFile
      rw [Workspace.putEntry]
      by_cases isHere : location = first
      · rw [if_pos isHere] at isFile
        cases isFile
        rw [if_pos isHere.symm, isHere]
        exact .changed (isHere ▸ notFixed) (refl _ _)
      · rw [if_neg isHere] at isFile
        rw [if_neg (Ne.symm isHere)]
        exact .same (induction isFile (List.not_mem_cons_of_ne_of_not_mem isHere notFixed))

/-- What is found is the same, or both are files. -/
theorem lookup (retexted : Retexted fixed entries entries') (location : Location) :
    entries'.lookup location = entries.lookup location ∨
      ∃ old text, entries.lookup location = some (.file old) ∧
        entries'.lookup location = some (.file text) := by
  induction retexted with
  | nil => exact .inl rfl
  | same _ induction =>
      rw [lookup_cons_entry, lookup_cons_entry]
      split
      · exact .inl rfl
      · exact induction
  | changed _ _ induction =>
      rw [lookup_cons_entry, lookup_cons_entry]
      split
      · exact .inr ⟨_, _, rfl, rfl⟩
      · exact induction

/-- What is found alike in all entries is found alike behind the first one. -/
theorem lookup_behind {first : Location} {entry entry' : Entry}
    (same : ∀ location, location ∉ fixed →
      ((first, entry') :: entries').lookup location = ((first, entry) :: entries).lookup location) :
    ∀ location, location ∉ first :: fixed →
      entries'.lookup location = entries.lookup location := by
  intro location notFixed
  rw [List.mem_cons, not_or] at notFixed
  have found := same location notFixed.2
  rwa [lookup_cons_entry, lookup_cons_entry, if_neg notFixed.1, if_neg notFixed.1] at found

/-- Entries in which the same is found everywhere are the same. -/
theorem eq_of_lookup (retexted : Retexted fixed entries entries')
    (same : ∀ location, location ∉ fixed → entries'.lookup location = entries.lookup location) :
    entries' = entries := by
  induction retexted with
  | nil => rfl
  | same _ induction => rw [induction (lookup_behind same)]
  | @changed fixed first text text' rest rest' notFixed _ induction =>
      have here := same first notFixed
      rw [lookup_cons_entry, lookup_cons_entry, if_pos rfl, if_pos rfl] at here
      rw [Option.some.inj here, induction (lookup_behind same)]

end Retexted

namespace Disk

variable {disk' disk'' : Disk} {location : Location}

/-- The same folders, and files at the same locations. Their texts may differ. -/
structure SameTree (disk disk' : Disk) : Prop where
  workingFolder : disk'.workingFolder = disk.workingFolder
  folders : ∀ location, disk'.entry? location = some .folder ↔ disk.entry? location = some .folder
  files : ∀ location, disk'.HasFile location ↔ disk.HasFile location

namespace SameTree

theorem refl (disk : Disk) : SameTree disk disk := ⟨rfl, fun _ => .rfl, fun _ => .rfl⟩

theorem symm (same : SameTree disk disk') : SameTree disk' disk :=
  ⟨same.workingFolder.symm, fun location => (same.folders location).symm,
    fun location => (same.files location).symm⟩

theorem trans (first : SameTree disk disk') (second : SameTree disk' disk'') :
    SameTree disk disk'' :=
  ⟨second.workingFolder.trans first.workingFolder,
    fun location => (second.folders location).trans (first.folders location),
    fun location => (second.files location).trans (first.files location)⟩

theorem keepsEntries (same : SameTree disk disk') : KeepsEntries disk disk' where
  workingFolder := same.workingFolder
  folders location := (same.folders location).mpr
  files location := (same.files location).mpr

theorem isAt_iff (same : SameTree disk disk') :
    disk'.IsAt path location ↔ disk.IsAt path location :=
  ⟨fun isAt => isAt.keeps same.symm.keepsEntries.toKeepsFolders,
    fun isAt => isAt.keeps same.keepsEntries.toKeepsFolders⟩

/-- Where no file has another text, the entry is the same. -/
theorem entry?_eq (same : SameTree disk disk') (sameFile : SameFile disk disk' location) :
    disk'.entry? location = disk.entry? location := by
  have ofFile (text : String) := sameFile text
  have ofFolder := same.folders location
  cases found : disk.entry? location with
  | none =>
      cases found' : disk'.entry? location with
      | none => rfl
      | some entry =>
          cases entry with
          | file text => simp [(ofFile text).mp found'] at found
          | folder => simp [ofFolder.mp found'] at found
  | some entry =>
      cases entry with
      | file text => exact (ofFile text).mpr found
      | folder => exact ofFolder.mpr found

end SameTree

/-- The one disk became the other by writing over files. -/
structure Rewritten (disk disk' : Disk) : Prop where
  workingFolder : disk'.workingFolder = disk.workingFolder
  entries : Retexted [[]] disk.entries disk'.entries

namespace Rewritten

theorem refl (disk : Disk) : Rewritten disk disk := ⟨rfl, .refl _ _⟩

theorem trans (first : Rewritten disk disk') (second : Rewritten disk' disk'') :
    Rewritten disk disk'' :=
  ⟨second.workingFolder.trans first.workingFolder, first.entries.trans second.entries⟩

theorem put (isFile : disk.HasFile location) (text : String) :
    Rewritten disk (disk.put location (.file text)) := by
  rcases isFile with ⟨old, found⟩
  unfold entry? at found
  split at found
  · cases found
  · next named =>
      refine ⟨rfl, .putEntry found ?_ text⟩
      rw [List.mem_singleton]
      rintro rfl
      exact named rfl

theorem entry?_cases (rewritten : Rewritten disk disk') (location : Location) :
    disk'.entry? location = disk.entry? location ∨
      disk.HasFile location ∧ disk'.HasFile location := by
  unfold HasFile entry?
  split
  · exact .inl rfl
  · rcases rewritten.entries.lookup location with same | ⟨old, text, found, found'⟩
    · exact .inl same
    · exact .inr ⟨⟨old, found⟩, text, found'⟩

theorem sameTree (rewritten : Rewritten disk disk') : SameTree disk disk' where
  workingFolder := rewritten.workingFolder
  folders location := by
    rcases rewritten.entry?_cases location with same | ⟨⟨_, found⟩, _, found'⟩
    · rw [same]
    · simp [found, found']
  files location := by
    rcases rewritten.entry?_cases location with same | ⟨isFile, isFile'⟩
    · rw [HasFile, same]
      rfl
    · exact iff_of_true isFile' isFile

/-- A disk on which every file got its old text back is the old disk. -/
theorem eq_of_entry? (rewritten : Rewritten disk disk')
    (same : ∀ location, disk'.entry? location = disk.entry? location) : disk' = disk := by
  have entries : disk'.entries = disk.entries := by
    refine rewritten.entries.eq_of_lookup fun location notRoot => ?_
    have named : location.isEmpty = false := by simpa using notRoot
    rw [lookup_entries disk named, lookup_entries disk' named]
    exact same location
  cases disk
  cases disk'
  exact Disk.mk.injEq .. ▸ ⟨rewritten.workingFolder, entries⟩

end Rewritten

end Disk

end SchemaScaffold.Workspace
