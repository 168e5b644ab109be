import SchemaScaffold.Workspace.Files

/-! What may change on a disk while folders are made and files are written. A
folder always stays a folder, so a path that leads somewhere keeps leading
there. -/

namespace SchemaScaffold.Workspace

/-! ## Entries -/

theorem lookup_cons_entry (location other : Location) (entry : Entry)
    (rest : List (Location × Entry)) :
    ((location, entry) :: rest).lookup other
      = if other = location then some entry else rest.lookup other := by
  rw [List.lookup_cons]
  cases same : other == location with
  | true => rw [if_pos (eq_of_beq same)]
  | false => rw [if_neg (ne_of_beq_false same)]

theorem lookup_putEntry (location other : Location) (entry : Entry)
    (entries : List (Location × Entry)) :
    (putEntry location entry entries).lookup other
      = if other = location then some entry else entries.lookup other := by
  induction entries with
  | nil => exact lookup_cons_entry ..
  | cons head rest induction =>
      rcases head with ⟨first, existing⟩
      rw [putEntry]
      by_cases isHere : first = location
      · rw [if_pos isHere, lookup_cons_entry, lookup_cons_entry, isHere]
        by_cases same : other = location <;> simp [same]
      · rw [if_neg isHere, lookup_cons_entry, lookup_cons_entry, induction]
        by_cases same : other = first
        · subst same
          simp [isHere]
        · simp [same]

namespace Disk

variable {disk disk' disk'' : Disk}

theorem lookup_entries (disk : Disk) {location : Location} (named : location.isEmpty = false) :
    disk.entries.lookup location = disk.entry? location := by
  unfold entry?
  rw [named, if_neg Bool.false_ne_true]

theorem entry?_put (disk : Disk) {location : Location} (named : location ≠ []) (entry : Entry)
    (other : Location) :
    Disk.entry? (disk.put location entry) other
      = if other = location then some entry else disk.entry? other := by
  unfold entry? put
  cases other with
  | nil => simp [named.symm]
  | cons _ _ => exact lookup_putEntry _ _ _ _

/-! ## Disks that folders stay on -/

/-- Every folder of the one disk is a folder of the other. -/
structure KeepsFolders (disk disk' : Disk) : Prop where
  workingFolder : disk'.workingFolder = disk.workingFolder
  folders : ∀ location, disk.entry? location = some .folder →
    disk'.entry? location = some .folder

namespace KeepsFolders

theorem refl (disk : Disk) : KeepsFolders disk disk := ⟨rfl, fun _ isFolder => isFolder⟩

theorem trans (first : KeepsFolders disk disk') (second : KeepsFolders disk' disk'') :
    KeepsFolders disk disk'' :=
  ⟨second.workingFolder.trans first.workingFolder,
    fun location isFolder => second.folders location (first.folders location isFolder)⟩

theorem enter (keeps : KeepsFolders disk disk') {folder inner : Location} {name : String}
    (entered : disk.enter folder name = .ok inner) : disk'.enter folder name = .ok inner := by
  rw [Disk.enter, entryIn] at entered ⊢
  split at entered
  · rwa [if_pos ‹_›]
  · rw [if_neg ‹_›]
    split at entered
    · rwa [if_pos ‹_›]
    · rw [if_neg ‹_›]
      by_cases long : nameLimit < name.utf8ByteSize
      · simp [long] at entered
      · simp only [long, if_false] at entered ⊢
        cases found : disk.entry? (folder ++ [name]) with
        | none => simp [found] at entered
        | some entry =>
            cases entry with
            | file text => simp [found] at entered
            | folder =>
                rw [found] at entered
                rw [keeps.folders _ found]
                exact entered

theorem follow (keeps : KeepsFolders disk disk') {endsInSlash : Bool} {segments : List String}
    {folder : Location} {target : Target}
    (followed : disk.follow folder endsInSlash segments = .ok target) :
    disk'.follow folder endsInSlash segments = .ok target := by
  induction segments generalizing folder with
  | nil => exact followed
  | cons segment rest induction =>
      cases rest with
      | nil =>
          rw [Disk.follow] at followed ⊢
          split at followed
          · rwa [if_pos ‹_›]
          · rw [if_neg ‹_›]
            cases entered : disk.enter folder segment with
            | error error =>
                rw [entered] at followed
                cases followed
            | ok inner =>
                rw [entered] at followed
                rw [keeps.enter entered]
                exact followed
      | cons next others =>
          rw [Disk.follow] at followed ⊢
          cases entered : disk.enter folder segment with
          | error error =>
              rw [entered] at followed
              cases followed
          | ok inner =>
              rw [entered] at followed
              rw [keeps.enter entered]
              exact induction followed

/-- A path leads to the same place as before. -/
theorem target (keeps : KeepsFolders disk disk') {path : String} {target : Target}
    (leads : disk.target path = .ok target) : disk'.target path = .ok target := by
  rw [Disk.target, start] at leads ⊢
  rw [keeps.workingFolder]
  split at leads
  · cases leads
  · rw [if_neg ‹_›]
    split at leads
    · cases leads
    · rw [if_neg ‹_›]
      split at leads
      · cases leads
      · rw [if_neg ‹_›]
        exact keeps.follow leads

end KeepsFolders

/-! ## Disks with the same files -/

/-- A regular file is at the location, with this text, on both disks or on none. -/
def SameFile (disk disk' : Disk) (location : Location) : Prop :=
  ∀ text, disk'.entry? location = some (.file text) ↔ disk.entry? location = some (.file text)

namespace SameFile

variable {location : Location}

theorem refl (disk : Disk) (location : Location) : SameFile disk disk location := fun _ => Iff.rfl

theorem trans (first : SameFile disk disk' location) (second : SameFile disk' disk'' location) :
    SameFile disk disk'' location := fun text => (second text).trans (first text)

theorem of_entry?_eq (equal : disk'.entry? location = disk.entry? location) :
    SameFile disk disk' location := fun _ => by rw [equal]

end SameFile

/-- Only folders were made. -/
structure Grows (disk disk' : Disk) : Prop where
  keeps : KeepsFolders disk disk'
  same : ∀ location, SameFile disk disk' location

namespace Grows

theorem refl (disk : Disk) : Grows disk disk := ⟨.refl disk, .refl disk⟩

theorem trans (first : Grows disk disk') (second : Grows disk' disk'') : Grows disk disk'' :=
  ⟨first.keeps.trans second.keeps,
    fun location => (first.same location).trans (second.same location)⟩

end Grows

/-! ## Single accesses -/

theorem grows_makeFolder {path : String} (made : disk.makeFolder path = .ok disk') :
    Grows disk disk' := by
  rw [makeFolder] at made
  split at made
  · cases made
  · cases made
  · next parent name _ _ =>
      rw [entryIn] at made
      by_cases long : nameLimit < name.utf8ByteSize
      · simp [long] at made
      · cases found : disk.entry? (parent ++ [name]) with
        | some entry => simp [long, found] at made
        | none =>
            simp only [long, if_false, found, Except.ok.injEq] at made
            subst made
            have named : parent ++ [name] ≠ [] := by simp
            have entries := disk.entry?_put named .folder
            refine ⟨⟨rfl, fun location isFolder => ?_⟩, fun location text => ?_⟩
            · rw [entries]
              split
              · rfl
              · exact isFolder
            · rw [entries]
              split
              · next isHere => simp [isHere, found]
              · rfl

/-- A file that was written is where its path leads, and is all that changed. -/
theorem write_eq_ok {path text : String} (written : disk.write path text = .ok disk') :
    ∃ parent name, disk.target path = .ok (.name parent name false) ∧
      KeepsFolders disk disk' ∧
      disk'.entry? (parent ++ [name]) = some (.file text) ∧
      ∀ other, other ≠ parent ++ [name] → disk'.entry? other = disk.entry? other := by
  rw [write] at written
  split at written
  · cases written
  · cases written
  · next parent name endsInSlash leads =>
      split at written
      · cases written
      · next noSlash =>
          rw [entryIn] at written
          by_cases long : nameLimit < name.utf8ByteSize
          · simp [long] at written
          · have named : parent ++ [name] ≠ [] := by simp
            have notFolder : disk.entry? (parent ++ [name]) ≠ some .folder := by
              intro isFolder
              simp [long, isFolder] at written
            have put : disk.put (parent ++ [name]) (.file text) = disk' := by
              revert written
              simp only [long, if_false]
              exact Except.ok.inj
            subst put
            refine ⟨parent, name, ?_, ⟨rfl, fun location isFolder => ?_⟩, ?_, ?_⟩
            · rw [leads, Bool.eq_false_iff.mpr noSlash]
            · rw [disk.entry?_put named, if_neg]
              · exact isFolder
              · intro equal
                rw [equal] at isFolder
                exact notFolder isFolder
            · rw [disk.entry?_put named, if_pos rfl]
            · intro other different
              rw [disk.entry?_put named, if_neg different]

end Disk

end SchemaScaffold.Workspace
