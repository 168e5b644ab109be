import SchemaScaffold.Proofs.Workspace.Changes

/-! What a file and the folders that it needs change on a disk. -/

namespace SchemaScaffold.Workspace

open Disk

/-- An attempt changes the disk only if it succeeds. -/
theorem Script.attempt_cases (disk : Disk) (result : Except OsError Disk) :
    (∃ error, result = .error error ∧ attempt disk result = (.error error, disk)) ∨
      ∃ changed, result = .ok changed ∧ attempt disk result = (.ok (), changed) := by
  cases result with
  | error error => exact .inl ⟨error, rfl, rfl⟩
  | ok changed => exact .inr ⟨changed, rfl, rfl⟩

theorem grows_folder (path : String) (disk : Disk) :
    Grows disk ((Script.folder path).run disk).2 := by
  change Grows disk (Script.attempt disk (disk.makeFolder path)).2
  rcases Script.attempt_cases disk (disk.makeFolder path) with
    ⟨_, _, equal⟩ | ⟨changed, made, equal⟩
  · rw [equal]
    exact .refl disk
  · rw [equal]
    exact grows_makeFolder made

theorem run_existing (path : String) (answer : Except OsError Unit) (disk : Disk) :
    ((makeChain.existing path answer).run disk).2 = disk := by
  rw [makeChain.existing.eq_def]
  split
  · rw [Script.run_bind]
    split <;> rfl
  · rfl

/-- Making folders changes no file, even if it ends in an error. -/
theorem grows_makeChain (paths : List String) (disk : Disk) :
    Grows disk ((makeChain paths).run disk).2 := by
  induction paths generalizing disk with
  | nil => exact .refl disk
  | cons path above induction =>
      have made := grows_folder path disk
      rw [makeChain, Script.run_bind]
      split
      · exact made
      · rw [Script.run_bind]
        have madeAbove := induction ((Script.folder path).run disk).2
        split
        · exact made.trans madeAbove
        · rw [Script.run_bind, run_existing]
          exact made.trans (madeAbove.trans (grows_folder path _))
      · rw [run_existing]
        exact made

theorem grows_makeParent (path : String) (disk : Disk) :
    Grows disk ((makeParent path).run disk).2 := by
  rw [makeParent]
  split
  · exact .refl disk
  · next parent _ =>
      rw [Script.run_bind]
      exact grows_makeChain (Path.chain parent) disk

/-- A file is written after the folders that it needs were made. -/
theorem run_writeFile_eq_ok {path text : String} {disk after : Disk}
    (ran : (writeFile path text).run disk = (.ok (), after)) :
    ∃ middle, (makeParent path).run disk = (.ok (), middle) ∧
      middle.write path text = .ok after := by
  rw [writeFile, Script.run_bind] at ran
  rcases made : (makeParent path).run disk with ⟨result, middle⟩
  rw [made] at ran
  cases result with
  | error fault => cases ran
  | ok done =>
      have attempted : (Script.file path text).run middle
          = Script.attempt middle (middle.write path text) := rfl
      rw [Script.run_bind, attempted] at ran
      rcases Script.attempt_cases middle (middle.write path text) with
        ⟨error, _, equal⟩ | ⟨changed, written, equal⟩
      · rw [equal] at ran
        cases ran
      · rw [equal] at ran
        cases ran
        exact ⟨middle, rfl, written⟩

theorem writeFile_eq_ok {path text : String} {disk after : Disk}
    (ran : (writeFile path text).run disk = (.ok (), after)) :
    ∃ middle, Grows disk middle ∧ middle.write path text = .ok after := by
  rcases run_writeFile_eq_ok ran with ⟨middle, made, written⟩
  have grows := grows_makeParent path disk
  rw [made] at grows
  exact ⟨middle, grows, written⟩

/-- The fault is about a file of this path or about the folder that it is in. -/
def WriteFault.IsAbout (fault : WriteFault) (path : String) : Prop :=
  (∃ cause, fault = .file path cause) ∨
    ∃ parent cause, Path.parent? path = some parent ∧ fault = .folder parent cause

theorem makeParent_eq_error {path : String} {disk after : Disk} {fault : WriteFault}
    (ran : (makeParent path).run disk = (.error fault, after)) : fault.IsAbout path := by
  rw [makeParent] at ran
  split at ran
  · cases ran
  · next parent isParent =>
      rw [Script.run_bind] at ran
      rcases made : (makeFolders parent).run disk with ⟨result, reached⟩
      rw [made] at ran
      cases result with
      | ok done => cases ran
      | error cause =>
          cases ran
          exact .inr ⟨parent, cause, isParent, rfl⟩

/-- A file that cannot be written changes no other file. -/
theorem writeFile_eq_error {path text : String} {disk after : Disk} {fault : WriteFault}
    (ran : (writeFile path text).run disk = (.error fault, after)) :
    Grows disk after ∧ fault.IsAbout path := by
  have grows := grows_makeParent path disk
  rw [writeFile, Script.run_bind] at ran
  rcases made : (makeParent path).run disk with ⟨result, middle⟩
  rw [made] at ran grows
  cases result with
  | error cause =>
      cases ran
      exact ⟨grows, makeParent_eq_error made⟩
  | ok done =>
      have attempted : (Script.file path text).run middle
          = Script.attempt middle (middle.write path text) := rfl
      rw [Script.run_bind, attempted] at ran
      rcases Script.attempt_cases middle (middle.write path text) with
        ⟨error, _, equal⟩ | ⟨changed, _, equal⟩
      · rw [equal] at ran
        cases ran
        exact ⟨grows, .inl ⟨error, rfl⟩⟩
      · rw [equal] at ran
        cases ran

end SchemaScaffold.Workspace
