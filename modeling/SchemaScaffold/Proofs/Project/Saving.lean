import SchemaScaffold.Project.Writing
import SchemaScaffold.Proofs.Workspace.Names
import SchemaScaffold.Proofs.Workspace.Writing

/-! Saving files one after the other. A file that is the user's is kept if
something has its path when its turn comes; every other file is written over
whatever is there. -/

namespace SchemaScaffold

open Workspace Disk

namespace Project

/-- Files, each with the disk as it is when its turn comes. -/
def turns (base : String) : List ProjectFile → Disk → List (ProjectFile × Disk)
  | [], _ => []
  | file :: rest, disk => (file, disk) :: turns base rest ((file.save base).run disk).2

theorem map_turns (base : String) (files : List ProjectFile) (disk : Disk) :
    (turns base files disk).map Prod.fst = files := by
  induction files generalizing disk with
  | nil => rfl
  | cons file rest induction => exact congrArg (file :: ·) (induction _)

/-- Whether a file is the user's and something has its path already. -/
def isKept (base : String) (turn : ProjectFile × Disk) : Bool :=
  turn.1.isCreatedOnce && (turn.2.examine (turn.1.path base)).isSome

end Project

namespace ProjectFile

variable {file : ProjectFile} {base : String} {disk after : Disk} {outcome : Saved}

theorem run_write (file : ProjectFile) (base : String) (disk : Disk) :
    (file.write base).run disk
      = (((writeFile (file.path base) file.content).run disk).1.map fun () => .written,
          ((writeFile (file.path base) file.content).run disk).2) := by
  rw [write, Script.run_bind]
  rfl

/-- Saving a file is writing it, if it is not kept. -/
theorem run_save (file : ProjectFile) (base : String) (disk : Disk) :
    (file.save base).run disk =
      if Project.isKept base (file, disk) then (.ok .kept, disk)
      else (file.write base).run disk := by
  rw [save]
  by_cases once : file.isCreatedOnce = true
  · rw [if_pos once, Script.run_bind, Script.run_isThere, Project.isKept, once, Bool.true_and]
    cases (disk.examine (file.path base)).isSome <;> rfl
  · rw [if_neg once, Project.isKept, Bool.eq_false_iff.mpr once]
    rfl

theorem save_eq_ok (ran : (file.save base).run disk = (.ok outcome, after)) :
    (Project.isKept base (file, disk) = true ∧ outcome = .kept ∧ after = disk) ∨
      Project.isKept base (file, disk) = false ∧ outcome = .written ∧
        (writeFile (file.path base) file.content).run disk = (.ok (), after) := by
  rw [run_save] at ran
  cases isKept : Project.isKept base (file, disk) with
  | true =>
      rw [isKept] at ran
      cases ran
      exact .inl ⟨rfl, rfl, rfl⟩
  | false =>
      rw [isKept, if_neg Bool.false_ne_true, run_write] at ran
      rcases written : (writeFile (file.path base) file.content).run disk with ⟨result, changed⟩
      rw [written] at ran
      cases result with
      | error fault => cases ran
      | ok done =>
          cases ran
          exact .inr ⟨rfl, rfl, rfl⟩

theorem save_eq_error {fault : WriteFault}
    (ran : (file.save base).run disk = (.error fault, after)) :
    (writeFile (file.path base) file.content).run disk = (.error fault, after) := by
  rw [run_save] at ran
  cases isKept : Project.isKept base (file, disk) with
  | true =>
      rw [isKept] at ran
      cases ran
  | false =>
      rw [isKept, if_neg Bool.false_ne_true, run_write] at ran
      rcases written : (writeFile (file.path base) file.content).run disk with ⟨result, changed⟩
      rw [written] at ran
      cases result with
      | ok done => cases ran
      | error cause =>
          cases ran
          rfl

/-- A written file is where its path leads, and no other file is touched. -/
theorem writeFile_location
    (ran : (writeFile (file.path base) file.content).run disk = (.ok (), after)) :
    ∃ location, after.IsAt (file.path base) location ∧ KeepsFolders disk after ∧
      after.entry? location = some (.file file.content) ∧
      ∀ other, other ≠ location → SameFile disk after other := by
  rcases writeFile_eq_ok ran with ⟨middle, grows, written⟩
  rcases write_eq_ok written with ⟨parent, name, leads, keeps, isThere, others⟩
  refine ⟨parent ++ [name], ⟨parent, name, false, keeps.target leads, rfl⟩,
    grows.keeps.trans keeps, isThere, ?_⟩
  intro other different
  exact (grows.same other).trans (.of_entry?_eq (others other different))

theorem target_of_examine {path : String} (isThere : (disk.examine path).isSome = true) :
    ∃ target, disk.target path = .ok target := by
  rw [examine] at isThere
  split at isThere
  · cases isThere
  · next location leads => exact ⟨_, leads⟩
  · next parent name endsInSlash leads => exact ⟨_, leads⟩

end ProjectFile

namespace Project

/-- What saving files in turns comes to. -/
structure Saves (base : String) (turns : List (ProjectFile × Disk)) (start after : Disk)
    (saved : SavedFiles) : Prop where
  written : saved.written
    = (turns.filter fun turn => !isKept base turn).map fun turn => turn.1.name
  kept : saved.kept = (turns.filter (isKept base)).map fun turn => turn.1.name
  keeps : KeepsFolders start after
  /-- Every path leads somewhere in the end. -/
  leads : ∀ turn ∈ turns, ∃ target, after.target (turn.1.path base) = .ok target
  /-- What was written to a location last is what is there. -/
  content : ∀ turn ∈ turns, isKept base turn = false →
    ∀ location, after.IsAt (turn.1.path base) location →
      ∃ earlier last later, turns = earlier ++ last :: later ∧
        after.IsAt (last.1.path base) location ∧
        (∀ other ∈ later, isKept base other = false →
          ¬ after.IsAt (other.1.path base) location) ∧
        after.entry? location = some (.file last.1.content)
  untouched : ∀ location,
    (∀ turn ∈ turns, isKept base turn = false → ¬ after.IsAt (turn.1.path base) location) →
      SameFile start after location

namespace Saves

variable {base : String} {file : ProjectFile} {rest : List (ProjectFile × Disk)}
variable {start middle after : Disk} {saved : SavedFiles}

theorem nil (base : String) (disk : Disk) : Saves base [] disk disk ⟨[], []⟩ where
  written := rfl
  kept := rfl
  keeps := .refl disk
  leads := fun _ isTurn => nomatch isTurn
  content := fun _ isTurn => nomatch isTurn
  untouched := fun _ _ => .refl disk _

/-- A file that is kept changes nothing. -/
theorem cons_kept (saves : Saves base rest start after saved)
    (isKept : isKept base (file, start) = true) :
    Saves base ((file, start) :: rest) start after (saved.add file.name .kept) where
  written := by simp [SavedFiles.add, saves.written, isKept]
  kept := by simp [SavedFiles.add, saves.kept, isKept]
  keeps := saves.keeps
  leads := by
    intro turn isTurn
    rcases List.mem_cons.mp isTurn with rfl | later
    · have isThere := (Bool.and_eq_true_iff.mp isKept).2
      rcases ProjectFile.target_of_examine isThere with ⟨target, leads⟩
      exact ⟨target, saves.keeps.target leads⟩
    · exact saves.leads turn later
  content := by
    intro turn isTurn notKept location isAt
    rcases List.mem_cons.mp isTurn with rfl | later
    · rw [isKept] at notKept
      cases notKept
    · rcases saves.content turn later notKept location isAt with
        ⟨earlier, last, behind, equal, there⟩
      exact ⟨(file, start) :: earlier, last, behind, congrArg _ equal, there⟩
  untouched := fun location noneThere =>
    saves.untouched location fun turn isTurn => noneThere turn (List.mem_cons_of_mem _ isTurn)

/-- A file that is written stays unless a later one comes to the same place. -/
theorem cons_written (saves : Saves base rest middle after saved)
    (notKept : isKept base (file, start) = false)
    (ran : (writeFile (file.path base) file.content).run start = (.ok (), middle)) :
    Saves base ((file, start) :: rest) start after (saved.add file.name .written) := by
  rcases ProjectFile.writeFile_location ran with ⟨here, isHere, keeps, isThere, others⟩
  have isHereAfter := isHere.keeps saves.keeps
  exact
    { written := by simp [SavedFiles.add, saves.written, notKept]
      kept := by simp [SavedFiles.add, saves.kept, notKept]
      keeps := keeps.trans saves.keeps
      leads := by
        intro turn isTurn
        rcases List.mem_cons.mp isTurn with rfl | later
        · rcases isHereAfter with ⟨_, _, _, leads, _⟩
          exact ⟨_, leads⟩
        · exact saves.leads turn later
      content := by
        intro turn isTurn turnNotKept location isAt
        by_cases again : ∃ other ∈ rest, isKept base other = false ∧
            after.IsAt (other.1.path base) location
        · rcases again with ⟨other, isOther, otherNotKept, otherIsAt⟩
          rcases saves.content other isOther otherNotKept location otherIsAt with
            ⟨earlier, last, behind, equal, there⟩
          exact ⟨(file, start) :: earlier, last, behind, congrArg _ equal, there⟩
        · have never : ∀ other ∈ rest, isKept base other = false →
              ¬ after.IsAt (other.1.path base) location :=
            fun other isOther otherNotKept otherIsAt =>
              again ⟨other, isOther, otherNotKept, otherIsAt⟩
          rcases List.mem_cons.mp isTurn with rfl | later
          · have same := isAt.unique isHereAfter
            subst same
            exact ⟨[], (file, start), rest, rfl, isAt, never,
              (saves.untouched location never file.content).mpr isThere⟩
          · exact absurd isAt (never turn later turnNotKept)
      untouched := by
        intro location noneThere
        have different : location ≠ here := by
          intro equal
          rw [equal] at noneThere
          exact noneThere _ (List.mem_cons_self ..) notKept isHereAfter
        exact (others location different).trans (saves.untouched location
          fun turn isTurn => noneThere turn (List.mem_cons_of_mem _ isTurn)) }

end Saves

/-! ## Runs -/

section Runs

variable {base : String} {file : ProjectFile} {rest files : List ProjectFile}
variable {start middle after : Disk}

theorem run_saveAll_of_error {fault : WriteFault}
    (first : (file.save base).run start = (.error fault, middle)) :
    (saveAll base (file :: rest)).run start = (.error ⟨file.name, fault⟩, middle) := by
  rw [saveAll, Script.run_bind, first]
  rfl

theorem run_saveAll_of_ok {outcome : Saved}
    (first : (file.save base).run start = (.ok outcome, middle)) :
    (saveAll base (file :: rest)).run start
      = (((saveAll base rest).run middle).1.map fun files => files.add file.name outcome,
          ((saveAll base rest).run middle).2) := by
  rw [saveAll, Script.run_bind, first]
  simp only [Script.run_bind, Script.run_pure]

theorem saveAll_saves {saved : SavedFiles}
    (ran : (saveAll base files).run start = (.ok saved, after)) :
    Saves base (turns base files start) start after saved := by
  induction files generalizing start saved with
  | nil =>
      cases ran
      exact .nil base _
  | cons file rest induction =>
      rw [turns]
      rcases first : (file.save base).run start with ⟨result, middle⟩
      cases result with
      | error fault =>
          rw [run_saveAll_of_error first] at ran
          cases ran
      | ok outcome =>
          rw [run_saveAll_of_ok first] at ran
          rcases later : (saveAll base rest).run middle with ⟨result, last⟩
          rw [later] at ran
          cases result with
          | error fault => cases ran
          | ok savedLater =>
              cases ran
              rcases ProjectFile.save_eq_ok first with
                ⟨isKept, rfl, rfl⟩ | ⟨notKept, rfl, written⟩
              · exact (induction later).cons_kept isKept
              · exact (induction later).cons_written notKept written

end Runs

end Project

end SchemaScaffold
