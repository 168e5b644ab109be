import SchemaScaffold.Proofs.Workspace.Names
import SchemaScaffold.Proofs.Workspace.Writing

/-! What a script may come to, whatever it is answered: the values that it may
give and the paths at which it may write files. -/

namespace SchemaScaffold.Workspace

namespace Script

variable {α β : Type}

/-- With some answers the script ends in this value. -/
def MayGive (value : α) : Script α → Prop
  | done given => given = value
  | examine _ next => ∃ answer, (next answer).MayGive value
  | read _ next => ∃ answer, (next answer).MayGive value
  | makeFolder _ next => ∃ answer, (next answer).MayGive value
  | write _ _ next => ∃ answer, (next answer).MayGive value

/-- With some answers the script tries to write a file at this path. -/
def MayWrite (path : String) : Script α → Prop
  | done _ => False
  | examine _ next => ∃ answer, (next answer).MayWrite path
  | read _ next => ∃ answer, (next answer).MayWrite path
  | makeFolder _ next => ∃ answer, (next answer).MayWrite path
  | write other _ next => path = other ∨ ∃ answer, (next answer).MayWrite path

@[simp] theorem mayGive_pure {value given : α} :
    (pure given : Script α).MayGive value ↔ given = value := Iff.rfl

@[simp] theorem mayWrite_pure {path : String} {value : α} :
    (pure value : Script α).MayWrite path ↔ False := Iff.rfl

/-- A value that is given after some answer is passed on after this answer. -/
theorem exists_answer_comm {γ δ : Type} {gives : γ → δ → Prop} {continues : δ → Prop} :
    (∃ answer given, gives answer given ∧ continues given)
      ↔ ∃ given, (∃ answer, gives answer given) ∧ continues given := by
  rw [exists_comm]
  simp only [exists_and_right]

theorem mayGive_bind {script : Script α} {continuation : α → Script β} {value : β} :
    (script >>= continuation).MayGive value
      ↔ ∃ given, script.MayGive given ∧ (continuation given).MayGive value := by
  change (script.bind continuation).MayGive value ↔ _
  induction script with
  | done given => simp [bind, MayGive]
  | examine path next induction | read path next induction
  | makeFolder path next induction | write path text next induction =>
      simp only [bind, MayGive, induction, exists_answer_comm]

theorem mayWrite_bind {script : Script α} {continuation : α → Script β} {path : String} :
    (script >>= continuation).MayWrite path
      ↔ script.MayWrite path ∨ ∃ given, script.MayGive given ∧ (continuation given).MayWrite path := by
  change (script.bind continuation).MayWrite path ↔ _
  induction script with
  | done given => simp [bind, MayGive, MayWrite]
  | examine other next induction | read other next induction
  | makeFolder other next induction | write other text next induction =>
      simp only [bind, MayGive, MayWrite, induction, exists_or, exists_answer_comm, or_assoc]

@[simp] theorem mayWrite_bind_pure {script : Script α} {value : α → β} {path : String} :
    (do pure (value (← script))).MayWrite path ↔ script.MayWrite path := by
  rw [mayWrite_bind]
  simp

/-- A script that goes on only after a success. -/
theorem mayWrite_bind_ok {ε : Type} {first : Script (Except ε α)}
    {continuation : Except ε α → Script β} {path : String} {later : Prop} {value : α}
    (stops : ∀ error, ¬ (continuation (.error error)).MayWrite path)
    (goesOn : ∀ value, (continuation (.ok value)).MayWrite path ↔ later)
    (gives : first.MayGive (.ok value)) :
    (first >>= continuation).MayWrite path ↔ first.MayWrite path ∨ later := by
  rw [mayWrite_bind]
  refine or_congr_right ⟨?_, fun writes => ⟨_, gives, (goesOn value).mpr writes⟩⟩
  rintro ⟨result, _, writes⟩
  cases result with
  | error error => exact absurd writes (stops error)
  | ok value => exact (goesOn value).mp writes

/-- A file that is not the same after a run is where a path leads that the script
may write at. -/
theorem run_sameFile (script : Script α) (disk : Disk) :
    Disk.KeepsFolders disk (script.run disk).2 ∧
      ∀ location, (∀ path, script.MayWrite path → ¬ (script.run disk).2.IsAt path location) →
        Disk.SameFile disk (script.run disk).2 location := by
  induction script generalizing disk with
  | done value => exact ⟨.refl disk, fun location _ => .refl disk location⟩
  | examine path next induction | read path next induction =>
      rcases induction _ disk with ⟨keeps, same⟩
      exact ⟨keeps, fun location none => same location fun other writes => none other ⟨_, writes⟩⟩
  | makeFolder path next induction =>
      rcases induction _ (attempt disk (disk.makeFolder path)).2 with ⟨keeps, same⟩
      have grows := grows_folder path disk
      exact ⟨grows.keeps.trans keeps, fun location none =>
        (grows.same location).trans (same location fun other writes => none other ⟨_, writes⟩)⟩
  | write path text next induction =>
      rcases induction _ (attempt disk (disk.write path text)).2 with ⟨keeps, same⟩
      have first : Disk.KeepsFolders disk (attempt disk (disk.write path text)).2 ∧
          ∀ location, ¬ (attempt disk (disk.write path text)).2.IsAt path location →
            Disk.SameFile disk (attempt disk (disk.write path text)).2 location := by
        rcases attempt_cases disk (disk.write path text) with
          ⟨_, _, equal⟩ | ⟨changed, written, equal⟩
        · rw [equal]
          exact ⟨.refl disk, fun location _ => .refl disk location⟩
        · rw [equal]
          rcases Disk.write_eq_ok written with ⟨parent, name, leads, kept, _, others⟩
          refine ⟨kept, fun location notThere => .of_entry?_eq (others location ?_)⟩
          rintro rfl
          exact notThere ⟨parent, name, false, kept.target leads, rfl⟩
      refine ⟨first.1.trans keeps, fun location none => ?_⟩
      exact (first.2 location fun isAt => none path (.inl rfl) (isAt.keeps keeps)).trans
        (same location fun other writes => none other (.inr ⟨_, writes⟩))

end Script

open Script

/-! ## Files and their folders -/

theorem mayGive_makeChain (paths : List String) : (makeChain paths).MayGive (.ok ()) := by
  cases paths with
  | nil => rfl
  | cons path above => exact mayGive_bind.mpr ⟨.ok (), ⟨.ok (), rfl⟩, rfl⟩

theorem not_mayWrite_existing (path other : String) (answer : Except OsError Unit) :
    ¬ (makeChain.existing path answer).MayWrite other := by
  rw [makeChain.existing.eq_def]
  split
  · rw [mayWrite_bind]
    rintro (⟨_, looked⟩ | ⟨kind, _, writes⟩)
    · exact looked
    · revert writes
      split <;> exact id
  · exact id

theorem not_mayWrite_makeChain (paths : List String) (other : String) :
    ¬ (makeChain paths).MayWrite other := by
  induction paths with
  | nil => exact id
  | cons path above induction =>
      rw [makeChain, mayWrite_bind]
      rintro (⟨_, made⟩ | ⟨answer, _, writes⟩)
      · exact made
      · revert writes
        split
        · exact id
        · rw [mayWrite_bind]
          rintro (writes | ⟨result, _, writes⟩)
          · exact induction writes
          · revert writes
            split
            · exact id
            · rw [mayWrite_bind]
              rintro (⟨_, made⟩ | ⟨_, _, writes⟩)
              · exact made
              · exact not_mayWrite_existing _ _ _ writes
        · exact not_mayWrite_existing _ _ _

theorem mayGive_makeParent (path : String) : (makeParent path).MayGive (.ok ()) := by
  rw [makeParent]
  split
  · rfl
  · exact mayGive_bind.mpr ⟨.ok (), mayGive_makeChain _, rfl⟩

theorem not_mayWrite_makeParent (path other : String) : ¬ (makeParent path).MayWrite other := by
  rw [makeParent]
  split
  · exact id
  · rw [mayWrite_bind_pure]
    exact not_mayWrite_makeChain _ _

theorem mayGive_writeFile (path text : String) : (writeFile path text).MayGive (.ok ()) :=
  mayGive_bind.mpr
    ⟨.ok (), mayGive_makeParent path, mayGive_bind.mpr ⟨.ok (), ⟨.ok (), rfl⟩, rfl⟩⟩

/-- Beside folders it is only the file itself that is written. -/
theorem mayWrite_writeFile {path text other : String} :
    (writeFile path text).MayWrite other ↔ other = path := by
  have file_iff : (file path text).MayWrite other ↔ other = path := by
    simp [file, MayWrite]
  rw [writeFile, mayWrite_bind_ok (fun _ => id) (fun _ => mayWrite_bind_pure.trans file_iff)
    (mayGive_makeParent path)]
  simp [not_mayWrite_makeParent]

end SchemaScaffold.Workspace
