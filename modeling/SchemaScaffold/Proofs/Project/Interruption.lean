import SchemaScaffold.Project.Generation
import SchemaScaffold.Proofs.Project.Saving
import SchemaScaffold.Proofs.Sync.Saving

/-! What is on the disk when a file of a project, or a schema file, cannot be
written. The files before it are saved as ever, and after them nothing but folders
was made. -/

namespace SchemaScaffold

open Workspace Disk

namespace Project

variable {base : String} {planned : List ProjectFile} {file : ProjectFile}
variable {start middle after : Disk}

/-! ## What was saved -/

/-- Making folders takes nothing back. -/
theorem Saves.grows {turns : List (ProjectFile × Disk)} {saved : SavedFiles}
    (saves : Saves base turns start middle saved) (grows : Grows middle after) :
    Saves base turns start after saved := by
  -- Every path led somewhere before, and folders that are made do not redirect it.
  have isAtBefore : ∀ turn ∈ turns, ∀ location, after.IsAt (turn.1.path base) location →
      middle.IsAt (turn.1.path base) location := by
    intro turn isTurn location isAt
    rcases saves.leads turn isTurn with ⟨target, leads⟩
    exact isAt.of_keeps grows.keeps leads
  exact
    { written := saves.written
      kept := saves.kept
      keeps := saves.keeps.trans grows.keeps
      leads := by
        intro turn isTurn
        rcases saves.leads turn isTurn with ⟨target, leads⟩
        exact ⟨target, grows.keeps.target leads⟩
      content := by
        intro turn isTurn notKept location isAt
        have wasAt := isAtBefore turn isTurn location isAt
        rcases saves.content turn isTurn notKept location wasAt with
          ⟨earlier, last, later, equal, isLastAt, noneLater, isThere⟩
        refine ⟨earlier, last, later, equal, isLastAt.keeps grows.keeps, ?_,
          (grows.same location _).mpr isThere⟩
        intro other isOther otherNotKept otherIsAt
        have isOtherTurn : other ∈ turns := by
          rw [equal]
          simp [isOther]
        exact noneLater other isOther otherNotKept (isAtBefore other isOtherTurn location otherIsAt)
      untouched := by
        intro location noneThere
        refine (saves.untouched location fun turn isTurn notKept isAt => ?_).trans
          (grows.same location)
        exact noneThere turn isTurn notKept (isAt.keeps grows.keeps) }

/-! ## Runs that end early -/

/-- A run that fails does so at one of its files, after it saved the files before. -/
theorem saveAll_eq_error {fault : ProjectFault}
    (ran : (saveAll base planned).run start = (.error fault, after)) :
    ∃ count file saved middle, planned[count]? = some file ∧ fault.name = file.name ∧
      (saveAll base (planned.take count)).run start = (.ok saved, middle) ∧
      (file.save base).run middle = (.error fault.fault, after) := by
  induction planned generalizing start with
  | nil => cases ran
  | cons file rest induction =>
      rcases first : (file.save base).run start with ⟨result, middle⟩
      cases result with
      | error cause =>
          rw [run_saveAll_of_error first] at ran
          cases ran
          -- Nothing was saved before the first file.
          exact ⟨0, file, ⟨[], []⟩, start, rfl, rfl, rfl, first⟩
      | ok outcome =>
          rw [run_saveAll_of_ok first] at ran
          rcases later : (saveAll base rest).run middle with ⟨result, last⟩
          rw [later] at ran
          cases result with
          | ok saved => cases ran
          | error cause =>
              cases ran
              rcases induction later with
                ⟨count, next, saved, reached, isNext, named, before, failed⟩
              have andBefore : (saveAll base ((file :: rest).take (count + 1))).run start
                  = (.ok (saved.add file.name outcome), reached) := by
                rw [List.take_succ_cons, run_saveAll_of_ok first, before]
                rfl
              exact ⟨count + 1, next, _, reached, isNext, named, andBefore, failed⟩

/-- The first files, as many as `count`, are saved, and the next one cannot be. -/
structure StopsAfter (base : String) (planned : List ProjectFile) (count : Nat)
    (file : ProjectFile) (start after : Disk) (fault : WriteFault) : Prop where
  isNext : planned[count]? = some file
  /-- From where the run of the first files ends, nothing but folders is made. -/
  earlier : ∃ saved middle, (saveAll base (planned.take count)).run start = (.ok saved, middle) ∧
    (file.save base).run middle = (.error fault, after) ∧ Grows middle after ∧
    Saves base (turns base (planned.take count) start) start after saved
  cause : fault.IsAbout (file.path base)

theorem exists_stopsAfter {fault : ProjectFault}
    (ran : (saveAll base planned).run start = (.error fault, after)) :
    ∃ count file, fault.name = file.name ∧
      StopsAfter base planned count file start after fault.fault := by
  rcases saveAll_eq_error ran with ⟨count, file, saved, middle, isNext, named, before, failed⟩
  rcases writeFile_eq_error (ProjectFile.save_eq_error failed) with ⟨grows, cause⟩
  have saves := (saveAll_saves before).grows grows
  exact ⟨count, file, named, isNext, ⟨saved, middle, before, failed, grows, saves⟩, cause⟩

/-! ## Projects and schemas -/

/-- Where writing a project, or the schemas of a selection, ends if it fails. -/
structure StopsAtFile (collections : List Collection) (config : Config) (sync : Sync)
    (folder : String) (start : Disk) : Prop where
  project : ∀ fault after, (write collections config folder).run start = (.error fault, after) →
    ∃ count file shown, StopsAfter folder (files collections config) count file start after
        fault.fault ∧
      (preview collections config).result = .preview shown ∧
      shown[count]? = some (file.name, file.content) ∧
      fault.messages.head? = some s!"failed to generate '{file.name}'"
  schemas : ∀ fault after, (sync.write folder).run start = (.error fault, after) →
    ∃ count artifact middle, sync.files[count]? = some artifact ∧
      StopsAfter folder (sync.files.map Sync.schemaFile) count (Sync.schemaFile artifact) start
        after fault ∧
      (Sync.saveAll folder (sync.files.take count)).run start
        = (.ok ((sync.files.take count).map Artifact.fileName), middle) ∧
      Grows middle after

theorem writing_stops_at_file (collections : List Collection) (config : Config) (sync : Sync)
    (folder : String) (start : Disk) : StopsAtFile collections config sync folder start where
  project fault after ran := by
    rcases exists_stopsAfter ran with ⟨count, file, named, stops⟩
    refine ⟨count, file, (files collections config).map fun file => (file.name, file.content),
      stops, rfl, ?_, ?_⟩
    · rw [List.getElem?_map, stops.isNext]
      rfl
    · rw [← named]
      rfl
  schemas fault after ran := by
    rw [Sync.write, Sync.run_saveAll] at ran
    rcases saving : (saveAll folder (sync.files.map Sync.schemaFile)).run start with
      ⟨result, reached⟩
    rw [saving] at ran
    cases result with
    | ok saved => cases ran
    | error failure =>
        cases ran
        rcases exists_stopsAfter saving with ⟨count, file, _, stops⟩
        rcases stops.earlier with ⟨saved, middle, before, _, grows, _⟩
        have isNext := stops.isNext
        rw [List.getElem?_map, Option.map_eq_some_iff] at isNext
        rcases isNext with ⟨artifact, isArtifact, rfl⟩
        refine ⟨count, artifact, middle, isArtifact, stops, ?_, grows⟩
        rw [← List.map_take] at before
        rw [Sync.run_saveAll, before]
        rfl

/-- A folder with a file of the user, in which folders have the names of two files. -/
def blockedFolder : Disk :=
  ⟨["home"],
    [(["home"], .folder), (["home", "demo"], .folder),
     (["home", "demo", ".env"], .file "PORT=1\n"), (["home", "demo", ".gitignore"], .folder),
     (["home", "demo", "Book.js"], .folder)]⟩

theorem writing_stops_in_blockedFolder :
    let collections := [titled "Author", titled "Book", titled "User"]
    let sync := Sync.make collections .javaScript .commonJs .all
    StopsAtFile [] untypedConfig sync "demo" blockedFolder ∧
      (∃ fault after, (write [] untypedConfig "demo").run blockedFolder = (.error fault, after) ∧
        fault.messages
          = ["failed to generate '.gitignore'", "failed to write 'demo/.gitignore'",
             OsError.isFolder.message] ∧
        ∃ count file,
          StopsAfter "demo" (files [] untypedConfig) count file blockedFolder after fault.fault) ∧
      ∃ fault after, (sync.write "demo").run blockedFolder = (.error fault, after) ∧
        fault = .file "demo/Book.js" .isFolder ∧
        ∃ count artifact, StopsAfter "demo" (sync.files.map Sync.schemaFile) count
          (Sync.schemaFile artifact) blockedFolder after fault := by
  intro collections sync
  have stops := writing_stops_at_file [] untypedConfig sync "demo" blockedFolder
  have messages : ((((write [] untypedConfig "demo").run blockedFolder).1.map fun _ => []).tryCatch
      fun fault => .ok fault.messages).toOption
      = some ["failed to generate '.gitignore'", "failed to write 'demo/.gitignore'",
          OsError.isFolder.message] := by
    decide +kernel
  have fault : ((((sync.write "demo").run blockedFolder).1.map fun _ => none).tryCatch
      fun fault => .ok (some fault)).toOption
      = some (some (.file "demo/Book.js" .isFolder)) := by
    decide +kernel
  refine ⟨stops, ?_, ?_⟩
  · rcases outcome : (write [] untypedConfig "demo").run blockedFolder with ⟨result, after⟩
    rw [outcome] at messages
    cases result with
    | ok saved => cases messages
    | error failure =>
        rcases stops.project failure after outcome with ⟨count, file, _, stopped, _⟩
        exact ⟨failure, after, rfl, Option.some.inj messages, count, file, stopped⟩
  · rcases outcome : (sync.write "demo").run blockedFolder with ⟨result, after⟩
    rw [outcome] at fault
    cases result with
    | ok names => cases fault
    | error failure =>
        rcases stops.schemas failure after outcome with ⟨count, artifact, _, _, stopped, _⟩
        have same := Option.some.inj (Option.some.inj fault)
        exact ⟨failure, after, rfl, same, count, artifact, stopped⟩

end Project

end SchemaScaffold
