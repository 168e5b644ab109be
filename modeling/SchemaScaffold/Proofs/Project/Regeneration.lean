import SchemaScaffold.Proofs.Project.Outcome
import SchemaScaffold.Proofs.Workspace.Rewriting

/-! Writing a project once more into the folder that it was written to. Every file
is there by then, so the files of the user are kept as they are and all others are
written over. -/

namespace SchemaScaffold

open Workspace Disk

/-! ## Files that are there -/

namespace ProjectFile

variable {file : ProjectFile} {base : String} {disk disk' after : Disk}

/-- Something has the path of the file, and a file that is not the user's can be
written over it. -/
structure Settled (file : ProjectFile) (base : String) (disk : Disk) : Prop where
  isThere : (disk.examine (file.path base)).isSome = true
  ready : file.isCreatedOnce = false → disk.Ready (file.path base)

theorem Settled.keeps (settled : file.Settled base disk) (keeps : KeepsEntries disk disk') :
    file.Settled base disk' where
  isThere := keeps.isSome_examine settled.isThere
  ready notOnce := (settled.ready notOnce).keeps keeps

theorem Settled.isKept_eq (settled : file.Settled base disk) :
    Project.isKept base (file, disk) = file.isCreatedOnce := by
  rw [Project.isKept, settled.isThere, Bool.and_true]

/-- Saving a file keeps what is there and settles the file. -/
theorem settled_of_save {outcome : Saved} (ran : (file.save base).run disk = (.ok outcome, after)) :
    KeepsEntries disk after ∧ file.Settled base after := by
  rcases save_eq_ok ran with ⟨isKept, rfl, rfl⟩ | ⟨_, rfl, written⟩
  · rcases Bool.and_eq_true_iff.mp isKept with ⟨once, isThere⟩
    exact ⟨.refl _, isThere, fun notOnce => nomatch once.symm.trans notOnce⟩
  · rcases run_writeFile_eq_ok written with ⟨middle, made, put⟩
    have grows := grows_makeParent (file.path base) disk
    rw [made] at grows
    have ready := Ready.of_writeFile written
    refine ⟨grows.keepsEntries.trans (keepsEntries_write put), ?_, fun _ => ready⟩
    rw [ready.isFile, Option.isSome_some]

/-- A settled file is kept, or only its text is written. -/
theorem Settled.run_save (settled : file.Settled base disk) :
    ∃ again, Rewritten disk again ∧
      (file.save base).run disk
        = (.ok (if file.isCreatedOnce then .kept else .written), again) := by
  rw [ProjectFile.run_save, settled.isKept_eq]
  cases once : file.isCreatedOnce with
  | true => exact ⟨disk, .refl disk, rfl⟩
  | false =>
      rcases (settled.ready once).run_writeFile file.content with ⟨location, _, isFile, written⟩
      refine ⟨_, .put isFile file.content, ?_⟩
      rw [if_neg Bool.false_ne_true, run_write, written]
      rfl

end ProjectFile

namespace Project

variable {base : String} {planned : List ProjectFile} {disk start first edited again : Disk}

/-! ## Runs on settled files -/

/-- After a run all of its files are settled. -/
theorem settled_of_saveAll {saved : SavedFiles}
    (ran : (saveAll base planned).run start = (.ok saved, first)) :
    KeepsEntries start first ∧ ∀ file ∈ planned, file.Settled base first := by
  induction planned generalizing start saved with
  | nil =>
      cases ran
      exact ⟨.refl _, List.forall_mem_nil _⟩
  | cons file rest induction =>
      rcases saving : (file.save base).run start with ⟨result, middle⟩
      cases result with
      | error fault =>
          rw [run_saveAll_of_error saving] at ran
          cases ran
      | ok outcome =>
          rw [run_saveAll_of_ok saving] at ran
          rcases later : (saveAll base rest).run middle with ⟨result, last⟩
          rw [later] at ran
          cases result with
          | error fault => cases ran
          | ok savedLater =>
              cases ran
              rcases ProjectFile.settled_of_save saving with ⟨keepsFirst, settled⟩
              rcases induction later with ⟨keepsLater, settledLater⟩
              exact ⟨keepsFirst.trans keepsLater,
                List.forall_mem_cons.mpr ⟨settled.keeps keepsLater, settledLater⟩⟩

/-- What is reported when every file is there already. -/
def savedAgain (planned : List ProjectFile) : SavedFiles where
  written := (planned.filter fun file => !file.isCreatedOnce).map ProjectFile.name
  kept := (planned.filter ProjectFile.isCreatedOnce).map ProjectFile.name

theorem savedAgain_cons (file : ProjectFile) (rest : List ProjectFile) :
    savedAgain (file :: rest)
      = (savedAgain rest).add file.name (if file.isCreatedOnce then .kept else .written) := by
  cases once : file.isCreatedOnce <;> simp [savedAgain, SavedFiles.add, once]

/-- A run on settled files succeeds and changes nothing but texts. -/
theorem run_saveAll_of_settled (settled : ∀ file ∈ planned, file.Settled base disk) :
    ∃ again, Rewritten disk again ∧
      (saveAll base planned).run disk = (.ok (savedAgain planned), again) := by
  induction planned generalizing disk with
  | nil => exact ⟨disk, .refl disk, rfl⟩
  | cons file rest induction =>
      rw [List.forall_mem_cons] at settled
      rcases settled.1.run_save with ⟨middle, rewritten, saved⟩
      have keeps := rewritten.sameTree.keepsEntries
      rcases induction fun other isOther => (settled.2 other isOther).keeps keeps with
        ⟨again, rewrittenLater, savedLater⟩
      refine ⟨again, rewritten.trans rewrittenLater, ?_⟩
      rw [run_saveAll_of_ok saved, savedLater, savedAgain_cons]
      rfl

/-- In such a run exactly the files of the user are kept. -/
theorem isKept_of_settled (settled : ∀ file ∈ planned, file.Settled base disk) :
    ∀ turn ∈ turns base planned disk, isKept base turn = turn.1.isCreatedOnce := by
  induction planned generalizing disk with
  | nil => exact List.forall_mem_nil _
  | cons file rest induction =>
      rw [List.forall_mem_cons] at settled
      rw [turns, List.forall_mem_cons]
      rcases settled.1.run_save with ⟨middle, rewritten, saved⟩
      have keeps := rewritten.sameTree.keepsEntries
      rw [saved]
      exact ⟨settled.1.isKept_eq,
        induction fun other isOther => (settled.2 other isOther).keeps keeps⟩

theorem exists_turn {file : ProjectFile} (disk : Disk) (isPlanned : file ∈ planned) :
    ∃ turn ∈ turns base planned disk, turn.1 = file := by
  rw [← map_turns base planned disk] at isPlanned
  exact List.mem_map.mp isPlanned

/-! ## The files of the user -/

variable {collections : List Collection} {config : Config} {folder : String}

theorem segments_of_isCreatedOnce {file : ProjectFile} (isFile : file ∈ files collections config)
    (once : file.isCreatedOnce = true) : ∃ name ∈ userNames, file.segments = [name] := by
  rcases exists_hasName isFile with ⟨name, hasName⟩
  exact ⟨name, hasName.createdOnce.mp once, hasName.whole once⟩

theorem exists_userFile {name : String} (isUser : name ∈ userNames) :
    ∃ file ∈ files collections config, file.isCreatedOnce = true ∧ file.segments = [name] := by
  have isListed : [name] ∈ ((files collections config).filter
      ProjectFile.isCreatedOnce).map ProjectFile.segments := by
    rw [filter_isCreatedOnce]
    exact List.mem_map_of_mem isUser
  rcases List.mem_map.mp isListed with ⟨file, isFile, segments⟩
  rcases List.mem_filter.mp isFile with ⟨isFile, once⟩
  exact ⟨file, isFile, once, segments⟩

/-- The user's files are reported by their names. -/
theorem kept_savedAgain (collections : List Collection) (config : Config) :
    (savedAgain (files collections config)).kept = userNames := by
  have plain : ∀ name ∈ userNames, Path.IsPlainName name := by decide +kernel
  have named : ∀ file ∈ (files collections config).filter ProjectFile.isCreatedOnce,
      file.name = "/".intercalate file.segments := by
    intro file isFile
    rcases List.mem_filter.mp isFile with ⟨isFile, once⟩
    rcases segments_of_isCreatedOnce isFile once with ⟨name, isUser, segments⟩
    exact name_eq_intercalate (by simp [segments]) (by simp [segments, plain name isUser])
  have joined : (savedAgain (files collections config)).kept
      = (((files collections config).filter ProjectFile.isCreatedOnce).map
          ProjectFile.segments).map "/".intercalate := by
    rw [List.map_map]
    exact List.map_congr_left named
  rw [joined, filter_isCreatedOnce]
  decide +kernel

/-! ## Two runs -/

/-- Files are split at the last one for which something holds in one way only. -/
theorem last_unique {holds : ProjectFile → Prop} {earlier later earlier' later' : List ProjectFile}
    {last last' : ProjectFile} (equal : earlier ++ last :: later = earlier' ++ last' :: later')
    (here : holds last) (noneLater : ∀ other ∈ later, ¬ holds other)
    (here' : holds last') (noneLater' : ∀ other ∈ later', ¬ holds other) : last = last' := by
  rcases List.append_eq_append_iff.mp equal with ⟨between, rfl, behind⟩ | ⟨between, rfl, behind⟩
  · cases between with
    | nil => exact (List.cons.inj behind).1
    | cons head others =>
        rw [(List.cons.inj behind).2] at noneLater
        exact absurd here' (noneLater last' (by simp))
  · cases between with
    | nil => exact (List.cons.inj behind).1.symm
    | cons head others =>
        rw [(List.cons.inj behind).2] at noneLater'
        exact absurd here (noneLater' last (by simp))

/-- A file that is not the user's has the same text after both runs, namely that of
the last file with its place. -/
theorem restored_of_agreements {before : Disk} {saved saved' : SavedFiles}
    (agreement : Agreement collections config folder start first saved)
    (agreement' : Agreement collections config folder before again saved')
    (same : SameTree first again) {file : ProjectFile} (isFile : file ∈ files collections config)
    (notOnce : file.isCreatedOnce = false) {location : Location}
    (isAt : first.IsAt (file.path folder) location) :
    again.entry? location = first.entry? location ∧ first.HasFile location := by
  have notKept {turn : ProjectFile × Disk} (isHere : turn.1 = file) :
      isKept folder turn = false := by
    rw [isKept, isHere, notOnce, Bool.false_and]
  rcases exists_turn start isFile with ⟨turn, isTurn, isHere⟩
  rcases agreement.lastContent turn isTurn (notKept isHere) location (isHere ▸ isAt) with
    ⟨earlier, last, later, equal, isAtLast, noneLater, isThere⟩
  rcases exists_turn before isFile with ⟨turn', isTurn', isHere'⟩
  rcases agreement'.lastContent turn' isTurn' (notKept isHere') location
      (isHere' ▸ same.isAt_iff.mpr isAt) with
    ⟨earlier', last', later', equal', isAtLast', noneLater', isThere'⟩
  have splits : earlier ++ last :: later = earlier' ++ last' :: later' := equal.symm.trans equal'
  have noneLaterFirst : ∀ other ∈ later', ¬ first.IsAt (other.path folder) location :=
    fun other isOther isAtOther => noneLater' other isOther (same.isAt_iff.mpr isAtOther)
  have sameLast : last = last' :=
    last_unique splits isAtLast noneLater (same.isAt_iff.mp isAtLast') noneLaterFirst
  rw [isThere, isThere', sameLast]
  exact ⟨rfl, _, isThere⟩

/-- What a further run finds and leaves on a disk, compared to the disk that the
first run left and that the user has edited since. -/
structure Regeneration (collections : List Collection) (config : Config) (folder : String)
    (first edited again : Disk) (saved : SavedFiles) : Prop where
  kept : saved.kept = [".env", ".env.example", "README.md"]
  written : saved.written
    = ((files collections config).filter fun file => !file.isCreatedOnce).map ProjectFile.name
  createdOnce : ∀ file ∈ files collections config,
    file.isCreatedOnce = true ↔ file.segments ∈ [[".env"], [".env.example"], ["README.md"]]
  /-- The user's files are as they were edited. -/
  edits : ∀ name ∈ [".env", ".env.example", "README.md"], ∃ location,
    again.IsAt (Path.join folder name) location ∧ (edited.entry? location).isSome = true ∧
      again.entry? location = edited.entry? location
  restored : ∀ file ∈ files collections config, file.isCreatedOnce = false → ∃ location,
    first.IsAt (file.path folder) location ∧ again.IsAt (file.path folder) location ∧
      first.HasFile location ∧ again.entry? location = first.entry? location
  /-- Nothing else has changed, not even a folder. -/
  others : ∀ location,
    (∀ file ∈ files collections config, file.isCreatedOnce = false →
      ¬ again.IsAt (file.path folder) location) →
    again.entry? location = edited.entry? location

theorem regeneration_of_agreements {saved : SavedFiles}
    (agreement : Agreement collections config folder start first saved)
    (agreement' : Agreement collections config folder edited again
      (savedAgain (files collections config)))
    (edits : SameTree first edited) (rewritten : Rewritten edited again)
    (settled : ∀ file ∈ files collections config, file.Settled folder edited) :
    Regeneration collections config folder first edited again
      (savedAgain (files collections config)) := by
  have sameAgain := rewritten.sameTree
  have same : SameTree first again := edits.trans sameAgain
  have isKept_eq := isKept_of_settled settled
  exact
    { kept := kept_savedAgain collections config
      written := rfl
      createdOnce := agreement.createdOnce
      edits := by
        intro name isUser
        rcases exists_userFile isUser with ⟨file, isFile, once, segments⟩
        have isPath : file.path folder = Path.join folder name := by
          rw [ProjectFile.path, segments]
          rfl
        rcases agreement'.located file isFile with ⟨location, isAt⟩
        have isAtEdited := sameAgain.isAt_iff.mp isAt
        refine ⟨location, isPath ▸ isAt, isAtEdited.isSome_entry? (settled file isFile).isThere,
          sameAgain.entry?_eq ?_⟩
        rcases exists_turn edited isFile with ⟨turn, isTurn, rfl⟩
        exact agreement'.keptContent turn isTurn ((isKept_eq turn isTurn).trans once) location isAt
      restored := by
        intro file isFile notOnce
        rcases agreement.located file isFile with ⟨location, isAt⟩
        rcases restored_of_agreements agreement agreement' same isFile notOnce isAt with
          ⟨equal, hasFile⟩
        exact ⟨location, isAt, same.isAt_iff.mpr isAt, hasFile, equal⟩
      others := by
        intro location noneThere
        refine sameAgain.entry?_eq (agreement'.otherContent location ?_)
        intro turn isTurn notKept
        exact noneThere turn.1 (mem_of_mem_turns isTurn) ((isKept_eq turn isTurn).symm.trans notKept) }

/-- A project that was written can be written again, whatever texts were edited in
between: the user's files stay as they are then, every other file gets its text
back, and without edits nothing changes at all. -/
theorem writing_again_restores {saved : SavedFiles}
    (ran : (write collections config folder).run start = (.ok saved, first))
    (edits : SameTree first edited) :
    (∃ saved' again, (write collections config folder).run edited = (.ok saved', again) ∧
      Regeneration collections config folder first edited again saved') ∧
      ∃ saved', (write collections config folder).run first = (.ok saved', first) := by
  have agreement := write_agrees ran
  have settled := (settled_of_saveAll ran).2
  have regenerates {edited : Disk} (edits : SameTree first edited) :
      ∃ again, Rewritten edited again ∧
        (write collections config folder).run edited
          = (.ok (savedAgain (files collections config)), again) ∧
        Regeneration collections config folder first edited again
          (savedAgain (files collections config)) := by
    have settledStill : ∀ file ∈ files collections config, file.Settled folder edited :=
      fun file isFile => (settled file isFile).keeps edits.keepsEntries
    rcases run_saveAll_of_settled settledStill with ⟨again, rewritten, ranAgain⟩
    exact ⟨again, rewritten, ranAgain,
      regeneration_of_agreements agreement (write_agrees ranAgain) edits rewritten settledStill⟩
  constructor
  · rcases regenerates edits with ⟨again, _, ranAgain, regeneration⟩
    exact ⟨_, again, ranAgain, regeneration⟩
  · rcases regenerates (.refl first) with ⟨again, rewritten, ranAgain, regeneration⟩
    have unchanged : again = first := by
      refine rewritten.eq_of_entry? fun location => ?_
      by_cases isPlanned : ∃ file ∈ files collections config, file.isCreatedOnce = false ∧
          again.IsAt (file.path folder) location
      · rcases isPlanned with ⟨file, isFile, notOnce, isAt⟩
        rcases regeneration.restored file isFile notOnce with ⟨_, _, isAt', _, equal⟩
        rwa [isAt.unique isAt']
      · exact regeneration.others location fun file isFile notOnce isAt =>
          isPlanned ⟨file, isFile, notOnce, isAt⟩
    rw [unchanged] at ranAgain
    exact ⟨_, ranAgain⟩

/-- The user's readme is kept. A source file that was emptied is written again, and so is
a model that was replaced by the earlier one of its name. -/
theorem writing_again_restores_usedFolder :
    let readme := ["home", "demo", "README.md"]
    let app := ["home", "demo", "src", "app.js"]
    ∃ saved first, (write bothOrders plainConfig "demo").run usedFolder = (.ok saved, first) ∧
      let edited := ((first.put readme (.file "Mine\n")).put app (.file "")).put orderModel
        (.file (modelFile titledOrder).content)
      SameTree first edited ∧
      (∃ saved' again, (write bothOrders plainConfig "demo").run edited = (.ok saved', again) ∧
        Regeneration bothOrders plainConfig "demo" first edited again saved' ∧
        again.entry? orderModel = some (.file (modelFile countedOrder).content)) ∧
      ∃ saved', (write bothOrders plainConfig "demo").run first = (.ok saved', first) := by
  intro readme app
  rcases run_write_bothOrders with ⟨saved, first, ran, _, areAt, written, areFiles⟩
  have isReadme : first.HasFile readme := areFiles readme (by simp [readme])
  have isApp : first.HasFile app := areFiles app (by simp [app])
  have isModel : first.HasFile orderModel := ⟨_, written⟩
  have firstEdit := (Rewritten.put isReadme "Mine\n").sameTree
  have secondEdit := firstEdit.trans (Rewritten.put ((firstEdit.files app).mpr isApp) "").sameTree
  have edits := secondEdit.trans (Rewritten.put ((secondEdit.files orderModel).mpr isModel)
    (modelFile titledOrder).content).sameTree
  rcases writing_again_restores ran edits with
    ⟨⟨saved', again, ranAgain, regeneration⟩, unchanged⟩
  have isPlanned : modelFile countedOrder ∈ files bothOrders plainConfig := by
    refine List.mem_append_left _ (List.mem_flatMap.mpr ⟨countedOrder, by simp [bothOrders], ?_⟩)
    exact mem_collectionFiles.mpr ⟨by decide, List.mem_cons_self⟩
  rcases regeneration.restored _ isPlanned rfl with ⟨location, isAt, _, _, restored⟩
  have here : location = orderModel := isAt.unique (areAt countedOrder (by simp))
  rw [here, written] at restored
  exact ⟨saved, first, ran, edits, ⟨saved', again, ranAgain, regeneration, restored⟩, unchanged⟩

end Project

end SchemaScaffold
