import SchemaScaffold.Terminal.Session

/-! Commands that are refused. Everything that a command may be refused for is
looked at before anything is written, so the disk is the same afterwards. -/

namespace SchemaScaffold

open Workspace

/-! ## Files that cannot be used -/

/-- No collections are found in the file. -/
inductive Diagram.Unusable (disk : Disk) (path : String) : Prop where
  | unreadable {cause : OsError} (unread : disk.read path = .error cause)
  | malformed {text : String} {problem : Problem} (isText : disk.read path = .ok text)
      (bad : Diagram.read ⟨path, text⟩ = .error problem)

/-- No link is found in the file. -/
inductive Link.Unusable (disk : Disk) (path : String) : Prop where
  | missing (notThere : disk.examine path = none)
  | unreadable {cause : OsError} (unread : disk.read path = .error cause)
  | invalid {text : String} {problem : Problem} (isText : disk.read path = .ok text)
      (bad : Link.read ⟨path, text⟩ = .error problem)

theorem Diagram.run_loadCollections (path : String) (disk : Disk) :
    (Diagram.Unusable disk path ∧
        ∃ problem, (Diagram.loadCollections path).run disk = (.error problem, disk)) ∨
      ¬ Diagram.Unusable disk path ∧
        ∃ collections, (Diagram.loadCollections path).run disk = (.ok collections, disk) := by
  rw [loadCollections, Script.run_bind, Script.run_textOf]
  cases isText : disk.read path with
  | error cause => exact .inl ⟨.unreadable isText, _, rfl⟩
  | ok text =>
      change _ ∧ (∃ problem, (readCollections ⟨path, text⟩, disk) = _) ∨
        _ ∧ ∃ collections, (readCollections ⟨path, text⟩, disk) = _
      rw [readCollections]
      cases isDiagram : Diagram.read ⟨path, text⟩ with
      | error problem => exact .inl ⟨.malformed isText isDiagram, problem, rfl⟩
      | ok diagram =>
          refine .inr ⟨?_, diagram.collections, rfl⟩
          rintro (⟨unread⟩ | ⟨isText', bad⟩)
          · cases isText.symm.trans unread
          · cases isText.symm.trans isText'
            cases isDiagram.symm.trans bad

theorem Link.run_load (path : String) (disk : Disk) :
    (Link.Unusable disk path ∧ ∃ problem, (Link.load path).run disk = (.error problem, disk)) ∨
      ¬ Link.Unusable disk path ∧
        ∃ text link, disk.read path = .ok text ∧ Link.read ⟨path, text⟩ = .ok link ∧
          (Link.load path).run disk = (.ok link, disk) := by
  rw [load, Script.run_bind, Script.run_isThere]
  cases found : disk.examine path with
  | none => exact .inl ⟨.missing found, _, rfl⟩
  | some kind =>
      rw [Option.isSome_some, if_pos rfl, Script.run_bind, Script.run_textOf]
      cases isText : disk.read path with
      | error cause => exact .inl ⟨.unreadable isText, _, rfl⟩
      | ok text =>
          change _ ∧ (∃ problem, (Link.read ⟨path, text⟩, disk) = _) ∨
            _ ∧ ∃ _ _, _ ∧ _ ∧ (Link.read ⟨path, text⟩, disk) = _
          cases isLink : Link.read ⟨path, text⟩ with
          | error problem => exact .inl ⟨.invalid isText isLink, problem, rfl⟩
          | ok link =>
              refine .inr ⟨?_, text, link, rfl, isLink, rfl⟩
              rintro (notThere | unread | ⟨isText', bad⟩)
              · cases found.symm.trans notThere
              · cases isText.symm.trans unread
              · cases isText.symm.trans isText'
                cases isLink.symm.trans bad

/-- A project is not generated into what is there already. -/
theorem Project.run_generate (collections : List Collection) (config : Config) (disk : Disk) :
    ((disk.examine config.outputFolder).isSome = true ∧
        ∃ fault, (Project.generate collections config).run disk = (.error fault, disk)) ∨
      (disk.examine config.outputFolder).isSome = false ∧
        ((Project.generate collections config).run disk).2
          = ((Project.write collections config config.outputFolder).run disk).2 := by
  rw [generate, Script.run_bind, Script.run_isThere]
  cases (disk.examine config.outputFolder).isSome with
  | true => exact .inl ⟨rfl, _, rfl⟩
  | false =>
      refine .inr ⟨rfl, ?_⟩
      simp only [Bool.false_eq_true, if_false, Script.run_bind]
      cases ((write collections config config.outputFolder).run disk).1 <;> rfl

namespace Terminal

theorem Fault.exitStatus_ne_zero (fault : Fault) : fault.exitStatus ≠ 0 := by
  cases fault <;> exact Nat.succ_ne_zero _

variable {disk : Disk} {surroundings : Surroundings}

/-! ## Generating a project -/

namespace GenerateCommand

variable {command : GenerateCommand} {input : String}

/-- What a command to generate a project from a file is refused for. -/
inductive Refused (command : GenerateCommand) (input : String) (disk : Disk) : Prop where
  | diagram (unusable : Diagram.Unusable disk input)
  | noName (missing : command.projectName = none)
  | invalidName {name : String} (isName : command.projectName = some name)
      (invalid : isProjectName name = false)
  | noLanguage (missing : command.language = none)
  | folderExists {name : String} (isName : command.projectName = some name)
      (notPreview : command.isPreview = false)
      (isThere : (disk.examine (command.outputFolder.getD name)).isSome = true)

/-- Settings are made of a valid name and a language, and of nothing less. -/
theorem config_cases (command : GenerateCommand) :
    (∃ fault, command.config = .error fault ∧ ∀ input disk, command.Refused input disk) ∨
      ∃ config name, command.config = .ok config ∧ command.projectName = some name ∧
        isProjectName name = true ∧ command.language = some config.language ∧
        config.outputFolder = command.outputFolder.getD name := by
  rw [config]
  cases isName : command.projectName with
  | none => exact .inl ⟨_, rfl, fun _ _ => .noName isName⟩
  | some name =>
      cases valid : isProjectName name with
      | false =>
          refine .inl ⟨.invalidName name, ?_, fun _ _ => .invalidName isName valid⟩
          simp [valid]
      | true =>
          cases isLanguage : command.language with
          | none =>
              refine .inl ⟨.unanswered .selection, ?_, fun _ _ => .noLanguage isLanguage⟩
              simp [valid]
          | some language =>
              refine .inr ⟨⟨name, language, .ofList command.features,
                command.outputFolder.getD name⟩, name, ?_, rfl, valid, rfl, rfl⟩
              simp [valid]

/-- With a usable diagram and all settings, only the folder can be in the way. -/
theorem not_refused {name : String} {language : Language}
    (usable : ¬ Diagram.Unusable disk input) (isName : command.projectName = some name)
    (valid : isProjectName name = true) (isLanguage : command.language = some language)
    (free : ¬ (command.isPreview = false ∧
      (disk.examine (command.outputFolder.getD name)).isSome = true)) :
    ¬ command.Refused input disk := by
  rintro (unusable | missing | ⟨isName', invalid⟩ | missing | ⟨isName', notPreview, isThere⟩)
  · exact usable unusable
  · cases isName.symm.trans missing
  · cases isName.symm.trans isName'
    cases valid.symm.trans invalid
  · cases isLanguage.symm.trans missing
  · cases isName.symm.trans isName'
    exact free ⟨notPreview, isThere⟩

/-- A command is refused and leaves the disk alone, or the project is previewed or
written. -/
theorem run_cases (command : GenerateCommand) (isInput : command.input = some input) (disk : Disk) :
    (command.Refused input disk ∧ ∃ fault, command.run.run disk = (.error fault, disk)) ∨
      ¬ command.Refused input disk ∧ ∃ collections config,
        (Diagram.loadCollections input).run disk = (.ok collections, disk) ∧
        command.config = .ok config ∧
        if command.isPreview then
          command.run.run disk = (.ok (Project.preview collections config).lines, disk)
        else
          (command.run.run disk).2
              = ((Project.write collections config config.outputFolder).run disk).2 := by
  rw [GenerateCommand.run, isInput]
  simp only [Script.run_bind]
  rcases Diagram.run_loadCollections input disk with
    ⟨unusable, problem, loaded⟩ | ⟨usable, collections, loaded⟩
  · rw [loaded]
    exact .inl ⟨.diagram unusable, _, rfl⟩
  rw [loaded]
  rcases config_cases command with
    ⟨fault, isFault, refused⟩ | ⟨config, name, isConfig, isName, valid, isLanguage, isFolder⟩
  · rw [isFault]
    exact .inl ⟨refused input disk, fault, rfl⟩
  rw [isConfig]
  have accepted := not_refused usable isName valid isLanguage
  cases isPreview : command.isPreview with
  | true =>
      refine .inr ⟨accepted (by simp [isPreview]), collections, config, rfl, rfl, ?_⟩
      rfl
  | false =>
      simp only [Script.run_bind, Project.previewOrGenerate, Bool.false_eq_true, if_false]
      rcases Project.run_generate collections config disk with
        ⟨isThere, fault, generated⟩ | ⟨notThere, generated⟩
      · rw [generated]
        exact .inl ⟨.folderExists isName isPreview (isFolder ▸ isThere), _, rfl⟩
      · rw [isFolder] at notThere
        refine .inr ⟨accepted (by simp [notThere]), collections, config, rfl, rfl, ?_⟩
        rw [← generated]
        cases ((Project.generate collections config).run disk).1 <;> rfl

end GenerateCommand

/-- Where the link of the working folder is kept. -/
def Surroundings.linkLocation (surroundings : Surroundings) : String :=
  Path.join surroundings.folder Link.location

/-! ## Writing schemas -/

namespace SyncCommand

variable {command : SyncCommand} {input : String}

/-- What a command to write the schemas of a file is refused for. -/
inductive Refused (command : SyncCommand) (input : String) (surroundings : Surroundings)
    (disk : Disk) : Prop where
  | link (unusable : Link.Unusable disk surroundings.linkLocation)
  | diagram (unusable : Diagram.Unusable disk input)
  | noModels (missing : command.models = none)
  | folderExists {text : String} {link : Link}
      (isText : disk.read surroundings.linkLocation = .ok text)
      (isLink : Link.read ⟨surroundings.linkLocation, text⟩ = .ok link)
      (notConfirmed : command.isConfirmed = false)
      (isThere : (disk.examine (link.modelsFolder surroundings.folder)).isSome = true)

/-- An existing folder stops a command that was not confirmed. -/
theorem run_write (command : SyncCommand) (surroundings : Surroundings) (link : Link)
    (input : String) (collections : List Collection) (selection : Selection) (disk : Disk) :
    (((disk.examine (link.modelsFolder surroundings.folder)).isSome && !command.isConfirmed) = true ∧
        ∃ fault, (command.write surroundings link input collections selection).run disk
          = (.error fault, disk)) ∨
      ((disk.examine (link.modelsFolder surroundings.folder)).isSome && !command.isConfirmed)
          = false ∧
        ((command.write surroundings link input collections selection).run disk).2
          = ((Sync.run collections link surroundings.folder selection input).run disk).2 := by
  rw [write, Script.run_bind, Script.run_isThere]
  cases (disk.examine (link.modelsFolder surroundings.folder)).isSome && !command.isConfirmed with
  | true => exact .inl ⟨rfl, _, rfl⟩
  | false =>
      refine .inr ⟨rfl, ?_⟩
      simp only [Bool.false_eq_true, if_false, Script.run_bind]
      cases ((Sync.run collections link surroundings.folder selection input).run disk).1 <;> rfl

/-- A command is refused and leaves the disk alone, or the schemas are written. -/
theorem run_cases (command : SyncCommand) (isInput : command.input = some input)
    (surroundings : Surroundings) (disk : Disk) :
    (command.Refused input surroundings disk ∧
        ∃ fault, (command.run surroundings).run disk = (.error fault, disk)) ∨
      ¬ command.Refused input surroundings disk ∧ ∃ link collections models,
        (Link.load surroundings.linkLocation).run disk = (.ok link, disk) ∧
        (Diagram.loadCollections input).run disk = (.ok collections, disk) ∧
        command.models = some models ∧
        ((command.run surroundings).run disk).2
          = ((Sync.run collections link surroundings.folder (.ofText models) input).run disk).2 := by
  rw [SyncCommand.run, isInput]
  simp only [Script.run_bind]
  rcases Link.run_load surroundings.linkLocation disk with
    ⟨unusable, problem, loaded⟩ | ⟨linkUsable, text, link, isText, isLink, loadedLink⟩
  · rw [Surroundings.linkLocation] at loaded
    rw [loaded]
    exact .inl ⟨.link unusable, _, rfl⟩
  rcases Diagram.run_loadCollections input disk with
    ⟨unusable, problem, loaded⟩ | ⟨usable, collections, loaded⟩
  · rw [← Surroundings.linkLocation, loadedLink]
    simp only [Script.run_bind, loaded]
    exact .inl ⟨.diagram unusable, _, rfl⟩
  rw [← Surroundings.linkLocation, loadedLink]
  simp only [Script.run_bind, loaded]
  cases isModels : command.models with
  | none => exact .inl ⟨.noModels isModels, _, rfl⟩
  | some models =>
      rcases command.run_write surroundings link input collections (.ofText models) disk with
        ⟨barred, fault, isFault⟩ | ⟨free, written⟩
      · rw [Bool.and_eq_true_iff, Bool.not_eq_true'] at barred
        exact .inl ⟨.folderExists isText isLink barred.2 barred.1, fault, isFault⟩
      · refine .inr ⟨?_, link, collections, models, rfl, rfl, rfl, written⟩
        rintro (unusable | unusable | missing | ⟨isText', isLink', notConfirmed, isThere⟩)
        · exact linkUsable unusable
        · exact usable unusable
        · cases isModels.symm.trans missing
        · cases isText.symm.trans isText'
          cases isLink.symm.trans isLink'
          simp [isThere, notConfirmed] at free

end SyncCommand

/-! ## Linking a folder -/

namespace LinkCommand

variable {command : LinkCommand} {given : String}

/-- What a command to link the working folder to a given project is refused for. -/
inductive Refused (command : LinkCommand) (given : String) (surroundings : Surroundings)
    (disk : Disk) : Prop where
  | noBackend (missing : disk.examine (Path.join surroundings.folder "package.json") = none)
  | invalidId (invalid : Link.isProjectId (Link.idStart ++ Link.withoutStart given) = false)
  | noPath (missing : command.path = none)
  | noLanguage (missing : command.language = none)
  | noModuleSystem (isLanguage : command.language = some .javaScript)
      (missing : command.moduleSystem = none)
  | linkExists (notForced : command.isForced = false)
      (isThere : (disk.examine surroundings.linkLocation).isSome = true)

theorem targetModuleSystem_cases (command : LinkCommand) (language : Language) :
    (language = .javaScript ∧ command.moduleSystem = none ∧
        ∃ fault, command.targetModuleSystem language = .error fault) ∨
      ¬ (language = .javaScript ∧ command.moduleSystem = none) ∧
        ∃ moduleSystem, command.targetModuleSystem language = .ok moduleSystem := by
  cases language with
  | typeScript => exact .inr ⟨(nomatch ·.1), _, rfl⟩
  | javaScript =>
      rw [targetModuleSystem]
      cases command.moduleSystem with
      | none => exact .inl ⟨rfl, rfl, _, rfl⟩
      | some moduleSystem => exact .inr ⟨(nomatch ·.2), _, rfl⟩

/-- A link is made of a valid id, a path, a language and, where it matters, a module
system, and of nothing less. -/
theorem link_cases (command : LinkCommand) (isGiven : command.projectId = some given)
    (now : Nat) :
    (∃ fault, command.link now = .error fault ∧
        ∀ surroundings disk, command.Refused given surroundings disk) ∨
      ∃ link, command.link now = .ok link ∧
        ∀ surroundings disk, command.Refused given surroundings disk →
          disk.examine (Path.join surroundings.folder "package.json") = none ∨
          (disk.examine surroundings.linkLocation).isSome = true ∧
            command.isForced = false := by
  rw [link, isGiven]
  rcases isPath : command.path with _ | path
  · exact .inl ⟨_, rfl, fun _ _ => .noPath isPath⟩
  rcases isLanguage : command.language with _ | language
  · exact .inl ⟨_, rfl, fun _ _ => .noLanguage isLanguage⟩
  simp only [Option.elim, bind, Except.bind]
  rcases targetModuleSystem_cases command language with
    ⟨rfl, missing, fault, isFault⟩ | ⟨enough, moduleSystem, isModuleSystem⟩
  · rw [isFault]
    exact .inl ⟨fault, rfl, fun _ _ => .noModuleSystem isLanguage missing⟩
  rw [isModuleSystem]
  cases valid : Link.isProjectId (Link.idStart ++ Link.withoutStart given) with
  | false =>
      refine .inl ⟨.invalidId (Link.withoutStart given), ?_, fun _ _ => .invalidId valid⟩
      simp [Link.isValid, Link.toProject, valid]
  | true =>
      refine .inr ⟨Link.toProject (Link.withoutStart given) path language moduleSystem now, ?_, ?_⟩
      · simp [Link.isValid, Link.toProject, valid, pure, Except.pure]
      · rintro surroundings disk
          (missing | invalid | missing | missing | ⟨isLanguage', missing⟩ | ⟨notForced, isThere⟩)
        · exact .inl missing
        · cases valid.symm.trans invalid
        · cases isPath.symm.trans missing
        · cases isLanguage.symm.trans missing
        · cases isLanguage.symm.trans isLanguage'
          exact absurd ⟨rfl, missing⟩ enough
        · exact .inr ⟨isThere, notForced⟩

/-- An existing link stops a command that is not forced. -/
theorem run_save (command : LinkCommand) (surroundings : Surroundings) (link : Link)
    (disk : Disk) :
    (((disk.examine surroundings.linkLocation).isSome && !command.isForced) = true ∧
        ∃ fault, (command.save surroundings link).run disk = (.error fault, disk)) ∨
      ((disk.examine surroundings.linkLocation).isSome && !command.isForced) = false ∧
        ((command.save surroundings link).run disk).2
          = ((link.save surroundings.linkLocation).run disk).2 := by
  have isLocation : Path.join surroundings.folder Link.location = surroundings.linkLocation := rfl
  simp only [save, isLocation, Script.run_bind]
  rw [Script.run_isThere]
  cases (disk.examine surroundings.linkLocation).isSome && !command.isForced with
  | true => exact .inl ⟨rfl, _, rfl⟩
  | false =>
      refine .inr ⟨rfl, ?_⟩
      simp only [Bool.false_eq_true, if_false, Script.run_bind]
      cases ((link.save surroundings.linkLocation).run disk).1 <;> rfl

/-- A command is refused and leaves the disk alone, or the link is saved. -/
theorem run_cases (command : LinkCommand) (isGiven : command.projectId = some given)
    (surroundings : Surroundings) (disk : Disk) :
    (command.Refused given surroundings disk ∧
        ∃ fault, (command.run surroundings).run disk = (.error fault, disk)) ∨
      ¬ command.Refused given surroundings disk ∧ ∃ link,
        command.link surroundings.now = .ok link ∧
        ((command.run surroundings).run disk).2
          = ((link.save surroundings.linkLocation).run disk).2 := by
  rw [LinkCommand.run, Script.run_bind, Script.run_isThere]
  rcases isBackend : disk.examine (Path.join surroundings.folder "package.json") with _ | kind
  · exact .inl ⟨.noBackend isBackend, _, rfl⟩
  simp only [Option.isSome_some, if_true]
  rcases link_cases command isGiven surroundings.now with
    ⟨fault, isFault, refused⟩ | ⟨link, isLink, refused⟩
  · rw [isFault]
    exact .inl ⟨refused surroundings disk, fault, rfl⟩
  rw [isLink]
  rcases command.run_save surroundings link disk with ⟨barred, fault, isFault⟩ | ⟨free, saved⟩
  · rw [Bool.and_eq_true_iff, Bool.not_eq_true'] at barred
    exact .inl ⟨.linkExists barred.2 barred.1, fault, isFault⟩
  · refine .inr ⟨?_, link, rfl, saved⟩
    intro isRefused
    rcases refused surroundings disk isRefused with missing | ⟨isThere, notForced⟩
    · cases isBackend.symm.trans missing
    · simp [isThere, notForced] at free

end LinkCommand

/-! ## Command lines -/

/-- What a command is refused for that names the file or project it is about. -/
inductive Command.Refused (surroundings : Surroundings) (disk : Disk) : Command → Prop where
  | generate {command : GenerateCommand} {input : String} (isInput : command.input = some input)
      (refused : command.Refused input disk) : Refused surroundings disk (.generate command)
  | sync {command : SyncCommand} {input : String} (isInput : command.input = some input)
      (refused : command.Refused input surroundings disk) :
      Refused surroundings disk (.sync command)
  | link {command : LinkCommand} {given : String} (isGiven : command.projectId = some given)
      (refused : command.Refused given surroundings disk) :
      Refused surroundings disk (.link command)

theorem Command.Refused.run_eq {command : Command} (refused : command.Refused surroundings disk) :
    ∃ fault, (command.run surroundings).run disk = (.error fault, disk) := by
  cases refused with
  | generate isInput refused =>
      rcases GenerateCommand.run_cases _ isInput disk with ⟨-, faulty⟩ | ⟨accepted, -⟩
      · exact faulty
      · exact absurd refused accepted
  | sync isInput refused =>
      rcases SyncCommand.run_cases _ isInput surroundings disk with ⟨-, faulty⟩ | ⟨accepted, -⟩
      · exact faulty
      · exact absurd refused accepted
  | link isGiven refused =>
      rcases LinkCommand.run_cases _ isGiven surroundings disk with ⟨-, faulty⟩ | ⟨accepted, -⟩
      · exact faulty
      · exact absurd refused accepted

/-- A preview writes nothing, whether it is refused or not. -/
theorem GenerateCommand.run_preview {command : GenerateCommand} {input : String}
    (isInput : command.input = some input) (isPreview : command.isPreview = true) (disk : Disk) :
    (command.run.run disk).2 = disk := by
  rcases run_cases command isInput disk with
    ⟨-, fault, isFault⟩ | ⟨-, collections, config, -, -, carriedOut⟩
  · rw [isFault]
  · rw [if_pos isPreview] at carriedOut
    rw [carriedOut]

theorem refused_leaves_disk (surroundings : Surroundings) (arguments : List String) (disk : Disk)
    {command : Command} (isCommand : Command.ofArguments arguments = some command) :
    (command.Refused surroundings disk →
        exitStatus ((run surroundings arguments).run disk).1 ≠ 0 ∧
          ((run surroundings arguments).run disk).2 = disk) ∧
      ∀ generating input, command = .generate generating → generating.input = some input →
        generating.isPreview = true → ((run surroundings arguments).run disk).2 = disk := by
  rw [run, isCommand]
  constructor
  · intro refused
    obtain ⟨fault, isFault⟩ := refused.run_eq
    rw [isFault]
    exact ⟨fault.exitStatus_ne_zero, rfl⟩
  · rintro generating input rfl isInput isPreview
    exact GenerateCommand.run_preview isInput isPreview disk

theorem refused_leaves_disk_takenFolder :
    let arguments := ["generate", "-i", "graph.json", "-n", "shop", "-l", "typescript"]
    let disk : Disk := ⟨["home"], [(["home"], .folder), (["home", "shop"], .folder)]⟩
    exitStatus ((run ⟨"/home", 0⟩ arguments).run disk).1 ≠ 0 ∧
      ((run ⟨"/home", 0⟩ arguments).run disk).2 = disk := by
  intro arguments disk
  have isCommand : Command.ofArguments arguments
      = some (.generate ⟨"graph.json", "shop", some .typeScript, [], none, false⟩) := by decide +kernel
  exact (refused_leaves_disk ⟨"/home", 0⟩ arguments disk isCommand).1
    (.generate rfl (.folderExists rfl rfl (by decide +kernel)))

end Terminal

end SchemaScaffold
