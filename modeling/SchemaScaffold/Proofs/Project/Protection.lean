import SchemaScaffold.Proofs.Project.FileNames
import SchemaScaffold.Proofs.Project.Linkage

/-! Which requests pass the gate. With authentication each request meets the gate
and then one handler; without it there is no trace of a gate. All of it is read
in the texts of the files, where spaces tell the arguments of a call apart. -/

namespace SchemaScaffold.Project

open Code

variable {collections : List Collection} {config : Config} {file : ProjectFile}

/-! ## Routers -/

/-- A file in the folder of the routers. -/
def IsRouter (file : ProjectFile) : Prop := ∃ name, file.segments = ["src", "routes", name]

/-- The calls by which a router answers its verbs. -/
def verbCalls (content : String) : List Call := scan chainedCall? content

/-- A call for each request of a collection, its handler behind the given guards. -/
def requestCalls (guards : List String) (collection : Collection) : List Call :=
  (Operation.onCollection ++ Operation.onRecord).map fun operation =>
    ⟨operation.verb.name, guards ++ [operation.handlerName collection]⟩

theorem not_isRouter_of_mem_commonFiles (mounts : List Mount) :
    ∀ file ∈ commonFiles config mounts, ¬ IsRouter file := by
  refine forall_mem_commonFiles ?_ (fun _ => ?_) ?_
  · simp [IsRouter, connection, errorHandler, app, entryPoint, Manifest.file, environment,
      environmentExample, ignoreList, readme]
  · simp [IsRouter, gate]
  · simp [IsRouter, compilerSettings, testRunner, firstTest, unitTestFolder, image, composition]

/-- The routers of a project belong to the collections that declare fields. -/
theorem router_eq (isFile : file ∈ files collections config) (isRouter : IsRouter file) :
    ∃ collection ∈ collections,
      file = .ofArtifact "routes" (Route.artifact collection config) := by
  rcases List.mem_append.mp isFile with ofCollection | isCommon
  · rcases List.mem_flatMap.mp ofCollection with ⟨collection, known, isFile⟩
    refine ⟨collection, known, ?_⟩
    rcases isRouter with ⟨name, segments⟩
    have isSource := (mem_collectionFiles.mp isFile).2
    simp only [sourcesOf, List.mem_cons, List.not_mem_nil, or_false] at isSource
    rcases isSource with rfl | rfl | rfl
    · simp [ProjectFile.ofArtifact] at segments
    · simp [ProjectFile.ofArtifact] at segments
    · rfl
  · exact absurd isRouter (not_isRouter_of_mem_commonFiles _ file isCommon)

theorem verbCalls_route (collection : Collection) :
    verbCalls (Route.artifact collection config).content
      = requestCalls (if config.has .auth then [Route.gateName] else []) collection := by
  rw [verbCalls, Route.artifact, Route.scan_chainedCall?]
  rfl

theorem ne_gateName_of_mem_handlerNames {collection : Collection} {name : String}
    (isHandler : name ∈ handlerNames collection) : name ≠ Route.gateName := by
  rcases List.mem_map.mp isHandler with ⟨operation, _, rfl⟩
  intro equal
  have first := congrArg (fun text => text.toList.head?) equal
  cases operation <;> simp [Operation.handlerName, Route.gateName] at first

/-! ## The gate -/

/-- The module of the gate, as a router names it. -/
def gateImport : Import := { source := "../middleware/auth.js", named := [Route.gateName] }

theorem isSolid_imports_gate (isTyped : Bool) :
    ∀ statement ∈ (Gate.sourceFile isTyped).imports, IsSolidImport statement := by
  have types : ∀ name ∈ ["NextFunction", "Request", "Response"], Text.IsSolid name := by
    simp only [List.forall_mem_cons]
    exact ⟨.of_all (by decide), .of_all (by decide), .of_all (by decide), List.forall_mem_nil _⟩
  have express : ∀ statement ∈ expressImport isTyped, IsSolidImport statement := by
    rw [expressImport]
    split
    · exact List.forall_mem_singleton.mpr
        (.named (List.cons_ne_nil _ _) types (.of_all (by decide)))
    · exact List.forall_mem_nil _
  rw [Gate.sourceFile, List.forall_mem_append, List.forall_mem_singleton]
  exact ⟨express, .default (.of_all (by decide)) (by decide) (.of_all (by decide))⟩

theorem arePlain_gate (isTyped : Bool) : ArePlain (Gate.body isTyped) := by
  have reject : Gate.reject.IsPlain := isPlain_line (.of_literal rfl rfl)
  have verify : (Gate.verify isTyped).IsPlain := by
    cases isTyped with
    | true => exact isPlain_line (.append (.of_literal rfl rfl) (.of_literal rfl rfl))
    | false => exact isPlain_line (.of_literal rfl rfl)
  have attach : (Gate.attach isTyped).IsPlain := by
    cases isTyped <;> exact isPlain_line (.of_literal rfl rfl)
  have empty : Lacks '\n' "" := List.not_mem_nil
  simp only [Gate.body, ArePlain, isPlain_braced, Fragment.IsPlain, reject, verify, attach, and_true,
    true_and]
  exact ⟨.of_literal rfl rfl, ⟨.of_literal rfl rfl, empty⟩,
    ⟨.of_literal rfl rfl, ⟨⟨.of_literal rfl rfl, empty⟩, .of_literal rfl rfl⟩, by simp⟩,
    .of_literal rfl rfl, empty⟩

/-- The answer to a request that does not pass. -/
def unauthorized : Constant :=
  { name := "unauthorized"
    value := "\x7b success: false, error: \"" ++ Gate.unauthorizedMessage ++ "\" \x7d" }

theorem found_unauthorized : found exportedName? unauthorized.fragments = [] := by
  have value : Lacks '\n' unauthorized.value :=
    .append (.append (.of_literal rfl rfl) (.of_literal rfl rfl)) (.of_literal rfl rfl)
  have head : unauthorized.head "" = "const unauthorized = " := rfl
  have plainHead : Lacks '\n' (unauthorized.head "") := head ▸ .of_literal rfl rfl
  rw [found_constant plainHead value (by simp [unauthorized]), exportedName?_eq_none]
  · rfl
  · simp [unauthorized, Constant.head, exportWord]

theorem exportedNames_gate (language : Language) :
    exportedNames (gate language).content = [Route.gateName] := by
  have skips : SkipsBlocks exportedName? := skipsBlocks_exportedName?
  have imports := found_imports_eq_nil (fun _ => exportedName?_eq_none (by simp))
    (isSolid_imports_gate language.isTyped)
  have parameters : ∀ parameter ∈ requestParameters language.isTyped,
      Lacks '\n' parameter.text := by
    cases language <;>
      simp [requestParameters, parameter, Language.isTyped, Parameter.text, annotated, Lacks]
  have name : Lacks '\n' (Gate.function language.isTyped).name := .of_literal rfl rfl
  have signature := lacks_signature name parameters
  have function : found exportedName? (Gate.function language.isTyped).fragments
      = [Route.gateName] := by
    rw [found_function skips (by simp [Gate.function, Lacks]) signature (arePlain_gate _),
      exportedName?_signature rfl (by simp [Gate.function, Lacks])]
    rfl
  have statements : (Gate.sourceFile language.isTyped).statements
      = [.constant unauthorized, .function (Gate.function language.isTyped)] := rfl
  rw [exportedNames, gate, scan_sourceFile skips.nothing, imports]
  rw [statements]
  simp only [List.flatMap_cons, List.flatMap_nil, Statement.fragments, function, found_unauthorized,
    List.nil_append, List.append_nil]
  rfl

theorem scan_readImport?_route (collection : Collection) :
    scan readImport? (Route.artifact collection config).content
      = Route.imports collection (config.has .auth) := by
  rw [Route.artifact, Route.scan_readImport?]

/-- What authentication means for the files of a project. -/
structure GateIsComplete (collections : List Collection) (config : Config) : Prop where
  /-- Each verb of each router calls the gate and then one handler. -/
  guarded : config.has .auth = true → ∀ file ∈ files collections config, IsRouter file →
    ∃ collection ∈ collections,
      verbCalls file.content = requestCalls ["protect"] collection ∧
      ∀ call ∈ verbCalls file.content, ∃ handler ∈ handlerNames collection,
        call.arguments = ["protect", handler]
  imported : config.has .auth = true → ∀ file ∈ files collections config, IsRouter file →
    { source := "../middleware/auth.js", named := ["protect"] } ∈ scan readImport? file.content
  provided : config.has .auth = true → ∃ file ∈ files collections config,
    file.segments = ["src", "middleware", "auth." ++ config.extension] ∧
    file.name = "src/middleware/auth." ++ config.extension ∧
    exportedNames file.content = ["protect"]
  /-- Without authentication each verb of each router calls a handler and nothing else. -/
  unguarded : config.has .auth = false → ∀ file ∈ files collections config, IsRouter file →
    ∃ collection ∈ collections,
      verbCalls file.content = requestCalls [] collection ∧
      ∀ call ∈ verbCalls file.content, "protect" ∉ call.arguments
  notImported : config.has .auth = false → ∀ file ∈ files collections config, IsRouter file →
    ∀ statement ∈ scan readImport? file.content,
      statement.source ≠ "../middleware/auth.js" ∧ statement.default ≠ some "protect" ∧
        "protect" ∉ statement.named
  notProvided : config.has .auth = false → ∀ file ∈ files collections config,
    file.segments ≠ ["src", "middleware", "auth." ++ config.extension]

theorem arguments_of_mem_requestCalls {guards : List String} {collection : Collection} {call : Call}
    (isCall : call ∈ requestCalls guards collection) :
    ∃ handler ∈ handlerNames collection, call.arguments = guards ++ [handler] := by
  rcases List.mem_map.mp isCall with ⟨operation, _, rfl⟩
  refine ⟨operation.handlerName collection, List.mem_map_of_mem ?_, rfl⟩
  cases operation <;> decide

theorem segments_ne_gate (off : config.has .auth = false)
    (isFile : file ∈ files collections config) :
    file.segments ≠ ["src", "middleware", "auth." ++ config.extension] := by
  have common : ∀ file ∈ commonFiles config (mounts collections),
      file.segments ≠ ["src", "middleware", "auth." ++ config.extension] := by
    refine forall_mem_commonFiles ?_ (fun on => ?_) ?_
    · simp [connection, errorHandler, app, entryPoint, Manifest.file, environment,
        environmentExample, ignoreList, readme, ← String.toList_inj]
    · rw [off] at on
      cases on
    · simp [compilerSettings, testRunner, firstTest, unitTestFolder, image, composition]
  rcases List.mem_append.mp isFile with ofCollection | isCommon
  · rcases List.mem_flatMap.mp ofCollection with ⟨collection, _, isFile⟩
    have isSource := (mem_collectionFiles.mp isFile).2
    simp only [sourcesOf, List.mem_cons, List.not_mem_nil, or_false] at isSource
    rcases isSource with rfl | rfl | rfl <;> simp [ProjectFile.ofArtifact]
  · exact common file isCommon

theorem gate_mem_files (on : config.has .auth = true) :
    gate config.language ∈ files collections config := by
  simp [files, commonFiles, whenHas, on]

theorem name_gate (on : config.has .auth = true) :
    (gate config.language).name = "src/middleware/auth." ++ config.extension := by
  have isCommon : gate config.language ∈ commonFiles config [] := by
    simp [commonFiles, whenHas, on]
  rw [(hasPlainPath_of_mem_commonFiles config [] _ isCommon).name_eq]
  simp [gate, String.intercalate_cons_cons, ← String.toList_inj, Config.extension]

/-- The gate is in front of every handler or nowhere. -/
theorem gate_is_complete (collections : List Collection) (config : Config) :
    GateIsComplete collections config where
  guarded on file isFile isRouter := by
    rcases router_eq isFile isRouter with ⟨collection, known, rfl⟩
    have calls : verbCalls (Route.artifact collection config).content
        = requestCalls ["protect"] collection := by
      rw [verbCalls_route, if_pos on]
      rfl
    refine ⟨collection, known, calls, fun call isCall => ?_⟩
    exact arguments_of_mem_requestCalls (calls ▸ isCall)
  imported on file isFile isRouter := by
    rcases router_eq isFile isRouter with ⟨collection, _, rfl⟩
    have isImport : gateImport ∈ scan readImport? (Route.artifact collection config).content := by
      rw [scan_readImport?_route, Route.imports, if_pos on]
      simp [gateImport]
    exact isImport
  provided on :=
    ⟨gate config.language, gate_mem_files on, rfl, name_gate on,
      exportedNames_gate config.language⟩
  unguarded off file isFile isRouter := by
    rcases router_eq isFile isRouter with ⟨collection, known, rfl⟩
    have calls : verbCalls (Route.artifact collection config).content
        = requestCalls [] collection := by
      rw [verbCalls_route, off]
      rfl
    refine ⟨collection, known, calls, fun call isCall isArgument => ?_⟩
    rcases arguments_of_mem_requestCalls (calls ▸ isCall) with ⟨handler, isHandler, arguments⟩
    rw [arguments, List.nil_append, List.mem_singleton] at isArgument
    exact ne_gateName_of_mem_handlerNames isHandler isArgument.symm
  notImported off file isFile isRouter statement isImport := by
    rcases router_eq isFile isRouter with ⟨collection, _, rfl⟩
    have imports : statement ∈ Route.imports collection false := by
      rw [← off, ← scan_readImport?_route]
      exact isImport
    simp only [Route.imports, Bool.false_eq_true, if_false, List.append_nil, List.mem_append,
      List.mem_singleton] at imports
    rcases imports with rfl | rfl
    · simp
    · refine ⟨by simp [← String.toList_inj], by simp, fun isHandler => ?_⟩
      exact ne_gateName_of_mem_handlerNames isHandler rfl
  notProvided off _ isFile := segments_ne_gate off isFile

end SchemaScaffold.Project
