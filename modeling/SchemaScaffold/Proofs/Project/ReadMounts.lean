import Mathlib.Data.List.Basic
import SchemaScaffold.Proofs.Code.Texts
import SchemaScaffold.Proofs.Project.Linkage

/-! What is read back out of the application: which modules it imports and what it
puts into use. A router is used under the path that the comments of its route
state. -/

namespace SchemaScaffold

open Code

/-! ## Stated paths -/

namespace Route

variable (collection : Collection) (config : Config)

/-- What is said about an operation is indented. -/
theorem indented_operationLines (isProtected : Bool) (operation : Operation) :
    ∀ line ∈ operationLines collection isProtected operation, "  ".toList <+: line.toList := by
  have security : ∀ line ∈ (if isProtected then securityLines else []),
      "  ".toList <+: line.toList := by
    cases isProtected <;> simp [securityLines]
  have parameter : ∀ line ∈ (if operation.takesId then parameterLines else []),
      "  ".toList <+: line.toList := by
    cases operation <;> simp [Operation.takesId, parameterLines]
  have body : ∀ line ∈ (if operation.takesBody then bodyLines else []),
      "  ".toList <+: line.toList := by
    cases operation <;> simp [Operation.takesBody, bodyLines]
  have answer (answer : DocumentedAnswer) :
      ∀ line ∈ answerLines answer, "  ".toList <+: line.toList := by
    simp [answerLines]
  have answers : ∀ line ∈ (documentedAnswers isProtected operation).flatMap answerLines,
      "  ".toList <+: line.toList := by
    intro line isLine
    rcases List.mem_flatMap.mp isLine with ⟨documented, _, isLine⟩
    exact answer documented line isLine
  simp only [operationLines, List.forall_mem_append, List.forall_mem_cons, List.not_mem_nil,
    false_implies, implies_true, and_true]
  exact ⟨⟨⟨⟨by simp, security⟩, parameter⟩, body⟩, by simp, answers⟩

/-- The paths that the lines of a comment state. -/
def statedPaths (remarks : List String) : List String :=
  remarks.flatMap fun line => (statedPath? (remarkLine line)).toList

theorem statedPath?_indented {line : String} (indented : "  ".toList <+: line.toList) :
    statedPath? (remarkLine line) = none := by
  rcases indented with ⟨rest, chars⟩
  have notEmpty : line.isEmpty = false := by
    rw [Bool.eq_false_iff]
    intro isEmpty
    rw [String.isEmpty_iff.mp isEmpty] at chars
    cases chars
  rw [remarkLine, notEmpty]
  exact statedPath?_eq_none (by simp [← chars]) (by simp [← chars])

theorem statedPaths_openApiLines (isProtected : Bool) (rest : String)
    (operations : List Operation) :
    statedPaths (openApiLines collection isProtected ("/" ++ rest) operations) = ["/" ++ rest] := by
  have start : statedPath? (remarkLine "@openapi") = none :=
    statedPath?_eq_none (by simp [remarkLine]) (by simp [remarkLine])
  have path : statedPath? (remarkLine ("/" ++ rest ++ ":")) = some ("/" ++ rest) := by
    have line : remarkLine ("/" ++ rest ++ ":") = " * /" ++ (rest ++ ":") := by
      simp [remarkLine, ← String.toList_inj]
    rw [line, statedPath?_path]
  have below : statedPaths (operations.flatMap (operationLines collection isProtected)) = [] := by
    rw [statedPaths, List.flatMap_eq_nil_iff]
    intro line isLine
    rcases List.mem_flatMap.mp isLine with ⟨operation, _, isLine⟩
    rw [statedPath?_indented (indented_operationLines collection isProtected operation line isLine)]
    rfl
  rw [statedPaths] at below
  rw [openApiLines, statedPaths, List.flatMap_cons, List.flatMap_cons, start, path, below]
  rfl

theorem statedPaths_route (path : String) : statedPaths ["@route " ++ path] = [path] := by
  have line : remarkLine ("@route " ++ path) = " * @route " ++ path := by
    simp [remarkLine, ← String.toList_inj]
  rw [statedPaths, List.flatMap_singleton, line, statedPath?_route]
  rfl

theorem routePath_eq : collection.routePath = "/" ++ ("api/" ++ (collection.camel ++ "s")) := by
  simp [Collection.routePath, Naming.routePath, Naming.routeSegment, Collection.camel,
    ← String.toList_inj]

theorem statedPaths_collectionRemarks :
    statedPaths (collectionRemarks collection config) = [collection.routePath] := by
  rw [collectionRemarks]
  split
  · rw [routePath_eq, statedPaths_openApiLines]
  · exact statedPaths_route _

/-- How the two forms of comments write the place of an id. -/
def idPlace : String := if config.has .swagger then "/\x7bid\x7d" else "/:id"

theorem statedPaths_recordRemarks :
    statedPaths (recordRemarks collection config) = [collection.routePath ++ idPlace config] := by
  rw [recordRemarks, idPlace]
  split
  · rw [routePath_eq, String.append_assoc, statedPaths_openApiLines]
  · rw [String.append_assoc, statedPaths_route]

/-- In a chain, who only reads comments finds what is in its remarks. -/
theorem found_chain_remarks {α : Type} {read : String → Option α} (opening : read "/**" = none)
    (closing : read " */" = none) (skipsCalls : Skips read "  ") (skipsHeads : Skips read "router")
    (isProtected : Bool) {path : String} (plainPath : Lacks '\n' path)
    {operations : List Operation} (some : operations ≠ []) {remarks : List String}
    (plainRemarks : ∀ line ∈ remarks, Lacks '\n' line) :
    found read (chain collection isProtected path operations remarks).fragments
      = remarks.flatMap fun line => (read (remarkLine line)).toList := by
  have ofRemarks : found read
      (chain collection isProtected path operations remarks).remarkFragments
      = remarks.flatMap fun line => (read (remarkLine line)).toList := by
    rw [Chain.remarkFragments, chain]
    cases remarks with
    | nil => rfl
    | cons line rest => exact found_remarks opening closing plainRemarks
  have head : read ("router.route(" ++ "\"" ++ path ++ "\"" ++ ")") = none := by
    have parts : "router.route(" ++ "\"" ++ path ++ "\"" ++ ")"
        = "router" ++ (".route(" ++ "\"" ++ path ++ "\"" ++ ")") := by
      simp [← String.toList_inj]
    rw [parts, skipsHeads]
  have calls := scan_calls_eq_nil collection isProtected operations skipsCalls
  rw [found_chain_eq (by simpa [chain] using some), ofRemarks, head_chain,
    scan_eq_nil (lacks_head plainPath) head, List.nil_append]
  exact (congrArg (_ ++ ·) calls).trans (List.append_nil _)

theorem found_chain_statedPath? (isProtected : Bool) {path : String} (plainPath : Lacks '\n' path)
    {operations : List Operation} (some : operations ≠ []) {remarks : List String}
    (plainRemarks : ∀ line ∈ remarks, Lacks '\n' line) :
    found statedPath? (chain collection isProtected path operations remarks).fragments
      = statedPaths remarks :=
  found_chain_remarks collection (statedPath?_eq_none (by simp) (by simp))
    (statedPath?_eq_none (by simp) (by simp)) (fun _ => statedPath?_eq_none (by simp) (by simp))
    (fun _ => statedPath?_eq_none (by simp) (by simp)) isProtected plainPath some plainRemarks

/-- The comments of a route state the path of its collection, and that of a record. -/
theorem scan_statedPath? :
    scan statedPath? (sourceFile collection config).render
      = [collection.routePath, collection.routePath ++ idPlace config] := by
  rw [scan_chains collection config (statedPath?_eq_none (by simp) (by simp))
      (fun _ => statedPath?_eq_none (by simp) (by simp))
      (fun _ => statedPath?_eq_none (by simp) (by simp))
      (fun _ => statedPath?_eq_none (by simp) (by simp)),
    found_chain_statedPath? collection _ (by simp [Lacks]) (by decide)
      (lacks_collectionRemarks collection config),
    found_chain_statedPath? collection _ (by simp [Lacks]) (by decide)
      (lacks_recordRemarks collection config),
    statedPaths_collectionRemarks, statedPaths_recordRemarks]
  rfl

end Route

/-! ## The documentation server -/

namespace Project.App

variable {α : Type} {read : String → Option α}

/-- How the lines of the specification start, apart from empty ones. -/
def specificationStarts : List String := ["const ", "  ", "\x7d"]

/-- Lines that neither import nor use anything. -/
def IsPassed (line : List Char) : Prop :=
  line = [] ∨ ∃ start ∈ specificationStarts, start.toList <+: line

namespace IsPassed

variable {line : List Char}

theorem dropReturn (passed : IsPassed line) : IsPassed (Text.dropReturn line) := by
  rcases passed with rfl | ⟨start, isStart, starts⟩
  · exact .inl rfl
  · have noReturn : ∀ start ∈ specificationStarts, '\r' ∉ start.toList := by decide
    exact .inr ⟨start, isStart, prefix_dropReturn starts (noReturn start isStart)⟩

theorem read_eq_none (passed : IsPassed line) (skips : SkipsBlocks read)
    (skipsConstants : Skips read "const ") : read (String.ofList line) = none := by
  rcases passed with rfl | ⟨start, isStart, rest, rfl⟩
  · exact skips.nothing
  · have skipsStart : ∀ start ∈ specificationStarts, Skips read start := by
      simp [specificationStarts, skipsConstants, skips.indented, skips.closing]
    have parts : String.ofList (start.toList ++ rest) = start ++ String.ofList rest := by simp
    rw [parts]
    exact skipsStart start isStart _

end IsPassed

theorem arePlain_specification {config : Config} (plainName : Lacks '\n' config.projectName) :
    ∃ body, specification config = .braced "" body ∧ ArePlain body := by
  have extension : Lacks '\n' config.extension := by
    rw [Config.extension]
    cases config.language <;> decide
  have schemes : securitySchemes.IsPlain := by
    simp [securitySchemes, isPlain_braced, ArePlain, Fragment.IsPlain, Lacks]
  refine ⟨_, rfl, ?_⟩
  simp only [ArePlain, isPlain_braced, arePlain_append, Fragment.IsPlain]
  split <;> simp [ArePlain, Lacks, plainName, extension, schemes]

theorem trimEnd_append_feed (front : List Char) :
    Text.trimEnd (front ++ ['\x7d', '\n']) = front ++ ['\x7d'] := by
  have feed : Text.isBlank '\n' = true := by decide
  have brace : Text.isBlank '\x7d' = false := by decide
  simp [Text.trimEnd, feed, brace]

/-- The specification stands between the lines of its brackets. -/
theorem specificationText_eq {config : Config} (plainName : Lacks '\n' config.projectName) :
    ∃ inner, specificationText config
        = String.join (("\x7b" :: inner).map (· ++ "\n")) ++ "\x7d" ∧
      ∀ line ∈ inner, Lacks '\n' line ∧ IsPassed line.toList := by
  rcases arePlain_specification plainName with ⟨body, equal, plain⟩
  refine ⟨(rowsOf 1 body).map Row.line, ?_, ?_⟩
  · have rows : linesAt 0 [specification config]
        = ("\x7b" :: (rowsOf 1 body).map Row.line) ++ ["\x7d"] := by
      simp [equal, Fragment.braced, linesAt, rowsOf, Fragment.rows, Row.line, Row.indentation]
    have whole : (Code.render [specification config]).toList
        = (String.join (("\x7b" :: (rowsOf 1 body).map Row.line).map (· ++ "\n"))).toList
          ++ ['\x7d', '\n'] := by
      rw [render_eq_join, rows, List.map_append, String.join_append]
      simp
    rw [specificationText, whole, trimEnd_append_feed, String.ofList_append, String.ofList_toList]
  · refine List.forall_mem_map.mpr fun row isRow => ?_
    rcases indented_of_mem_rowsOf plain isRow with ⟨single, empty | ⟨rest, equal⟩⟩
    · exact ⟨single, .inl (by rw [empty]; rfl)⟩
    · refine ⟨single, .inr ⟨"  ", by decide, ?_⟩⟩
      rw [equal, String.toList_append]
      exact List.prefix_append _ _

/-- The lines of the constant that holds the specification. -/
theorem lines_specificationConstant {config : Config} (plainName : Lacks '\n' config.projectName) :
    ∀ line ∈ (specificationConstant config).lines, Lacks '\n' line ∧ IsPassed line.toList := by
  rcases specificationText_eq plainName with ⟨inner, text, each⟩
  let kept (line : String) : String := String.ofList (Text.dropReturn line.toList)
  have value : (specificationConstant config).value.toList
      = (String.join (("swaggerJsdoc(\x7b" :: inner).map (· ++ "\n"))).toList ++ "\x7d)".toList := by
    simp [specificationConstant, text, String.join_cons]
  have plain : ∀ line ∈ "swaggerJsdoc(\x7b" :: inner, Lacks '\n' line :=
    List.forall_mem_cons.mpr ⟨by decide, fun line isLine => (each line isLine).1⟩
  have opening : kept "swaggerJsdoc(\x7b" = "swaggerJsdoc(\x7b" := by decide
  have valueLines : (Text.lines (specificationConstant config).value.toList).map String.ofList
      = "swaggerJsdoc(\x7b" :: (inner.map kept ++ ["\x7d)"]) := by
    rw [value, lines_joined plain, List.map_append, List.map_map, List.map_cons,
      lines_of_plain (by decide) (by decide)]
    exact congrArg (· :: _) opening
  have lines : (specificationConstant config).lines
      = "const swaggerSpec = swaggerJsdoc(\x7b" :: inner.map kept ++ ["\x7d);"] := by
    rw [Constant.lines, valueLines]
    exact ended_concat (_ :: inner.map kept) "\x7d)"
  have first : IsPassed "const swaggerSpec = swaggerJsdoc(\x7b".toList :=
    .inr ⟨"const ", by decide, by decide⟩
  have last : IsPassed "\x7d);".toList := .inr ⟨"\x7d", by decide, by decide⟩
  rw [lines, List.forall_mem_append, List.forall_mem_cons, List.forall_mem_map,
    List.forall_mem_singleton]
  refine ⟨⟨⟨by decide, first⟩, fun line isLine => ?_⟩, by decide, last⟩
  rcases each line isLine with ⟨single, passed⟩
  simp only [kept, Lacks, String.toList_ofList]
  exact ⟨fun isFeed => single (dropReturn_subset _ isFeed), passed.dropReturn⟩

/-- The arguments of the call that puts the documentation into use. -/
def documentationUse : List String :=
  ["\"/api-docs\"", "swaggerUi.serve", "swaggerUi.setup(swaggerSpec)"]

theorem isEnded_useLine (arguments : List String) : IsEnded (useLine arguments) :=
  .of_last (getLast?_useLine arguments) (by decide)

theorem used?_documentationUse : used? (useLine documentationUse) = some documentationUse :=
  used?_useLine (List.cons_ne_nil _ _) (by simp [documentationUse, Lacks])

/-- Of the documentation only its last line is looked at. -/
theorem found_documentation (skips : SkipsBlocks read) (skipsConstants : Skips read "const ")
    {config : Config} (plainName : Lacks '\n' config.projectName) :
    found read (documentation config).fragments = (read (useLine documentationUse)).toList := by
  let linesAbove := (specificationConstant config).lines
  let last := (useLine documentationUse).toList
  have each := lines_specificationConstant plainName
  have noFeed : '\n' ∉ last := lacks_useLine (by decide) (by simp [documentationUse, Lacks])
  have ended : IsEnded (useLine documentationUse) := isEnded_useLine _
  have literal : "\napp.use(\"/api-docs\", swaggerUi.serve, swaggerUi.setup(swaggerSpec));"
      = "\n" ++ useLine documentationUse := by
    simp [documentationUse, useLine, String.intercalate_cons_cons]
  have text : (Code.render (specificationConstant config).fragments
        ++ ("\n" ++ useLine documentationUse)).toList
      = (String.join (linesAbove.map (· ++ "\n"))).toList ++ ([] ++ '\n' :: last) := by
    rw [Constant.fragments, render_lines, String.toList_append, String.toList_append]
    rfl
  have above : (linesAbove.map fun line => Text.dropReturn line.toList).flatMap
      (fun line => if line.all Text.isBlank then [] else (read (String.ofList line)).toList)
      = [] := by
    rw [List.flatMap_eq_nil_iff, List.forall_mem_map]
    intro line isLine
    rw [(each line isLine).2.dropReturn.read_eq_none skips skipsConstants]
    exact ite_self _
  rw [documentation, literal, Statement.ofText, Statement.fragments, found_ofText skips.nothing,
    text, lines_joined fun line isLine => (each line isLine).1, lines_ended List.not_mem_nil,
    lines_single noFeed ended.toList_ne_nil, List.flatMap_append, above, List.nil_append,
    List.flatMap_cons, List.flatMap_singleton, ended.all_isBlank_eq_false, String.ofList_toList]
  rfl

/-! ## The application -/

/-- What is read in the documentation, which depends on the settings only. -/
def documented (read : String → Option α) (config : Config) : List α :=
  if config.has .swagger then found read (documentation config).fragments else []

theorem documented_of_plain (skips : SkipsBlocks read) (skipsConstants : Skips read "const ")
    {config : Config} (plainName : Lacks '\n' config.projectName) :
    documented read config
      = if config.has .swagger then (read (useLine documentationUse)).toList else [] := by
  rw [documented]
  split
  · exact found_documentation skips skipsConstants plainName
  · rfl

/-- The arguments of the calls that put the middleware into use. -/
def middlewareUses : List (List String) :=
  [["express.json()"], ["cors()"], ["helmet()"], ["morgan(\"dev\")"]]

theorem found_middleware :
    found read middleware.fragments
      = middlewareUses.flatMap fun arguments => (read (useLine arguments)).toList := by
  have lines : middleware.fragments = (middlewareUses.map useLine).map .line := by
    simp [middleware, Statement.fragments, middlewareUses, useLine]
  have plain : ∀ arguments ∈ middlewareUses, Lacks '\n' (useLine arguments) := by
    simp [middlewareUses, useLine, Lacks]
  rw [lines, found_lines, List.flatMap_map]
  exact List.flatMap_congr fun arguments isUse => scan_plain (plain arguments isUse)

theorem found_app (skipsConstants : Skips read "const ") :
    found read (Statement.constant { name := "app", value := "express()" }).fragments = [] := by
  have whole : Constant.head { name := "app", value := "express()" } "express()" ++ ";"
      = "const " ++ "app = express();" := by
    simp [Constant.head, exportWord, annotated]
  rw [Statement.fragments, found_constant (by decide) (by decide) (by decide), whole,
    skipsConstants]
  rfl

/-- The arguments of the call that mounts a router. -/
def mountUse (mount : Mount) : List String := ["\"" ++ mount.path ++ "\"", mount.binding]

theorem line_eq_useLine (mount : Mount) : mount.line = useLine (mountUse mount) := by
  unfold Mount.line
  simp [mountUse, useLine, String.intercalate_cons_cons, ← String.toList_inj]

theorem found_mountLines {mounts : List Mount} (some : mounts ≠ [])
    (plain : ∀ mount ∈ mounts, Lacks '\n' mount.line) :
    found read (mountLines mounts).fragments
      = mounts.flatMap fun mount => (read (useLine (mountUse mount))).toList := by
  have ended : ∀ mount ∈ mounts, IsEnded mount.line := by
    intro mount _
    rw [line_eq_useLine]
    exact isEnded_useLine _
  rw [mountLines, Statement.ofText, Statement.fragments,
    found_ofText_intercalate (by simpa using some) (by simpa using plain) (by simpa using ended),
    List.flatMap_map]
  exact List.flatMap_congr fun mount _ => by rw [line_eq_useLine]

/-- A reader that only looks for imports and for calls finds these in the application,
in the order of its sections. -/
theorem scan_app (skips : SkipsBlocks read) (skipsConstants : Skips read "const ")
    (skipsExports : Skips read "export ") {mounts : List Mount}
    (plain : ∀ mount ∈ mounts, Lacks '\n' mount.line) (config : Config) :
    scan read (app config mounts).content
      = ((imports config mounts).flatMap fun statement => found read statement.fragments)
        ++ ((middlewareUses.flatMap fun arguments => (read (useLine arguments)).toList)
        ++ (documented read config
        ++ ((mounts.flatMap fun mount => (read (useLine (mountUse mount))).toList)
        ++ (read (useLine ["errorHandler"])).toList))) := by
  have documentation :
      (if config.has .swagger then [documentation config] else []).flatMap
        (fun statement => found read statement.fragments) = documented read config := by
    rw [documented]
    split
    · exact List.flatMap_singleton ..
    · rfl
  have mountLines : (if mounts.isEmpty then [] else [mountLines mounts]).flatMap
        (fun statement => found read statement.fragments)
      = mounts.flatMap fun mount => (read (useLine (mountUse mount))).toList := by
    cases mounts with
    | nil => rfl
    | cons mount rest =>
        exact (List.flatMap_singleton ..).trans
          (found_mountLines (List.cons_ne_nil _ _) plain)
  have handler : found read (Statement.raw [.line "app.use(errorHandler);"]).fragments
      = (read (useLine ["errorHandler"])).toList := by
    rw [Statement.fragments, found_line]
    exact scan_plain (.of_literal rfl rfl)
  have exported : found read (Export.fragments { default := some "app" }) = [] := by
    have lines : Export.fragments { default := some "app" }
        = [Fragment.line ("export " ++ "default app;")] := rfl
    rw [lines, found_line]
    exact scan_eq_nil (by simp [Lacks]) (skipsExports _)
  rw [app, scan_sourceFile skips.nothing]
  simp only [sourceFile, List.flatMap_append, documentation, mountLines, List.flatMap_cons,
    List.flatMap_nil, found_app skipsConstants, found_middleware, handler, exported,
    List.append_nil, List.nil_append, List.append_assoc]

section Routers

variable {mounts : List Mount}
variable (areRouters : ∀ mount ∈ mounts, ∃ collection, mount = .ofCollection collection)
variable (config : Config)

include areRouters

theorem isSolid_mountUse :
    ∀ mount ∈ mounts, ∀ argument ∈ mountUse mount, Text.IsSolid argument := by
  intro mount isMount
  rcases areRouters mount isMount with ⟨collection, rfl⟩
  have camel : Text.IsSolid collection.camel := Naming.isSolid_camel _
  have path : Text.IsSolid collection.routePath :=
    Text.IsSolid.append (.of_all (by decide)) (camel.append (.of_all (by decide)))
  have quote : Text.IsSolid "\"" := .of_all (by decide)
  rw [mountUse, List.forall_mem_cons, List.forall_mem_singleton]
  exact ⟨(quote.append path).append quote, camel.append (.of_all (by decide))⟩

theorem lacks_line : ∀ mount ∈ mounts, Lacks '\n' mount.line := by
  intro mount isMount
  rw [line_eq_useLine]
  exact lacks_useLine (by decide) fun argument isArgument =>
    lacks_of_isSolid (isSolid_mountUse areRouters mount isMount argument isArgument) (by decide)

theorem isSolid_imports : ∀ statement ∈ imports config mounts, IsSolidImport statement := by
  have package {name source : String} (solidName : Text.IsSolid name) (notBrace : name ≠ "\x7b")
      (solid : Text.IsSolid source) : IsSolidImport (defaultImport name source) :=
    .default solidName notBrace solid
  have documentation : ∀ statement ∈
      (if config.has .swagger then
        [defaultImport "swaggerJsdoc" "swagger-jsdoc",
         defaultImport "swaggerUi" "swagger-ui-express"]
      else []), IsSolidImport statement := by
    split
    · simp only [List.forall_mem_cons]
      refine ⟨?_, ?_, List.forall_mem_nil _⟩
      all_goals exact package (.of_all (by decide)) (by decide) (.of_all (by decide))
    · exact List.forall_mem_nil _
  have routers : ∀ statement ∈ mounts.map Mount.importStatement, IsSolidImport statement := by
    refine List.forall_mem_map.mpr fun mount isMount => ?_
    rcases areRouters mount isMount with ⟨collection, rfl⟩
    exact isSolid_importStatement collection
  simp only [imports, List.forall_mem_append, List.forall_mem_cons]
  refine ⟨⟨⟨⟨?_, ?_, ?_, ?_, List.forall_mem_nil _⟩, documentation⟩, ?handler,
    List.forall_mem_nil _⟩, routers⟩
  case handler =>
    exact .named (List.cons_ne_nil _ _) (List.forall_mem_singleton.mpr (.of_all (by decide)))
      (.of_all (by decide))
  all_goals exact package (.of_all (by decide)) (by decide) (.of_all (by decide))

/-- The application uses its middleware, its documentation, the router of each mount and
at last the handler of errors. -/
theorem scan_used? :
    scan used? (app config mounts).content
      = middlewareUses
        ++ (documented used? config ++ (mounts.map mountUse ++ [["errorHandler"]])) := by
  have read {arguments : List String} (some : arguments ≠ [])
      (whole : ∀ argument ∈ arguments, Lacks ' ' argument) :
      (used? (useLine arguments)).toList = [arguments] := by
    rw [used?_useLine some whole]
    rfl
  have middlewareUsed :
      (middlewareUses.flatMap fun arguments => (used? (useLine arguments)).toList)
        = middlewareUses := by
    simp [middlewareUses, used?_useLine, Lacks]
  have mountsUsed : (mounts.flatMap fun mount => (used? (useLine (mountUse mount))).toList)
      = mounts.map mountUse := by
    rw [List.map_eq_flatMap]
    exact List.flatMap_congr fun mount isMount =>
      read (List.cons_ne_nil _ _) fun argument isArgument =>
        lacks_of_isSolid (isSolid_mountUse areRouters mount isMount argument isArgument) (by decide)
  rw [scan_app skipsBlocks_used? (fun _ => used?_eq_none (by simp))
      (fun _ => used?_eq_none (by simp)) (lacks_line areRouters),
    found_imports_eq_nil (fun _ => used?_eq_none (by simp)) (isSolid_imports areRouters config),
    List.nil_append, middlewareUsed, mountsUsed, read (List.cons_ne_nil _ _) (by simp [Lacks])]

/-- All imports of the application are at its top. -/
theorem scan_readImport? :
    scan readImport? (app config mounts).content
      = imports config mounts ++ documented readImport? config := by
  have noneRead {β : Type} (items : List β) (argumentsOf : β → List String) :
      (items.flatMap fun item => (readImport? (useLine (argumentsOf item))).toList) = [] := by
    rw [List.flatMap_eq_nil_iff]
    intro item _
    rw [readImport?_eq_none (by simp [useLine])]
    rfl
  rw [scan_app skipsBlocks_readImport? (fun _ => readImport?_eq_none (by simp))
      (fun _ => readImport?_eq_none (by simp)) (lacks_line areRouters),
    found_imports (isSolid_imports areRouters config), noneRead _ fun arguments => arguments,
    noneRead mounts, readImport?_eq_none (by simp [useLine])]
  simp

end Routers

end Project.App

end SchemaScaffold
