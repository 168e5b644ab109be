import SchemaScaffold.Proofs.Controller.Reading
import SchemaScaffold.Proofs.Project.ReadMounts

/-! What the comments of a route say about its requests: the paths, the verbs on
each of them and the status codes of the answers, told apart by their indentation. -/

namespace SchemaScaffold.Route

open Code Controller

/-! ## Reading -/

inductive DocumentLine where
  /-- The mark of comments that are documentation. -/
  | mark
  | path (path : String)
  | verb (name : String)
  | status (code : Nat)
deriving DecidableEq

/-- The key behind a start, unless it is indented further. -/
def keyAt? (start line : String) : Option String :=
  (after? start line).bind fun rest =>
    if rest.toList.head? = some ' ' then none else before? ":" rest

def documentLine? (line : String) : Option DocumentLine :=
  ((after? " * @" line).bind fun tag => if tag = "openapi" then some .mark else none).or <|
    (((after? " * /" line).bind (before? ":")).map fun path => .path ("/" ++ path)).or <|
      ((keyAt? " *   " line).map .verb).or <|
        ((keyAt? " *       " line).bind number?).map .status

structure DocumentedOperation where
  path : String
  verb : String
  codes : List Nat
deriving DecidableEq

def leadingCodes : List DocumentLine → List Nat
  | .status code :: rest => code :: leadingCodes rest
  | _ => []

/-- The operations below the paths. There is no path before the first mark. -/
def operationsOf : Option String → List DocumentLine → List DocumentedOperation
  | _, [] => []
  | _, .mark :: rest => operationsOf (some "") rest
  | above, .path path :: rest => operationsOf (above.map fun _ => path) rest
  | some path, .verb verb :: rest => ⟨path, verb, leadingCodes rest⟩ :: operationsOf (some path) rest
  | above, _ :: rest => operationsOf above rest

def documentedOperations (content : String) : List DocumentedOperation :=
  operationsOf none (scan documentLine? content)

/-! ## Lines that are passed over -/

theorem keyAt?_eq_none {start line : String} (notStart : ¬ start.toList <+: line.toList) :
    keyAt? start line = none := by
  rw [keyAt?, after?_eq_none notStart, Option.bind_none]

theorem keyAt?_deeper (start rest : String) : keyAt? start (start ++ (" " ++ rest)) = none := by
  rw [keyAt?, after?_append, Option.bind_some, if_pos (by simp)]

theorem documentLine?_eq_none {line : String} (noTag : ¬ " * @".toList <+: line.toList)
    (noPath : ¬ " * /".toList <+: line.toList) (noVerb : keyAt? " *   " line = none)
    (noStatus : keyAt? " *       " line = none) : documentLine? line = none := by
  rw [documentLine?, after?_eq_none noTag, after?_eq_none noPath, noVerb, noStatus]
  rfl

theorem skips_documentLine? {start : String} (apart : ∀ rest, ¬ " *".toList <+: (start ++ rest).toList) :
    Skips documentLine? start := by
  intro rest
  have none {longer : String} (starts : " *".toList <+: longer.toList) :
      ¬ longer.toList <+: (start ++ rest).toList := fun isPrefix => apart rest (starts.trans isPrefix)
  exact documentLine?_eq_none (none (by decide)) (none (by decide))
    (keyAt?_eq_none (none (by decide))) (keyAt?_eq_none (none (by decide)))

/-! ## Remarks -/

/-- What is read in the lines of a comment. -/
def documentLines (remarks : List String) : List DocumentLine :=
  remarks.flatMap fun line => (documentLine? (remarkLine line)).toList

theorem documentLines_append (front behind : List String) :
    documentLines (front ++ behind) = documentLines front ++ documentLines behind :=
  List.flatMap_append

theorem documentLines_cons (line : String) (rest : List String) :
    documentLines (line :: rest) = (documentLine? (remarkLine line)).toList ++ documentLines rest :=
  List.flatMap_cons

theorem remarkLine_of_ne {line : String} (some : line ≠ "") : remarkLine line = " * " ++ line := by
  have notEmpty : line.isEmpty = false := by simpa [Bool.eq_false_iff] using some
  rw [remarkLine, notEmpty]
  rfl

/-- Below the verbs, only the codes are read. -/
theorem documentLine?_below (more : String) {start : String} (some : start ≠ "")
    (split : " * " ++ start = " *   " ++ (" " ++ more)) (rest : String) :
    documentLine? (remarkLine (start ++ rest))
      = ((keyAt? " *       " (" * " ++ start ++ rest)).bind number?).map .status := by
  have parts : " * " ++ (start ++ rest) = " *   " ++ (" " ++ (more ++ rest)) := by
    rw [← String.append_assoc, split, String.append_assoc, String.append_assoc]
  rw [remarkLine_of_ne (by simp [some]), String.append_assoc, documentLine?, parts, keyAt?_deeper,
    after?_eq_none (by simp), after?_eq_none (by simp)]
  rfl

theorem documentLine?_summary (text : String) :
    documentLine? (remarkLine ("    summary: " ++ text)) = none := by
  rw [documentLine?_below " summary: " (by simp) (by simp),
    keyAt?_eq_none (by simp)]
  rfl

theorem documentLine?_tags (text : String) :
    documentLine? (remarkLine ("    tags: [" ++ text)) = none := by
  rw [documentLine?_below " tags: [" (by simp) (by simp),
    keyAt?_eq_none (by simp)]
  rfl

theorem documentLine?_description (text : String) :
    documentLine? (remarkLine ("        description: " ++ text)) = none := by
  have deeper : " * " ++ "        description: " ++ text
      = " *       " ++ (" " ++ (" description: " ++ text)) := by
    have opened : " * " ++ "        description: " = " *       " ++ (" " ++ " description: ") := by
      simp
    rw [opened, String.append_assoc, String.append_assoc]
  rw [documentLine?_below "     description: " (by simp) (by simp), deeper,
    keyAt?_deeper]
  rfl

theorem documentLine?_status (status : Nat) :
    documentLine? (remarkLine ("      " ++ toString status ++ ":")) = some (.status status) := by
  have start : " * " ++ "      " = " *       " := by simp
  have notBlank : (toString status ++ ":").toList.head? ≠ some ' ' := by
    intro blank
    have isChar := List.mem_of_head? blank
    rw [String.toList_append, List.mem_append] at isChar
    rcases isChar with isDigit | isColon
    · exact lacks_toString status isDigit
    · exact absurd isColon (by decide)
  rw [String.append_assoc, documentLine?_below "   " (by simp) (by simp), start,
    keyAt?, after?_append, Option.bind_some, if_neg notBlank, before?_append, Option.bind_some,
    number?_toString]
  rfl

theorem documentLine?_path (rest : String) :
    documentLine? (remarkLine ("/" ++ rest ++ ":")) = some (.path ("/" ++ rest)) := by
  have start : " * " ++ ("/" ++ rest ++ ":") = " * /" ++ (rest ++ ":") := by
    have opened : " * " ++ "/" = " * /" := by simp
    rw [String.append_assoc, ← String.append_assoc, opened]
  rw [remarkLine_of_ne (by simp), start, documentLine?, after?_eq_none (by simp), after?_append,
    Option.bind_some, before?_append]
  rfl

theorem documentLine?_verb (operation : Operation) :
    documentLine? (remarkLine ("  " ++ operation.verb.name ++ ":"))
      = some (.verb operation.verb.name) := by
  cases operation <;> decide +kernel

variable (collection : Collection) (isProtected : Bool) (operation : Operation)

/-- The codes that are documented for an operation. -/
def codes : List Nat := (documentedAnswers isProtected operation).map DocumentedAnswer.status

theorem documentLines_answerLines (answers : List DocumentedAnswer) :
    documentLines (answers.flatMap answerLines) = answers.map fun answer => .status answer.status := by
  induction answers with
  | nil => rfl
  | cons answer rest induction =>
      rw [List.flatMap_cons, documentLines_append, induction, answerLines, documentLines_cons,
        documentLines_cons, documentLine?_status, documentLine?_description]
      rfl

theorem documentLines_operationLines :
    documentLines (operationLines collection isProtected operation)
      = .verb operation.verb.name :: (codes isProtected operation).map .status := by
  have passed (lines : List String) (nothing : documentLines lines = []) (isPresent : Bool) :
      documentLines (if isPresent then lines else []) = [] := by
    cases isPresent
    · rfl
    · exact nothing
  have security := passed securityLines (by decide +kernel) isProtected
  have parameter := passed parameterLines (by decide +kernel) operation.takesId
  have body := passed bodyLines (by decide +kernel) operation.takesBody
  have responses : documentLine? (remarkLine "    responses:") = none := by decide +kernel
  have tags : documentLine? (remarkLine ("    tags: [" ++ collection.pascal ++ "]")) = none := by
    rw [String.append_assoc, documentLine?_tags]
  rw [operationLines]
  simp only [documentLines_append, documentLines_cons, security, parameter, body, responses, tags,
    documentLines_answerLines, documentLine?_verb, documentLine?_summary, codes, List.map_map]
  rfl

/-- What is read in the description of some operations. -/
def describedLines (operations : List Operation) : List DocumentLine :=
  operations.flatMap fun operation =>
    .verb operation.verb.name :: (codes isProtected operation).map .status

theorem documentLines_openApiLines (rest : String) (operations : List Operation) :
    documentLines (openApiLines collection isProtected ("/" ++ rest) operations)
      = .mark :: .path ("/" ++ rest)
        :: describedLines isProtected operations := by
  have mark : documentLine? (remarkLine "@openapi") = some .mark := by decide +kernel
  have below : documentLines (operations.flatMap (operationLines collection isProtected))
      = describedLines isProtected operations := by
    induction operations with
    | nil => rfl
    | cons operation rest induction =>
        rw [List.flatMap_cons, documentLines_append, induction, documentLines_operationLines,
          describedLines, describedLines, List.flatMap_cons]
  rw [openApiLines, documentLines_cons, documentLines_cons, below, mark, documentLine?_path]
  rfl

/-! ## Operations -/

theorem leadingCodes_statuses (codes : List Nat) {rest : List DocumentLine}
    (apart : leadingCodes rest = []) : leadingCodes (codes.map .status ++ rest) = codes := by
  induction codes with
  | nil => exact apart
  | cons code codes induction => exact congrArg (code :: ·) induction

theorem operationsOf_statuses (above : Option String) (codes : List Nat) (rest : List DocumentLine) :
    operationsOf above (codes.map .status ++ rest) = operationsOf above rest := by
  induction codes with
  | nil => rfl
  | cons code codes induction => exact induction

theorem operationsOf_describedLines (path : String) (operations : List Operation)
    {rest : List DocumentLine} (apart : leadingCodes rest = []) :
    operationsOf (some path) (describedLines isProtected operations ++ rest)
      = (operations.map fun operation =>
          ⟨path, operation.verb.name, codes isProtected operation⟩)
        ++ operationsOf (some path) rest := by
  induction operations with
  | nil => rfl
  | cons operation others induction =>
      have noCodes : leadingCodes (describedLines isProtected others ++ rest) = [] := by
        cases others with
        | nil => exact apart
        | cons other others => rfl
      rw [describedLines, List.flatMap_cons, List.append_assoc, List.cons_append, operationsOf,
        ← describedLines, leadingCodes_statuses _ noCodes, operationsOf_statuses, induction]
      rfl

/-- Without documentation, a comment states one path. -/
theorem documentLines_route (path : String) : documentLines ["@route " ++ path] = [] := by
  have start : " * " ++ ("@route " ++ path) = " * @" ++ ("route " ++ path) := by
    have opened : " * " ++ "@route " = " * @" ++ "route " := by simp
    rw [← String.append_assoc, opened, String.append_assoc]
  have other : "route " ++ path ≠ "openapi" := by
    intro equal
    have first := congrArg (fun text => text.toList.head?) equal
    simp at first
  have nothing : documentLine? (remarkLine ("@route " ++ path)) = none := by
    rw [remarkLine_of_ne (by simp), start, documentLine?, after?_append, Option.bind_some,
      if_neg other, after?_eq_none (by simp), keyAt?_eq_none (by simp), keyAt?_eq_none (by simp)]
    rfl
  rw [documentLines, List.flatMap_singleton, nothing]
  rfl

variable (config : Config)

theorem documentLines_collectionRemarks :
    documentLines (collectionRemarks collection config)
      = if config.has .swagger then
          .mark :: .path collection.routePath
            :: describedLines (config.has .auth) Operation.onCollection
        else [] := by
  rw [collectionRemarks]
  split
  · rw [routePath_eq, documentLines_openApiLines]
  · rw [documentLines_route]

theorem documentLines_recordRemarks :
    documentLines (recordRemarks collection config)
      = if config.has .swagger then
          .mark :: .path (collection.routePath ++ "/\x7bid\x7d")
            :: describedLines (config.has .auth) Operation.onRecord
        else [] := by
  rw [recordRemarks]
  split
  · rw [routePath_eq, String.append_assoc, documentLines_openApiLines]
  · rw [String.append_assoc, documentLines_route]

theorem scan_documentLine? :
    scan documentLine? (artifact collection config).content
      = documentLines (collectionRemarks collection config)
        ++ documentLines (recordRemarks collection config) := by
  have skips (start : String) (apart : ∀ rest, ¬ " *".toList <+: (start ++ rest).toList) :
      Skips documentLine? start := skips_documentLine? apart
  have opening : documentLine? "/**" = none := skips "/**" (by simp) ""
  have closing : documentLine? " */" = none := by decide +kernel
  have nothing : documentLine? "" = none := by decide +kernel
  have remarks {path : String} (plainPath : Lacks '\n' path) {operations : List Operation}
      (some : operations ≠ []) {lines : List String} (plain : ∀ line ∈ lines, Lacks '\n' line) :
      found documentLine? (chain collection (config.has .auth) path operations lines).fragments
        = documentLines lines :=
    found_chain_remarks collection opening closing (skips _ (by simp)) (skips _ (by simp)) _ plainPath
      some plain
  rw [artifact, scan_chains collection config nothing (skips _ (by simp)) (skips _ (by simp))
      (skips _ (by simp)),
    remarks (by simp [Lacks]) (by decide) (lacks_collectionRemarks collection config),
    remarks (by simp [Lacks]) (by decide) (lacks_recordRemarks collection config)]

/-- The operations on the collection, and those on one of its records. -/
theorem documentedOperations_artifact :
    documentedOperations (artifact collection config).content
      = if config.has .swagger then
          (Operation.onCollection.map fun operation =>
              ⟨collection.routePath, operation.verb.name, codes (config.has .auth) operation⟩)
            ++ Operation.onRecord.map fun operation =>
              ⟨collection.routePath ++ "/\x7bid\x7d", operation.verb.name,
                codes (config.has .auth) operation⟩
        else [] := by
  rw [documentedOperations, scan_documentLine?, documentLines_collectionRemarks,
    documentLines_recordRemarks]
  split
  · have nothing : leadingCodes [] = [] := rfl
    have record := operationsOf_describedLines (config.has .auth)
      (collection.routePath ++ "/\x7bid\x7d") Operation.onRecord nothing
    rw [List.append_nil] at record
    rw [List.cons_append, List.cons_append, operationsOf, operationsOf, Option.map_some,
      operationsOf_describedLines _ _ _ rfl, operationsOf, operationsOf, Option.map_some, record,
      operationsOf, List.append_nil]
  · rfl

end SchemaScaffold.Route
