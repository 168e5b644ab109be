import SchemaScaffold.Proofs.Controller.Answers
import SchemaScaffold.Proofs.Controller.Sites
import SchemaScaffold.Proofs.Schema.ReferenceLists

/-! The typed controller of a collection is the untyped one with types added. They are
added handler by handler and section by section, at the same places in both, so a
reader who passes over these places reads the same program. -/

namespace SchemaScaffold.Controller

open Code

/-! ## Handlers -/

section Success

variable (collection : Collection) (operation : Operation)

theorem hasNoSite_respond (response : Response) :
    HasNoSite 2 (Step.fragments (.respond response)) :=
  .line (.atSecond (by simp [Response.text]))

theorem hasNoSite_leave (response : Response) : HasNoSite 3 (Step.fragments (.leave response)) :=
  .line (.atThird (by simp) (by simp))

theorem hasNoSite_provided (test : Test) (response : Response) :
    HasNoSite 2 (Step.fragments (.provided test [.leave response])) := by
  rw [Step.fragments, fragmentsOf_singleton]
  exact .braced (.atSecond (by simp)) (hasNoSite_leave response) (.atSecond (by simp))

theorem hasNoSite_call : HasNoSite 2 [call collection operation] := by
  have starts (text : String) : Apart 2 (callText collection operation text) :=
    .atSecond (by simp [callText])
  cases operation with
  | update =>
      have arguments : HasNoSite 3 [.line "new: true,", .line "runValidators: true,"] :=
        .cons (.line (.atThird (by decide) (by decide))) (.line (.atThird (by decide) (by decide)))
      rw [call]
      exact .braced (.atSecond (by simp [callText])) arguments (.atSecond (by simp))
  | _ => exact .line (starts _)

theorem hasNoSite_success : HasNoSite 2 (fragmentsOf (success collection operation)) := by
  have payload : HasNoSite 2 (fragmentsOf (if operation.takesBody then [payload] else [])) := by
    split
    · rw [fragmentsOf_singleton]
      exact .line (.atSecond (by simp))
    · exact .nil
  have missing : HasNoSite 2
      (fragmentsOf (if operation.takesId then [missing collection operation] else [])) := by
    split
    · rw [fragmentsOf_singleton]
      exact hasNoSite_provided _ _
    · exact .nil
  have call : HasNoSite 2 (fragmentsOf [.call (call collection operation)]) :=
    hasNoSite_call collection operation
  rw [success, fragmentsOf_append, fragmentsOf_append, fragmentsOf_append]
  refine ((payload.append call).append missing).append ?_
  rw [fragmentsOf_singleton]
  exact hasNoSite_respond _

end Success

/-! ### Sites -/

/-- The first line of a handler with these parameters. -/
def headerLine (name parameters : String) : String :=
  "export const " ++ (name ++ (" = async (" ++ parameters))

/-- A type is found behind its parameter, whatever the name of the handler. -/
theorem without_parameter {name front stated behind : String} (whole : Lacks ' ' name)
    (isType : ": R".toList <+: stated.toList) (noType : Lacks ':' front) :
    without (headerLine name (front ++ (stated ++ behind))) stated
      = headerLine name (front ++ behind) := by
  rcases isType with ⟨others, chars⟩
  have spelled : stated.toList = ':' :: ' ' :: 'R' :: others := chars.symm
  have apart {start text : String} (noColon : Lacks ':' start) :
      Text.StartsBehind stated.toList start.toList text.toList := by
    rw [spelled]
    exact .of_not_mem noColon
  have named : Text.StartsBehind stated.toList name.toList
      (" = async (" ++ (front ++ (stated ++ behind))).toList := by
    rw [spelled]
    exact .of_second whole (by simp)
  rw [headerLine, without_append (apart (by decide)), without_append named,
    without_append (apart (by decide)), without_append (apart noType), without_self]
  rfl

theorem erases_header (collection : Collection) (operation : Operation) :
    Erases [(handler collection true operation).signature ++ "\x7b"]
      [(handler collection false operation).signature ++ "\x7b"] [.header] := by
  let name := operation.handlerName collection
  have whole : Lacks ' ' name :=
    lacks_of_isSolid (isSolid_handlerName operation collection) (by decide)
  have typed : (handler collection true operation).signature ++ "\x7b"
      = headerLine name ("req" ++ (": Request" ++ ", res: Response) => \x7b")) := by
    simp [name, headerLine, handler, Function.signature, exportWord, typedParameter, Parameter.text,
      annotated, ← String.toList_inj]
  have untyped : (handler collection false operation).signature ++ "\x7b"
      = headerLine name ("req, res" ++ ") => \x7b") := by
    simp [name, headerLine, handler, Function.signature, exportWord, typedParameter, Parameter.text,
      annotated, ← String.toList_inj]
  have isHeader (parameters : String) : site? (headerLine name parameters) = some .header := by
    have start : Site.header.start = "export const " := Site.start_of_level_eq_zero rfl
    rw [headerLine, ← start]
    exact site?_start _
  have request : without (headerLine name ("req" ++ (": Request" ++ ", res: Response) => \x7b")))
      ": Request" = headerLine name ("req" ++ ", res: Response) => \x7b") :=
    without_parameter whole (by decide) (by decide)
  have response : without (headerLine name ("req, res" ++ (": Response" ++ ") => \x7b")))
      ": Response" = headerLine name ("req, res" ++ ") => \x7b") :=
    without_parameter whole (by decide) (by decide)
  have between : "req" ++ ", res: Response) => \x7b"
      = "req, res" ++ (": Response" ++ ") => \x7b") := by decide
  have removed : [": Request", ": Response"].foldl without
      (headerLine name ("req" ++ (": Request" ++ ", res: Response) => \x7b")))
      = headerLine name ("req, res" ++ ") => \x7b") := by
    rw [List.foldl_cons, request, between, List.foldl_cons, response, List.foldl_nil]
  rw [typed, untyped]
  exact .marked (isHeader _) (isHeader _) removed

/-- The sites in what is answered to a failure. -/
def refusalSites : Failure → List Site
  | .validation => [.messages]
  | _ => []

theorem erases_refusal (failure : Failure) :
    Erases (linesAt 2 (refusal true failure).fragments)
      (linesAt 2 (refusal false failure).fragments) (refusalSites failure) := by
  cases failure with
  | cast => exact .unmarked (hasNoSite_provided _ _)
  | duplicate => exact .unmarked (hasNoSite_provided _ _)
  | validation =>
      let test := "if (" ++ (Test.failedBy .validation).text ++ ") "
      let messages (parameter : String) : Fragment :=
        .line ("const messages = Object.values(error.errors).map((" ++ parameter
          ++ ") => err.message);")
      let leave : List Fragment := Step.fragments (.leave ⟨400, .error "messages"⟩)
      have lines (isTyped : Bool) : linesAt 2 (refusal isTyped .validation).fragments
          = [Row.indentation 2 ++ (test ++ "\x7b")]
            ++ (linesAt 3 [messages (annotated "err" (if isTyped then some "any" else none))]
              ++ linesAt 3 leave)
            ++ [Row.indentation 2 ++ ("\x7d" ++ "")] := by
        rw [← linesAt_append, ← linesAt_braced]
        rfl
      have line (text : String) : linesAt 3 [messages ("err" ++ text)]
          = [Site.messages.start ++ (text ++ ") => err.message);")] := by
        simp [messages, linesAt, rowsOf, Fragment.rows, Row.line, Site.start, Site.level,
          Site.opening, ← String.toList_inj]
      have mapped : Erases (linesAt 3 [messages "err: any"]) (linesAt 3 [messages "err"])
          [.messages] := by
        have typed := line ": any"
        have untyped := line ""
        rw [String.append_empty, String.empty_append] at untyped
        exact typed ▸ untyped ▸ .single rfl (by decide) _
      have opened : ∀ line ∈ [Row.indentation 2 ++ (test ++ "\x7b")], site? line = none :=
        List.forall_mem_singleton.mpr (Apart.atSecond (by simp [test])).site?_eq
      have closed : ∀ line ∈ [Row.indentation 2 ++ ("\x7d" ++ "")], site? line = none :=
        List.forall_mem_singleton.mpr (Apart.atSecond (by simp)).site?_eq
      rw [lines, lines]
      exact ((Erases.unmarked opened).append
        (mapped.append (.unmarked (hasNoSite_leave _)))).append (.unmarked closed)

def sitesOf (operation : Operation) : List Site :=
  .header :: .catches :: (failures operation).flatMap refusalSites

theorem erases_refusals (known : List Failure) :
    Erases (linesAt 2 (fragmentsOf (known.map (refusal true))))
      (linesAt 2 (fragmentsOf (known.map (refusal false)))) (known.flatMap refusalSites) := by
  induction known with
  | nil => exact .nil
  | cons failure rest induction =>
      rw [List.map_cons, List.map_cons, fragmentsOf, fragmentsOf, linesAt_append, linesAt_append,
        List.flatMap_cons]
      exact (erases_refusal failure).append induction

/-- What a handler does about a failure. -/
def rescue (isTyped : Bool) (operation : Operation) : List Step :=
  (failures operation).map (refusal isTyped) ++ [Step.respond ⟨500, .error "error.message"⟩]

theorem erases_rescue (operation : Operation) :
    Erases (linesAt 2 (fragmentsOf (rescue true operation)))
      (linesAt 2 (fragmentsOf (rescue false operation)))
      ((failures operation).flatMap refusalSites) := by
  rw [rescue, rescue, fragmentsOf_append, fragmentsOf_append, linesAt_append, linesAt_append,
    fragmentsOf_singleton, ← List.append_nil ((failures operation).flatMap refusalSites)]
  exact (erases_refusals (failures operation)).append (.unmarked (hasNoSite_respond _))

theorem erases_body (collection : Collection) (operation : Operation) :
    Erases (linesAt 1 (handler collection true operation).body)
      (linesAt 1 (handler collection false operation).body)
      (.catches :: (failures operation).flatMap refusalSites) := by
  let handled := linesAt 2 (fragmentsOf (success collection operation))
  have lines (isTyped : Bool) : linesAt 1 (handler collection isTyped operation).body
      = linesAt 1 [.line "try \x7b"] ++ handled
        ++ [Site.catches.start ++ (if isTyped then ": any" ++ ") \x7b" else ") \x7b")]
        ++ linesAt 2 (fragmentsOf (rescue isTyped operation)) ++ linesAt 1 [.line "\x7d"] := by
    simp only [handler, steps, fragmentsOf_singleton, Step.fragments]
    cases isTyped <;>
      simp [linesAt, rowsOf, Fragment.braced, Fragment.rows, Row.line, handled, rescue, annotated,
        Site.start, Site.level, Site.opening, String.append_assoc]
  have opened : HasNoSite 1 [.line "try \x7b"] := .line (.atFirst (by decide) (by decide))
  have closed : HasNoSite 1 [.line "\x7d"] := .line (.atFirst (by decide) (by decide))
  have caught : Erases [Site.catches.start ++ (": any" ++ ") \x7b")]
      [Site.catches.start ++ ") \x7b"] [.catches] := .single rfl (by decide) ") \x7b"
  have whole := ((((Erases.unmarked opened).append
    (.unmarked (hasNoSite_success collection operation))).append caught).append
      (erases_rescue operation)).append (.unmarked closed)
  rw [lines, lines]
  simpa only [if_true, Bool.false_eq_true, if_false, List.nil_append, List.append_nil,
    List.singleton_append] using whole

/-- Only headers and bodies of functions state types. -/
theorem erases_function {typed untyped : Function} {sites sites' : List Site}
    (sameDocs : typed.docs = untyped.docs)
    (headers : Erases [typed.signature ++ "\x7b"] [untyped.signature ++ "\x7b"] sites)
    (bodies : Erases (linesAt 1 typed.body) (linesAt 1 untyped.body) sites') :
    Erases (linesAt 0 typed.fragments) (linesAt 0 untyped.fragments) (sites ++ sites') := by
  have lines (function : Function) : linesAt 0 function.fragments
      = linesAt 0 (Function.docFragments function.docs)
        ++ ([function.signature ++ "\x7b"] ++ linesAt 1 function.body ++ linesAt 0 [.line "\x7d;"]) := by
    have indentation : Row.indentation 0 = "" := rfl
    rw [Function.fragments, linesAt_append, linesAt_braced, indentation, String.empty_append,
      linesAt_line]
    rfl
  have docs : HasNoSite 0 (Function.docFragments untyped.docs) := .docs _
  have closed : HasNoSite 0 [.line "\x7d;"] := .line (.atStart (by simp))
  rw [lines, lines, sameDocs]
  have whole := (Erases.unmarked docs).append ((headers.append bodies).append (.unmarked closed))
  simpa using whole

theorem erases_handler (collection : Collection) (operation : Operation) :
    Erases (linesAt 0 (handler collection true operation).fragments)
      (linesAt 0 (handler collection false operation).fragments) (sitesOf operation) := by
  have sameDocs : (handler collection true operation).docs
      = (handler collection false operation).docs := rfl
  exact erases_function sameDocs (erases_header collection operation)
    (erases_body collection operation)

/-! ## Files -/

theorem fragments_referenceFields (collection : Collection) (isTyped : Bool) :
    (referenceFields collection isTyped).fragments
      = [.line ("const " ++ annotated "referenceFields" (if isTyped then some "string[]" else none)
          ++ " = " ++ Schema.nameArray collection.idFields ++ ";")] := by
  let constant := referenceFields collection isTyped
  have plain : Lacks '\n' constant.value := by
    simp [constant, referenceFields, Schema.nameArray, Lacks]
  have nonempty : constant.value ≠ "" := by simp [constant, referenceFields, Schema.nameArray]
  have head : constant.head constant.value = "const "
      ++ annotated "referenceFields" (if isTyped then some "string[]" else none)
      ++ " = " ++ Schema.nameArray collection.idFields := by
    simp [constant, Constant.head, referenceFields, exportWord]
  rw [← head]
  exact constant.fragments_of_plain plain nonempty

theorem erases_referenceFields (collection : Collection) :
    Erases (linesAt 0 (referenceFields collection true).fragments)
      (linesAt 0 (referenceFields collection false).fragments) [.referenceFields] := by
  let value := " = " ++ Schema.nameArray collection.idFields ++ ";"
  have start : Site.referenceFields.start = "const referenceFields" :=
    Site.start_of_level_eq_zero rfl
  have typed : linesAt 0 (referenceFields collection true).fragments
      = [Site.referenceFields.start ++ (": string[]" ++ value)] := by
    rw [fragments_referenceFields, linesAt_line, start]
    simp [annotated, value, ← String.toList_inj]
  have untyped : linesAt 0 (referenceFields collection false).fragments
      = [Site.referenceFields.start ++ value] := by
    rw [fragments_referenceFields, linesAt_line, start]
    simp [annotated, value, ← String.toList_inj]
  rw [typed, untyped]
  exact .single rfl (by decide) _

theorem hasNoSite_normalizeReferences (isTyped : Bool) :
    HasNoSite 1 (normalizeReferences isTyped).body := by
  have nulls : HasNoSite 3 [.line "payload[field] = null;"] :=
    .line (.atThird (by decide) (by decide))
  have checks :
      HasNoSite 2 [.braced "if (payload[field] === \"\") " [.line "payload[field] = null;"]] :=
    .braced (.atSecond (by decide)) nulls (.atSecond (by decide))
  have copies : HasNoSite 1 [.line "const payload = \x7b ...body \x7d;"] :=
    .line (.atFirst (by decide) (by decide))
  have returns : HasNoSite 1 [.line "return payload;"] := .line (.atFirst (by decide) (by decide))
  rw [normalizeReferences]
  refine copies.cons (.cons ?_ returns)
  exact .braced (.atFirst (by decide) (by decide)) checks (.atFirst (by decide) (by decide))

theorem erases_normalizeReferences :
    Erases (linesAt 0 (normalizeReferences true).fragments)
      (linesAt 0 (normalizeReferences false).fragments) [.normalizeReferences] := by
  have start : Site.normalizeReferences.start = "const normalizeReferences = (body" :=
    Site.start_of_level_eq_zero rfl
  have typed : (normalizeReferences true).signature ++ "\x7b"
      = Site.normalizeReferences.start ++ (": Record<string, any>" ++ ") => \x7b") := by
    rw [start]
    rfl
  have untyped : (normalizeReferences false).signature ++ "\x7b"
      = Site.normalizeReferences.start ++ ") => \x7b" := by
    rw [start]
    rfl
  have header : Erases [(normalizeReferences true).signature ++ "\x7b"]
      [(normalizeReferences false).signature ++ "\x7b"] [.normalizeReferences] := by
    rw [typed, untyped]
    exact .single rfl (by decide) _
  have sameDocs : (normalizeReferences true).docs = (normalizeReferences false).docs := rfl
  exact erases_function sameDocs header (.unmarked (hasNoSite_normalizeReferences false))

theorem erases_sections {sections : List ((Bool → List Fragment) × List Site)}
    (each : ∀ item ∈ sections, Erases (linesAt 0 (item.1 true)) (linesAt 0 (item.1 false)) item.2) :
    Erases (linesAt 0 ([Fragment.blank].intercalate (sections.map fun item => item.1 true)))
      (linesAt 0 ([Fragment.blank].intercalate (sections.map fun item => item.1 false)))
      (sections.flatMap Prod.snd) := by
  induction sections with
  | nil => exact .nil
  | cons first rest induction =>
      rw [List.forall_mem_cons] at each
      cases rest with
      | nil => simpa using each.1
      | cons second others =>
          have blank : HasNoSite 0 [.blank] := List.forall_mem_singleton.mpr site?_empty
          have whole := (each.1.append (.unmarked blank)).append (induction each.2)
          simp only [List.map_cons, List.intercalate_cons_cons, linesAt_append, List.flatMap_cons]
            at whole ⊢
          simpa using whole

/-- The line of a typed controller that brings in its types. -/
def typeImport : String := "import \x7b Request, Response \x7d from \"express\";"

def modelImport (collection : Collection) : Import :=
  { source := "../models/" ++ Model.moduleName collection, named := [collection.pascal] }

/-- The sections of a controller behind its own import. -/
def sections (collection : Collection) : List ((Bool → List Fragment) × List Site) :=
  [(fun _ => (modelImport collection).fragments, []),
   (fun isTyped => (referenceFields collection isTyped).fragments, [.referenceFields]),
   (fun isTyped => (normalizeReferences isTyped).fragments, [.normalizeReferences])]
  ++ Operation.all.map fun operation =>
      (fun isTyped => (handler collection isTyped operation).fragments, sitesOf operation)

theorem fragments_sourceFile (collection : Collection) (isTyped : Bool) :
    (sourceFile collection isTyped).fragments
      = (if isTyped then [.line typeImport] else [])
        ++ [Fragment.blank].intercalate ((sections collection).map fun item => item.1 isTyped) := by
  cases isTyped <;> rfl

theorem arePlain_sections (collection : Collection) (isTyped : Bool) :
    ∀ item ∈ sections collection, ArePlain (item.1 isTyped) := by
  have solid : IsSolidImport (modelImport collection) :=
    isSolid_imports collection false _ List.mem_cons_self
  have names : Lacks '\n' (Schema.nameArray collection.idFields) := by
    simp [Schema.nameArray, Lacks]
  have typeOfNames :
      Lacks '\n' (annotated "referenceFields" (if isTyped then some "string[]" else none)) :=
    lacks_annotated _ _ isTyped (by decide) (by decide)
  simp only [sections, List.forall_mem_append, List.forall_mem_cons, List.forall_mem_map]
  refine ⟨⟨⟨isPlain_line solid.lacks_declaration, trivial⟩, ?_, ?_, List.forall_mem_nil _⟩, ?_⟩
  · rw [fragments_referenceFields]
    exact ⟨isPlain_line (by simp [Lacks, typeOfNames, names]), trivial⟩
  · exact arePlain_function (by simp [normalizeReferences, Lacks])
      (lacks_normalizeReferences isTyped) (arePlain_normalizeReferences isTyped)
  · intro operation _
    exact arePlain_function (lacks_docs collection isTyped operation)
      (lacks_handlerSignature collection isTyped operation)
      (arePlain_handler collection isTyped operation)

theorem erases_each (collection : Collection) : ∀ item ∈ sections collection,
    Erases (linesAt 0 (item.1 true)) (linesAt 0 (item.1 false)) item.2 := by
  have solid : IsSolidImport (modelImport collection) :=
    isSolid_imports collection false _ List.mem_cons_self
  have imported : HasNoSite 0 (modelImport collection).fragments := by
    rcases solid.exists_declaration_eq with ⟨rest, declared⟩
    have line : (modelImport collection).fragments = [.line ("import " ++ rest)] := by
      rw [← declared]
      rfl
    rw [line]
    exact .line (.atStart (by simp))
  simp only [sections, List.forall_mem_append, List.forall_mem_cons, List.forall_mem_map]
  exact ⟨⟨.unmarked imported, erases_referenceFields collection, erases_normalizeReferences,
    List.forall_mem_nil _⟩, fun operation _ => erases_handler collection operation⟩

/-! ## One program in two languages -/

/-- The sites of every controller, from its first line to its last. -/
def controllerSites : List Site :=
  [.referenceFields, .normalizeReferences, .header, .catches, .header, .catches,
   .header, .catches, .messages, .header, .catches, .messages, .header, .catches]

theorem linesOf_artifact (collection : Collection) (language : Language) :
    linesOf (artifact collection language).content
      = linesAt 0 (sourceFile collection language.isTyped).fragments ++ [""] := by
  have plain : ArePlain (sourceFile collection language.isTyped).fragments := by
    have opening : ArePlain (if language.isTyped then [.line typeImport] else []) := by
      split
      · exact ⟨isPlain_line (by decide), trivial⟩
      · trivial
    rw [fragments_sourceFile, arePlain_append]
    refine ⟨opening, arePlain_intercalate (List.forall_mem_map.mpr ?_)⟩
    exact arePlain_sections collection language.isTyped
  exact linesOf_render plain

theorem erases_artifact (collection : Collection) :
    ∃ lines, linesOf (artifact collection .typeScript).content = typeImport :: lines ∧
      Erases lines (linesOf (artifact collection .javaScript).content) controllerSites := by
  let sectionLines (isTyped : Bool) : List String :=
    linesAt 0 ([Fragment.blank].intercalate ((sections collection).map fun item => item.1 isTyped))
  have last : ∀ line ∈ [""], site? line = none := List.forall_mem_singleton.mpr site?_empty
  have typed : linesOf (artifact collection .typeScript).content
      = typeImport :: (sectionLines true ++ [""]) := by
    rw [linesOf_artifact, fragments_sourceFile, linesAt_append]
    simp only [Language.isTyped, if_true, linesAt_line, sectionLines]
    rfl
  have untyped :
      linesOf (artifact collection .javaScript).content = sectionLines false ++ [""] := by
    rw [linesOf_artifact, fragments_sourceFile]
    rfl
  have sites : (sections collection).flatMap Prod.snd = controllerSites := by rfl
  refine ⟨_, typed, ?_⟩
  rw [untyped, ← sites, ← List.append_nil ((sections collection).flatMap Prod.snd)]
  exact (erases_sections (erases_each collection)).append (.unmarked last)

/-! ### What stands on the other lines -/

theorem exists_of_site? {line : String} {site : Site} (isSite : site? line = some site) :
    ∃ rest, line = site.start ++ rest := by
  have starts := List.find?_some isSite
  rw [after?] at starts
  split at starts
  · next isPrefix =>
      rcases List.isPrefixOf_iff_prefix.mp isPrefix with ⟨rest, equal⟩
      exact ⟨String.ofList rest, by rw [← String.toList_inj, ← equal]; simp⟩
  · cases starts

/-- Who reads nothing at sites reads the same in both languages. -/
theorem Erases.filterMap_eq {α : Type} {read : String → Option α} {typed untyped : List String}
    {sites : List Site} (erases : Erases typed untyped sites)
    (skips : ∀ (site : Site) rest, read (site.start ++ rest) = none) :
    typed.filterMap read = untyped.filterMap read := by
  have skipped {line : String} {site : Site} (isSite : site? line = some site) :
      read line = none := by
    rcases exists_of_site? isSite with ⟨rest, rfl⟩
    exact skips site rest
  rcases erases with ⟨rfl, sameSites, -⟩
  rw [List.filterMap_map]
  refine List.filterMap_congr fun line isLine => ?_
  rw [List.map_map] at sameSites
  have same : site? line = site? (Controller.erased line) :=
    List.map_inj_left.mp sameSites line isLine
  rw [Function.comp_apply]
  cases isSite : site? line with
  | none => rw [Controller.erased, isSite]
  | some site => rw [skipped isSite, skipped (same.symm.trans isSite)]

/-- The call of a model that a line waits for, with the name of its result. -/
def awaited? (line : String) : Option String :=
  (after? "    const " line).bind fun rest =>
    if "await" ∈ wordsOf rest then some rest else none

/-- The answer that is sent on a line: its status and what it says. -/
def answer? (line : String) : Option String :=
  let content := String.ofList (line.toList.dropWhile (· == ' '))
  (after? "return res.status(" content).or (after? "res.status(" content)

example : awaited? "    const user = await User.create(payload);"
    = some "user = await User.create(payload);" := by decide +kernel

example : answer? "      return res.status(404).json(\x7b success: false \x7d);"
    = some "404).json(\x7b success: false \x7d);" := by decide +kernel

theorem awaited?_site (site : Site) (rest : String) : awaited? (site.start ++ rest) = none := by
  rw [awaited?, after?_eq_none]
  · rfl
  · cases site <;> simp [Site.start, Site.level, Site.opening, toList_indentation]

theorem answer?_site (site : Site) (rest : String) : answer? (site.start ++ rest) = none := by
  simp only [answer?]
  rw [after?_eq_none, after?_eq_none]
  · rfl
  · cases site <;> simp [Site.start, Site.level, Site.opening, toList_indentation]
  · cases site <;> simp [Site.start, Site.level, Site.opening, toList_indentation]

/-- A typed controller and an untyped one that differ in nothing but stated types. -/
structure SameProgram (typed untyped : String) : Prop where
  opening : (linesOf typed).head? = some typeImport
  length : (linesOf typed).tail.length = (linesOf untyped).length
  /-- Line by line, the types are removed where they are stated. -/
  erased : (linesOf typed).tail.map erased = linesOf untyped
  sites : (linesOf typed).tail.filterMap site? = controllerSites
  sameSites : (linesOf typed).tail.map site? = (linesOf untyped).map site?
  references : scan referenceList? typed = scan referenceList? untyped
  calls : scan awaited? typed = scan awaited? untyped
  answers : scan answer? typed = scan answer? untyped
  flow : readHandlers typed = readHandlers untyped

theorem typed_sameProgram (collection : Collection) :
    SameProgram (artifact collection .typeScript).content
      (artifact collection .javaScript).content := by
  rcases erases_artifact collection with ⟨lines, typed, erases⟩
  have scanned {α : Type} {read : String → Option α} (skips : ∀ (site : Site) rest,
      read (site.start ++ rest) = none) (skipsImport : read typeImport = none) :
      scan read (artifact collection .typeScript).content
        = scan read (artifact collection .javaScript).content := by
    rw [scan, scan, typed, List.filterMap_cons_none skipsImport, erases.filterMap_eq skips]
  refine { opening := ?_, length := ?_, erased := ?_, sites := ?_, sameSites := ?_,
           references := ?_, calls := ?_, answers := ?_, flow := ?_ }
  · rw [typed, List.head?_cons]
  · rw [typed, List.tail_cons, ← erases.erased, List.length_map]
  · rw [typed, List.tail_cons, erases.erased]
  · rw [typed, List.tail_cons, erases.sites]
  · rw [typed, List.tail_cons, erases.sameSites]
  · rw [scan_referenceList?, scan_referenceList?]
  · exact scanned awaited?_site (by decide +kernel)
  · exact scanned answer?_site (by decide +kernel)
  · rw [readHandlers_artifact, readHandlers_artifact]

end SchemaScaffold.Controller
