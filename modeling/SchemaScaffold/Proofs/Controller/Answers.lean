import SchemaScaffold.Proofs.Code.Functions
import SchemaScaffold.Proofs.Controller.Reading
import SchemaScaffold.Proofs.Project.ReadSources
import SchemaScaffold.Proofs.Route.Documentation

/-! What the handlers of a controller answer, and what is documented of it. -/

namespace SchemaScaffold

open Code

namespace Controller

/-! ## The flow of the handlers -/

theorem fragmentsOf_append (front behind : List Step) :
    fragmentsOf (front ++ behind) = fragmentsOf front ++ fragmentsOf behind := by
  induction front with
  | nil => rfl
  | cons step rest induction =>
      rw [List.cons_append, fragmentsOf, fragmentsOf, induction, List.append_assoc]

theorem fragmentsOf_singleton (step : Step) : fragmentsOf [step] = step.fragments := by
  rw [fragmentsOf, fragmentsOf, List.append_nil]

/-- The fields of an error by which a failure is told. -/
def Failure.fields : Failure → List (String × String)
  | cast => [("name", "\"CastError\""), ("kind", "\"ObjectId\"")]
  | validation => [("name", "\"ValidationError\"")]
  | duplicate => [("code", "11000")]

theorem readCondition?_test (failure : Failure) :
    readCondition? failure.test = some (.errorHas failure.fields) := by
  cases failure <;> decide +kernel

theorem reads_respond (response : Response) :
    Reads (Step.respond response).fragments [.reply response.reply] :=
  .line (by simp [Response.text]) (readLine?_respond response)

theorem reads_leave (response : Response) :
    Reads (Step.leave response).fragments [.leave response.reply] :=
  .line (by simp) (readLine?_leave response)

theorem reads_provided {test : Test} {condition : Condition}
    (read : readCondition? test.text = some condition) {body : List Step} {flows : List Flow}
    (reads : Reads (fragmentsOf body) flows) :
    Reads (Step.provided test body).fragments [.provided condition flows] :=
  .provided (by simp) (readLine?_condition read) reads

variable (collection : Collection) (isTyped : Bool) (operation : Operation)

def payloadFlow : List Flow := if operation.takesBody then [.constant "payload"] else []

def missingFlow : List Flow :=
  if operation.takesId then
    [.provided (.missing (recordName collection operation)) [.leave ⟨404, false⟩]]
  else []

def successFlow : List Flow :=
  payloadFlow operation ++ [.call (recordName collection operation)]
    ++ missingFlow collection operation ++ [.reply ⟨successStatus operation, true⟩]

def refusalBody : Failure → List Flow
  | .validation => [.constant "messages", .leave ⟨400, false⟩]
  | _ => [.leave ⟨400, false⟩]

def refusalFlow (failure : Failure) : Flow :=
  .provided (.errorHas failure.fields) (refusalBody failure)

def flowOf : List Flow :=
  [.attempt (successFlow collection operation)
    ((failures operation).map refusalFlow ++ [.reply ⟨500, false⟩])]

theorem isSolid_recordName : Text.IsSolid (recordName collection operation) := by
  have camel : Text.IsSolid collection.camel := Naming.isSolid_camel _
  cases operation with
  | listAll => exact camel.append (.of_all (by decide))
  | _ => exact camel

theorem callText_eq (text : String) :
    callText collection operation text
      = "const " ++ recordName collection operation ++ " = "
        ++ ("await " ++ (collection.pascal ++ "." ++ text)) := by
  have equals : " = await " = " = " ++ "await " := by simp
  simp only [callText, equals, String.append_assoc]

/-- A call on the model, with all its arguments on one line. -/
theorem readLine?_call {text start : String} (ended : text = start ++ ";") :
    readLine? (callText collection operation text)
      = some (.whole (.call (recordName collection operation))) := by
  have whole : Lacks ' ' (recordName collection operation) :=
    lacks_of_isSolid (isSolid_recordName collection operation) (by decide)
  have awaited : "await " ++ (collection.pascal ++ "." ++ text)
      = "await " ++ (collection.pascal ++ "." ++ start) ++ ";" := by
    simp only [ended, String.append_assoc]
  have head : (wordsOf ("await " ++ (collection.pascal ++ "." ++ start) ++ ";")).head?
      = some "await" := by
    rw [String.append_assoc, wordsOf_cons "await" (by simp) (by simp [Lacks])]
    rfl
  rw [callText_eq, readLine?_constant whole, awaited, readConstant?_ended, if_pos head]

theorem readLine?_spreadCall :
    readLine? (callText collection operation "findByIdAndUpdate(req.params.id, payload, " ++ "\x7b")
      = some (.starts (.call (recordName collection operation))) := by
  have whole : Lacks ' ' (recordName collection operation) :=
    lacks_of_isSolid (isSolid_recordName collection operation) (by decide)
  have parts : callText collection operation "findByIdAndUpdate(req.params.id, payload, " ++ "\x7b"
      = "const " ++ recordName collection operation ++ " = "
        ++ ("await " ++ (collection.pascal ++ ".findByIdAndUpdate(req.params.id, payload," ++ " "
          ++ "\x7b")) := by
    have arguments : "." ++ "findByIdAndUpdate(req.params.id, payload, "
        = ".findByIdAndUpdate(req.params.id, payload," ++ " " := by simp
    simp only [callText_eq, ← arguments, String.append_assoc]
  have words (front : String) :
      wordsOf ("await " ++ (front ++ " " ++ "\x7b")) = "await" :: (wordsOf front ++ ["\x7b"]) := by
    rw [wordsOf_cons "await" (by simp) (by simp [Lacks]), wordsOf_append,
      wordsOf_opening]
  rw [parts, readLine?_constant whole, words, readConstant?, ← List.cons_append,
    List.getLast?_concat, Option.bind_some, if_pos rfl]
  rfl

theorem reads_call :
    Reads [call collection operation] [.call (recordName collection operation)] := by
  have starts (text : String) : (callText collection operation text).toList.head? ≠ some ' ' := by
    simp [callText]
  have single (start : String) {text : String} (ended : text = start ++ ";") :
      Reads [.line (callText collection operation text)]
        [.call (recordName collection operation)] :=
    .line (starts text) (readLine?_call collection operation ended)
  cases operation with
  | listAll => exact single "find()" (by simp)
  | getOne => exact single "findById(req.params.id)" (by simp)
  | create => exact single "create(payload)" (by simp)
  | delete => exact single "findByIdAndDelete(req.params.id)" (by simp)
  | update =>
      have areArguments : ∀ argument ∈ ["new: true,", "runValidators: true,"],
          argument.toList.head? ≠ some ' ' ∧ readLine? argument = some .argument := by
        rw [List.forall_mem_cons, List.forall_mem_singleton]
        refine ⟨⟨by decide, ?_⟩, by decide, ?_⟩
        · exact readLine?_of_words (by decide +kernel : _ = ["new:", "true,"]) (by decide +kernel)
            (by simp)
        · exact readLine?_of_words (by decide +kernel : _ = ["runValidators:", "true,"])
            (by decide +kernel) (by simp)
      exact .spread (by simp [callText]) (readLine?_spreadCall collection .update) areArguments

theorem reads_constant (value : String) {line name : String}
    (parts : line = "const " ++ name ++ " = " ++ (value ++ ";")) (whole : Lacks ' ' name)
    (notAwaited : (wordsOf (value ++ ";")).head? ≠ some "await") :
    Reads (Step.silent (.line line)).fragments [.constant name] := by
  refine .line ?_ ?_
  · simp [parts]
  · rw [parts, readLine?_constant whole, readConstant?_ended, if_neg notAwaited]

theorem reads_payload : Reads (fragmentsOf (if operation.takesBody then [payload] else []))
    (payloadFlow operation) := by
  rw [payloadFlow]
  split
  · rw [fragmentsOf_singleton]
    exact reads_constant "normalizeReferences(req.body)" (by simp)
      (by simp [Lacks]) (by decide +kernel)
  · exact .nil

theorem reads_missing :
    Reads (fragmentsOf (if operation.takesId then [missing collection operation] else []))
      (missingFlow collection operation) := by
  rw [missingFlow]
  split
  · have read : readCondition? (Test.isMissing (recordName collection operation)).text
        = some (.missing (recordName collection operation)) := by
      rw [Test.text, readCondition?, after?_append]
    have leave := reads_leave ⟨404, .error ("\"" ++ collection.pascal ++ " not found\"")⟩
    rw [fragmentsOf_singleton]
    exact reads_provided read (fragmentsOf_singleton _ ▸ leave)
  · exact .nil

theorem reads_success : Reads (fragmentsOf (success collection operation))
    (successFlow collection operation) := by
  have kind : (answer collection operation).isSuccess = true := by cases operation <;> rfl
  have call : Reads (fragmentsOf [.call (call collection operation)])
      [.call (recordName collection operation)] :=
    reads_call collection operation
  have respond := reads_respond ⟨successStatus operation, answer collection operation⟩
  rw [Response.reply, kind, ← fragmentsOf_singleton] at respond
  rw [success, fragmentsOf_append, fragmentsOf_append, fragmentsOf_append, successFlow]
  exact (((reads_payload operation).append call).append (reads_missing collection operation)).append
    respond

theorem reads_refusal (failure : Failure) :
    Reads (refusal isTyped failure).fragments [refusalFlow failure] := by
  have read : readCondition? (Test.failedBy failure).text = some (.errorHas failure.fields) :=
    readCondition?_test failure
  have leave (expression : String) := reads_leave ⟨400, .error expression⟩
  cases failure with
  | cast => exact reads_provided read (fragmentsOf_singleton _ ▸ leave "\"Invalid ID format\"")
  | duplicate =>
      exact reads_provided read (fragmentsOf_singleton _ ▸ leave "\"Duplicate field value entered\"")
  | validation =>
      have messages : Reads (Step.fragments (.silent (.line
            ("const messages = Object.values(error.errors).map(("
              ++ annotated "err" (if isTyped then some "any" else none) ++ ") => err.message);"))))
          [.constant "messages"] := by
        cases isTyped with
        | true =>
            exact reads_constant "Object.values(error.errors).map((err: any) => err.message)"
              (by simp [annotated]) (by simp [Lacks]) (by decide +kernel)
        | false =>
            exact reads_constant "Object.values(error.errors).map((err) => err.message)"
              (by simp [annotated]) (by simp [Lacks]) (by decide +kernel)
      exact reads_provided read (messages.append (fragmentsOf_singleton _ ▸ leave "messages"))

theorem reads_refusals (known : List Failure) :
    Reads (fragmentsOf (known.map (refusal isTyped))) (known.map refusalFlow) := by
  induction known with
  | nil => exact .nil
  | cons failure rest induction => exact (reads_refusal isTyped failure).append induction

theorem readLine?_catches :
    readLine? ("\x7d catch (" ++ annotated "error" (if isTyped then some "any" else none) ++ ") "
      ++ "\x7b") = some .catches := by
  cases isTyped with
  | true =>
      exact readLine?_of_words (by decide +kernel : _ = ["\x7d", "catch", "(error:", "any)", "\x7b"])
        (by decide +kernel) (by simp)
  | false =>
      exact readLine?_of_words (by decide +kernel : _ = ["\x7d", "catch", "(error)", "\x7b"])
        (by decide +kernel) (by simp)

theorem reads_steps : Reads (fragmentsOf (steps collection isTyped operation))
    (flowOf collection operation) := by
  have rescue : Reads (fragmentsOf ((failures operation).map (refusal isTyped)
        ++ [.respond ⟨500, .error "error.message"⟩]))
      ((failures operation).map refusalFlow ++ [.reply ⟨500, false⟩]) := by
    rw [fragmentsOf_append, fragmentsOf_singleton]
    exact (reads_refusals isTyped (failures operation)).append (reads_respond _)
  rw [steps, fragmentsOf_singleton, Step.fragments]
  exact .attempt (by simp) (readLine?_catches isTyped) (reads_success collection operation) rescue

/-! ## The text of a controller -/

/-- The handlers of a source with their control flow. -/
def readHandlers (content : String) : List (String × Option (List Flow)) :=
  (functionsOf (linesOf content)).map fun (name, lines) => (name, readFlow? lines)

theorem exports_handler :
    Exports (handler collection isTyped operation).fragments
      [(operation.handlerName collection,
        (rowsOf 1 (handler collection isTyped operation).body).map Row.line)] := by
  have whole : Lacks ' ' (handler collection isTyped operation).name :=
    lacks_of_isSolid (isSolid_handlerName operation collection) (by decide)
  exact .function (exportedName?_signature rfl whole) (lacks_docs collection isTyped operation)
    (lacks_handlerSignature collection isTyped operation)
    (arePlain_handler collection isTyped operation)

theorem exports_sourceFile :
    Exports (sourceFile collection isTyped).fragments
      (Operation.all.map fun operation => (operation.handlerName collection,
        (rowsOf 1 (handler collection isTyped operation).body).map Row.line)) := by
  have skips : SkipsBlocks exportedName? := skipsBlocks_exportedName?
  have importSection : Exports ((imports collection isTyped).flatMap Import.fragments) [] := by
    refine .nothing ?_
    rw [found_flatMap]
    exact found_imports_eq_nil (fun _ => exportedName?_eq_none (by simp))
      (isSolid_imports collection isTyped)
  have constant : Exports (referenceFields collection isTyped).fragments [] :=
    .nothing (found_referenceFields collection isTyped (fun _ => exportedName?_eq_none (by simp)))
  have helper : Exports (normalizeReferences isTyped).fragments [] :=
    .nothing (found_normalizeReferences isTyped skips (fun _ => exportedName?_eq_none (by simp)))
  let handlers := Operation.all.map fun operation =>
    ((handler collection isTyped operation).fragments,
      [(operation.handlerName collection,
        (rowsOf 1 (handler collection isTyped operation).body).map Row.line)])
  let items := ((imports collection isTyped).flatMap Import.fragments, [])
    :: ((referenceFields collection isTyped).fragments, [])
    :: ((normalizeReferences isTyped).fragments, []) :: handlers
  have each : ∀ item ∈ items, Exports item.1 item.2 := by
    simp only [items, List.forall_mem_cons]
    refine ⟨importSection, constant, helper, List.forall_mem_map.mpr fun operation _ => ?_⟩
    exact exports_handler collection isTyped operation
  have sections : (sourceFile collection isTyped).sections = items.map Prod.fst := by
    cases isTyped <;> rfl
  rw [SourceFile.fragments, sections]
  exact Exports.sections each

theorem readHandlers_artifact (language : Language) :
    readHandlers (artifact collection language).content
      = Operation.all.map fun operation =>
          (operation.handlerName collection, some (flowOf collection operation)) := by
  have functions : functionsOf (linesOf (sourceFile collection language.isTyped).render)
      = Operation.all.map fun operation => (operation.handlerName collection,
        (rowsOf 1 (handler collection language.isTyped operation).body).map Row.line) := by
    have all := exports_sourceFile collection language.isTyped [""]
    have last : functionsOf [""] = [] := by
      rw [functionsOf, skipsBlocks_exportedName?.nothing]
      rfl
    rw [last, List.append_nil] at all
    rw [SourceFile.render, Code.render, renderAt, linesOf_rows]
    exact all
  rw [readHandlers, artifact, functions, List.map_map]
  refine List.map_congr_left fun operation _ => ?_
  have read := (reads_steps collection language.isTyped operation).readFlow?_eq 1
  exact congrArg (Prod.mk _) read

/-! ## Replies -/

namespace Error

variable (error : Error)

/-- A malformed id. -/
def IsCast : Prop :=
  error.field "name" = some "\"CastError\"" ∧ error.field "kind" = some "\"ObjectId\""

def IsValidation : Prop := error.field "name" = some "\"ValidationError\""

/-- The code for a value that a unique field already has. -/
def IsDuplicate : Prop := error.field "code" = some "11000"

/-- What a failure is about. -/
def Is : Failure → Prop
  | .cast => error.IsCast
  | .validation => error.IsValidation
  | .duplicate => error.IsDuplicate

end Error

/-- The errors that are the fault of the request. -/
def IsRefused : Operation → Error → Prop
  | .listAll, _ => False
  | .getOne, error => error.IsCast
  | .create, error => error.IsValidation ∨ error.IsDuplicate
  | .update, error => error.IsValidation ∨ error.IsDuplicate ∨ error.IsCast
  | .delete, error => error.IsCast

/-- A handler makes one call and replies once, whatever comes of the call. -/
structure RepliesOnce (operation : Operation) (record : String) (flows : List Flow) : Prop where
  called : callsOf flows = [record]
  value : replies record .value flows = [⟨if operation = .create then 201 else 200, true⟩]
  /-- Only a call by an id can come to no record. -/
  nothing : replies record .nothing flows
    = [if operation.takesId then ⟨404, false⟩ else ⟨if operation = .create then 201 else 200, true⟩]
  refused : ∀ error, IsRefused operation error →
    replies record (.error error) flows = [⟨400, false⟩]
  failed : ∀ error, ¬ IsRefused operation error →
    replies record (.error error) flows = [⟨500, false⟩]

theorem isRefused_iff (error : Error) :
    IsRefused operation error ↔ ∃ failure ∈ failures operation, error.Is failure := by
  cases operation <;> simp [IsRefused, failures, Error.Is]

theorem holds_fields (record : String) (error : Error) (failure : Failure) :
    (Condition.errorHas failure.fields).holds record (.error error) = true ↔ error.Is failure := by
  cases failure <;>
    simp [Condition.holds, Failure.fields, Error.Is, Error.IsCast, Error.IsValidation,
      Error.IsDuplicate]

theorem run_refusalFlow (record : String) (error : Error) (failure : Failure) :
    (error.Is failure →
      (refusalFlow failure).run record (.error error) = ([⟨400, false⟩], .returned)) ∧
    (¬ error.Is failure → (refusalFlow failure).run record (.error error) = ([], .next)) := by
  have leaves : runFlows record (.error error) (refusalBody failure)
      = ([⟨400, false⟩], .returned) := by
    cases failure <;> rfl
  rw [← holds_fields record, refusalFlow, Flow.run, leaves]
  exact ⟨fun holds => if_pos holds, fun fails => if_neg fails⟩

/-- The first failure that explains the error decides. -/
theorem runFlows_refusals (record : String) (error : Error) (known : List Failure) :
    ((∃ failure ∈ known, error.Is failure) →
      (runFlows record (.error error) (known.map refusalFlow ++ [.reply ⟨500, false⟩])).1
        = [⟨400, false⟩]) ∧
    ((¬ ∃ failure ∈ known, error.Is failure) →
      (runFlows record (.error error) (known.map refusalFlow ++ [.reply ⟨500, false⟩])).1
        = [⟨500, false⟩]) := by
  induction known with
  | nil => exact ⟨nofun, fun _ => rfl⟩
  | cons failure rest induction =>
      rcases run_refusalFlow record error failure with ⟨leaves, passes⟩
      rw [List.map_cons, List.cons_append, runFlows]
      by_cases explained : error.Is failure
      · rw [leaves explained]
        exact ⟨fun _ => rfl, fun none => absurd ⟨failure, List.mem_cons_self, explained⟩ none⟩
      · rw [passes explained]
        simpa [explained] using induction

theorem runFlows_successFlow (result : Result) :
    runFlows (recordName collection operation) result (successFlow collection operation)
      = match result with
        | .value => ([⟨successStatus operation, true⟩], .next)
        | .nothing =>
            if operation.takesId then ([⟨404, false⟩], .returned)
            else ([⟨successStatus operation, true⟩], .next)
        | .error _ => ([], .thrown) := by
  cases operation <;> cases result <;>
    simp [successFlow, payloadFlow, missingFlow, Operation.takesBody, Operation.takesId, runFlows,
      Flow.run, Condition.holds]

theorem callsOf_flowOf : callsOf (flowOf collection operation) = [recordName collection operation] := by
  cases operation <;> rfl

theorem replies_singleton (record : String) (result : Result) (flow : Flow) :
    replies record result [flow] = (flow.run record result).1 := by
  rw [replies, runFlows]
  rcases flow.run record result with ⟨sent, _ | _ | _⟩
  · exact List.append_nil sent
  · rfl
  · rfl

theorem replies_error (error : Error) :
    replies (recordName collection operation) (.error error) (flowOf collection operation)
      = (runFlows (recordName collection operation) (.error error)
          ((failures operation).map refusalFlow ++ [.reply ⟨500, false⟩])).1 := by
  rw [flowOf, replies_singleton, Flow.run, runFlows_successFlow]
  rfl

theorem repliesOnce_flowOf :
    RepliesOnce operation (recordName collection operation) (flowOf collection operation) := by
  have status : successStatus operation = if operation = .create then 201 else 200 := by
    cases operation <;> rfl
  have rescue (error : Error) :=
    runFlows_refusals (recordName collection operation) error (failures operation)
  constructor
  case called => exact callsOf_flowOf collection operation
  case value =>
    rw [flowOf, replies_singleton, Flow.run, runFlows_successFlow, status]
  case nothing =>
    rw [flowOf, replies_singleton, Flow.run, runFlows_successFlow, status]
    cases operation <;> rfl
  case refused =>
    intro error refused
    rw [replies_error]
    exact (rescue error).1 ((isRefused_iff operation error).mp refused)
  case failed =>
    intro error failed
    rw [replies_error]
    exact (rescue error).2 fun explained => failed ((isRefused_iff operation error).mpr explained)

/-! ## The modelled effect -/

/-- An error that shows no more than what the failure is told by. -/
def Failure.error (failure : Failure) : Error := ⟨fun field => failure.fields.lookup field⟩

theorem is_error_iff (failure other : Failure) : failure.error.Is other ↔ other = failure := by
  cases failure <;> cases other <;>
    simp [Failure.error, Failure.fields, Error.Is, Error.IsCast, Error.IsValidation,
      Error.IsDuplicate, List.lookup_cons]

def Outcome.result : Outcome → Result
  | .value => .value
  | .noRecord => .nothing
  | .failed failure => .error (failure.elim ⟨fun _ => none⟩ Failure.error)

/-- What is read out of the text of a handler replies like the steps it is printed from. -/
theorem map_reply_responses (outcome : Outcome) :
    (responses (steps collection isTyped operation) outcome).map Response.reply
      = replies (recordName collection operation) outcome.result (flowOf collection operation) := by
  have once := repliesOnce_flowOf collection operation
  rcases outcome with _ | _ | _ | failure
  · rw [Outcome.result, once.value]
    cases operation <;> rfl
  · rw [Outcome.result, once.nothing]
    cases operation <;> rfl
  · have failed : ¬ IsRefused operation ⟨fun _ => none⟩ := by
      cases operation <;> simp [IsRefused, Error.IsCast, Error.IsValidation, Error.IsDuplicate]
    rw [Outcome.result, Option.elim_none, once.failed _ failed]
    cases operation <;> rfl
  · have refused : IsRefused operation failure.error ↔ failure ∈ failures operation := by
      simp [isRefused_iff, is_error_iff]
    have sent : (responses (steps collection isTyped operation) (.failed (some failure))).map
        Response.reply = [⟨if failure ∈ failures operation then 400 else 500, false⟩] := by
      cases operation <;> cases failure <;> rfl
    rw [Outcome.result, Option.elim_some, sent]
    by_cases known : failure ∈ failures operation
    · rw [once.refused _ (refused.mpr known), if_pos known]
    · rw [once.failed _ fun isRefused => known (refused.mp isRefused), if_neg known]

/-! ## Documentation -/

namespace RepliesOnce

variable {operation : Operation} {record : String} {flows : List Flow}

/-- The codes that are sent for some result. -/
theorem sent_iff (once : RepliesOnce operation record flows) {status : Nat} :
    (∃ result, ∃ reply ∈ replies record result flows, reply.status = status) ↔
      status = (if operation = .create then 201 else 200) ∨
        (operation.takesId = true ∧ status = 404) ∨ (operation ≠ .listAll ∧ status = 400) ∨
          status = 500 := by
  constructor
  · rintro ⟨_ | _ | error, reply, isReply, rfl⟩
    · rw [once.value, List.mem_singleton] at isReply
      exact .inl (isReply ▸ rfl)
    · rw [once.nothing, List.mem_singleton] at isReply
      cases takesId : operation.takesId with
      | true => exact .inr (.inl ⟨rfl, by rw [isReply, takesId]; rfl⟩)
      | false => exact .inl (by rw [isReply, takesId]; rfl)
    · by_cases refused : IsRefused operation error
      · rw [once.refused error refused, List.mem_singleton] at isReply
        refine .inr (.inr (.inl ⟨?_, isReply ▸ rfl⟩))
        rintro rfl
        exact refused
      · rw [once.failed error refused, List.mem_singleton] at isReply
        exact .inr (.inr (.inr (isReply ▸ rfl)))
  · rintro (rfl | ⟨takesId, rfl⟩ | ⟨notList, rfl⟩ | rfl)
    · exact ⟨.value, _, once.value ▸ List.mem_singleton_self _, rfl⟩
    · refine ⟨.nothing, ⟨404, false⟩, ?_, rfl⟩
      rw [once.nothing, takesId]
      exact List.mem_singleton_self _
    · let error : Error := ⟨fun field =>
        some (if field = "name" then "\"CastError\"" else
          if field = "kind" then "\"ObjectId\"" else "11000")⟩
      have refused : IsRefused operation error := by
        cases operation <;> simp_all [IsRefused, Error.IsCast, Error.IsDuplicate, error]
      exact ⟨.error error, _, once.refused error refused ▸ List.mem_singleton_self _, rfl⟩
    · let error : Error := ⟨fun _ => none⟩
      have failed : ¬ IsRefused operation error := by
        cases operation <;>
          simp [IsRefused, Error.IsCast, Error.IsValidation, Error.IsDuplicate, error]
      exact ⟨.error error, _, once.failed error failed ▸ List.mem_singleton_self _, rfl⟩

end RepliesOnce

/-- The handlers of a collection and the documentation of its route. -/
structure AreDocumented (collection : Collection) (config : Config) (flows : Operation → List Flow)
    (codes : Operation → List Nat) : Prop where
  read : readHandlers (artifact collection config.language).content
    = Operation.all.map fun operation => (operation.handlerName collection, some (flows operation))
  replies : ∀ operation, RepliesOnce operation (recordName collection operation) (flows operation)
  documented : Route.documentedOperations (Route.artifact collection config).content
    = if config.has .swagger then
        [⟨collection.routePath, "get", codes .listAll⟩,
         ⟨collection.routePath, "post", codes .create⟩,
         ⟨collection.routePath ++ "/\x7bid\x7d", "get", codes .getOne⟩,
         ⟨collection.routePath ++ "/\x7bid\x7d", "put", codes .update⟩,
         ⟨collection.routePath ++ "/\x7bid\x7d", "delete", codes .delete⟩]
      else []
  increasing : ∀ operation, (codes operation).Pairwise (· < ·)
  mem_codes : ∀ operation status, status ∈ codes operation ↔
    (∃ result, ∃ reply ∈ Controller.replies (recordName collection operation) result
        (flows operation), reply.status = status) ∨
      (config.has .auth = true ∧ status = 401)

theorem pairwise_codes (isProtected : Bool) (operation : Operation) :
    (Route.codes isProtected operation).Pairwise (· < ·) := by
  cases isProtected <;> cases operation <;> decide

theorem mem_codes_iff (isProtected : Bool) (operation : Operation) (status : Nat) :
    status ∈ Route.codes isProtected operation ↔
      (status = (if operation = .create then 201 else 200) ∨
        (operation.takesId = true ∧ status = 404) ∨ (operation ≠ .listAll ∧ status = 400) ∨
          status = 500) ∨
      (isProtected = true ∧ status = 401) := by
  cases isProtected <;> cases operation <;>
    simp [Route.codes, Route.documentedAnswers, Route.answers, Route.insertAnswer,
      Route.unauthorized, Operation.takesId] <;> omega

/-- Each handler replies once, whatever comes of its call, and the documentation lists
the codes of its replies. -/
theorem handlers_reply_once (collection : Collection) (config : Config) :
    ∃ flows codes, AreDocumented collection config flows codes := by
  refine ⟨flowOf collection, Route.codes (config.has .auth), ?_⟩
  constructor
  case read => exact readHandlers_artifact collection config.language
  case replies => exact repliesOnce_flowOf collection
  case documented => exact Route.documentedOperations_artifact collection config
  case increasing => exact pairwise_codes (config.has .auth)
  case mem_codes =>
    intro operation status
    rw [(repliesOnce_flowOf collection operation).sent_iff, mem_codes_iff]

end Controller

end SchemaScaffold
