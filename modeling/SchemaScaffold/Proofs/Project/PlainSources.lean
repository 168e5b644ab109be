import SchemaScaffold.Project
import SchemaScaffold.Proofs.Code.Statements
import SchemaScaffold.Proofs.Json.Strings
import SchemaScaffold.Proofs.Text.Blanks
import SchemaScaffold.StandaloneSchema

/-! Which texts of the generated sources have no line feed inside: all that are
made of names, since names have no white space, and all literals. -/

namespace SchemaScaffold

open Code

/-! ## Texts -/

theorem lacks_of_isSolid {cut : Char} {text : String} (solid : Text.IsSolid text)
    (isBlank : Text.isBlank cut = true) : Lacks cut text := fun isChar =>
  Bool.false_ne_true ((solid cut isChar).symm.trans isBlank)

@[simp] theorem lacks_pascal (collection : Collection) : Lacks '\n' collection.pascal :=
  lacks_of_isSolid (Naming.isSolid_pascal _) (by decide)

@[simp] theorem lacks_camel (collection : Collection) : Lacks '\n' collection.camel :=
  lacks_of_isSolid (Naming.isSolid_camel _) (by decide)

@[simp] theorem lacks_routePath (collection : Collection) : Lacks '\n' collection.routePath := by
  have camel : Lacks '\n' (Naming.camel collection.label) := lacks_camel collection
  simp [Lacks, Collection.routePath, Naming.routePath, Naming.routeSegment, camel]

@[simp] theorem Operation.lacks_verb (operation : Operation) :
    Lacks '\n' operation.verb.name := by
  cases operation <;> simp [Lacks, verb, Verb.name]

@[simp] theorem lacks_stringLiteral (text : String) : Lacks '\n' (Json.stringLiteral text) := by
  have escaped (c : Char) : '\n' ∉ Json.escapedChar c := by
    rcases Json.Reader.escapedChar_cases c with
      ⟨sign, short, known⟩ | ⟨control, long⟩ | ⟨_, _, printed, same⟩
    · have noSign : '\n' ≠ sign := by
        rintro rfl
        cases known
      simp [short, noSign]
    · have digits : ∀ digit < 16, Json.hexDigit digit ≠ '\n' := by decide
      have high := digits (c.toNat / 16) (by omega)
      have low := digits (c.toNat % 16) (by omega)
      simp [long, high.symm, low.symm]
    · rw [same, List.mem_singleton]
      rintro rfl
      exact printed (by decide)
  simp [Lacks, Json.stringLiteral, Json.literalChars, escaped]

@[simp] theorem lacks_toDigits (number : Nat) : '\n' ∉ Nat.toDigits 10 number := by
  intro isDigit
  exact absurd (Nat.isDigit_of_mem_toDigits (by decide) (by decide) isDigit) (by decide)

namespace StandaloneSchema

theorem lacks_registrationArguments (collection : Collection) :
    Lacks '\n' (registrationArguments collection) := by
  have schema : Lacks '\n' (schemaName collection) := by simp [Lacks, schemaName]
  unfold registrationArguments
  simp [Lacks, schema]

end StandaloneSchema

namespace Controller

/-! ## Handlers -/

theorem arePlain_fragmentsOf {steps : List Step} :
    ArePlain (fragmentsOf steps) ↔ ∀ step ∈ steps, ArePlain step.fragments := by
  induction steps with
  | nil => simp [fragmentsOf, ArePlain]
  | cons step rest induction =>
      rw [fragmentsOf, arePlain_append, induction, List.forall_mem_cons]

theorem lacks_data {expression : String} (plain : Lacks '\n' expression) :
    Lacks '\n' (ResponseBody.data expression).text := by
  unfold ResponseBody.text
  simp [Lacks, plain]

theorem lacks_error {expression : String} (plain : Lacks '\n' expression) :
    Lacks '\n' (ResponseBody.error expression).text := by
  unfold ResponseBody.text
  simp [Lacks, plain]

theorem lacks_response (status : Nat) {body : ResponseBody} (plain : Lacks '\n' body.text) :
    Lacks '\n' (Response.text ⟨status, body⟩) := by
  unfold Response.text
  simp [Lacks, plain]

theorem arePlain_leave (status : Nat) {body : ResponseBody} (plain : Lacks '\n' body.text) :
    ArePlain (Step.fragments (.leave ⟨status, body⟩)) :=
  ⟨isPlain_line (by simp [Lacks, lacks_response status plain]), trivial⟩

theorem arePlain_respond (status : Nat) {body : ResponseBody} (plain : Lacks '\n' body.text) :
    ArePlain (Step.fragments (.respond ⟨status, body⟩)) :=
  ⟨isPlain_line (lacks_response status plain), trivial⟩

theorem arePlain_provided {test : Test} (plainTest : Lacks '\n' test.text) {body : List Step}
    (plainBody : ∀ step ∈ body, ArePlain step.fragments) :
    ArePlain (Step.fragments (.provided test body)) := by
  rw [Step.fragments, ArePlain, isPlain_braced, arePlain_fragmentsOf]
  exact ⟨⟨by simp [Lacks, plainTest], plainBody, by simp [Lacks]⟩, trivial⟩

theorem arePlain_attempt {errorType : Option String}
    (plainType : Lacks '\n' (annotated "error" errorType)) {body rescue : List Step}
    (plainBody : ∀ step ∈ body, ArePlain step.fragments)
    (plainRescue : ∀ step ∈ rescue, ArePlain step.fragments) :
    ArePlain (Step.fragments (.attempt errorType body rescue)) := by
  simp only [Step.fragments, ArePlain, isPlain_braced, Fragment.IsPlain, arePlain_fragmentsOf]
  exact ⟨⟨by simp [Lacks], plainBody, nofun⟩,
    ⟨by simp [Lacks, plainType], plainRescue, by simp [Lacks]⟩, trivial⟩

theorem lacks_annotated (name type : String) (isTyped : Bool) (plainName : Lacks '\n' name)
    (plainType : Lacks '\n' type) :
    Lacks '\n' (annotated name (if isTyped then some type else none)) := by
  cases isTyped with
  | false => exact plainName
  | true => simp [Lacks, annotated, plainName, plainType]

theorem lacks_typedParameter (isTyped : Bool) {name type : String} (plainName : Lacks '\n' name)
    (plainType : Lacks '\n' type) : Lacks '\n' (typedParameter isTyped name type).text :=
  lacks_annotated name type isTyped plainName plainType

variable (collection : Collection) (isTyped : Bool) (operation : Operation)

@[simp] theorem lacks_recordName : Lacks '\n' (recordName collection operation) := by
  cases operation <;> simp [Lacks, recordName]

theorem isPlain_call : (call collection operation).IsPlain := by
  have text {call : String} (plain : Lacks '\n' call) :
      Lacks '\n' (callText collection operation call) := by
    unfold callText
    simp [Lacks, plain]
  cases operation with
  | update =>
      rw [call, isPlain_braced]
      exact ⟨text (by simp [Lacks]),
        ⟨isPlain_line (by simp [Lacks]), isPlain_line (by simp [Lacks]), trivial⟩,
        by simp [Lacks]⟩
  | _ => exact isPlain_line (text (by simp [Lacks]))

theorem arePlain_missing : ArePlain (missing collection operation).fragments := by
  have test : Lacks '\n' (Test.isMissing (recordName collection operation)).text := by
    simp [Lacks, Test.text]
  rw [missing]
  refine arePlain_provided test (List.forall_mem_singleton.mpr ?_)
  exact arePlain_leave 404 (lacks_error (by simp [Lacks]))

theorem lacks_answer : Lacks '\n' (answer collection operation).text := by
  cases operation with
  | delete => exact lacks_data (by simp [Lacks])
  | _ => exact lacks_data (lacks_recordName collection _)

theorem arePlain_success :
    ∀ step ∈ success collection operation, ArePlain step.fragments := by
  have payload : ∀ step ∈ (if operation.takesBody then [payload] else []),
      ArePlain step.fragments := by
    split
    · rw [List.forall_mem_singleton]
      exact ⟨isPlain_line (by simp [Lacks]), trivial⟩
    · exact List.forall_mem_nil _
  have missing : ∀ step ∈ (if operation.takesId then [missing collection operation] else []),
      ArePlain step.fragments := by
    split
    · rw [List.forall_mem_singleton]
      exact arePlain_missing collection operation
    · exact List.forall_mem_nil _
  simp only [success, List.forall_mem_append, List.forall_mem_singleton]
  exact ⟨⟨⟨payload, isPlain_call collection operation, trivial⟩, missing⟩,
    arePlain_respond _ (lacks_answer collection operation)⟩

theorem arePlain_refusal (failure : Failure) : ArePlain (refusal isTyped failure).fragments := by
  have test : Lacks '\n' (Test.failedBy failure).text := by
    cases failure <;> simp [Lacks, Test.text, Failure.test]
  have leave {expression : String} (plain : Lacks '\n' expression) :
      ArePlain (Step.fragments (.leave ⟨400, .error expression⟩)) :=
    arePlain_leave 400 (lacks_error plain)
  cases failure with
  | cast => exact arePlain_provided test (List.forall_mem_singleton.mpr (leave (.of_literal rfl rfl)))
  | duplicate =>
      exact arePlain_provided test (List.forall_mem_singleton.mpr (leave (.of_literal rfl rfl)))
  | validation =>
      have parameter := lacks_annotated "err" "any" isTyped (by simp [Lacks]) (by simp [Lacks])
      refine arePlain_provided test (List.forall_mem_cons.mpr ⟨⟨isPlain_line ?_, trivial⟩, ?_⟩)
      · simp [Lacks, parameter]
      · exact List.forall_mem_singleton.mpr (leave (.of_literal rfl rfl))

theorem arePlain_handler : ArePlain (handler collection isTyped operation).body := by
  rw [handler, arePlain_fragmentsOf, steps, List.forall_mem_singleton]
  refine arePlain_attempt (lacks_annotated _ _ isTyped (by simp [Lacks]) (by simp [Lacks]))
    (arePlain_success collection operation) ?_
  rw [List.forall_mem_append, List.forall_mem_map, List.forall_mem_singleton]
  exact ⟨fun failure _ => arePlain_refusal isTyped failure,
    arePlain_respond 500 (lacks_error (.of_literal rfl rfl))⟩

/-! ## Files -/

theorem lacks_docs : ∀ line ∈ (handler collection isTyped operation).docs, Lacks '\n' line := by
  have summary : Lacks '\n' (summary collection operation) := by
    unfold summary
    cases operation <;> simp [Lacks]
  have verb : Lacks '\n' operation.verb.title := by
    cases operation <;> simp [Lacks, Operation.verb, Verb.title]
  have ending : Lacks '\n' operation.pathEnd := by
    cases operation <;> simp [Lacks, Operation.pathEnd, Operation.takesId]
  simp only [handler, List.forall_mem_cons, List.not_mem_nil, false_implies, implies_true, and_true]
  exact ⟨summary, by simp [Lacks, verb, ending]⟩

end Controller

namespace Route

variable (collection : Collection) (isProtected : Bool)

theorem lacks_summary (operation : Operation) : Lacks '\n' (summary collection operation) := by
  unfold summary
  cases operation <;> simp [Lacks]

theorem lacks_description (operation : Operation) :
    ∀ answer ∈ documentedAnswers isProtected operation, Lacks '\n' answer.description := by
  cases isProtected <;> cases operation <;>
    simp [documentedAnswers, answers, insertAnswer, unauthorized, Lacks]

theorem lacks_answerLines {answer : DocumentedAnswer} (plain : Lacks '\n' answer.description) :
    ∀ line ∈ answerLines answer, Lacks '\n' line := by
  simp [answerLines, Lacks, plain]

theorem lacks_operationLines (operation : Operation) :
    ∀ line ∈ operationLines collection isProtected operation, Lacks '\n' line := by
  have head : Lacks '\n' ("  " ++ operation.verb.name ++ ":")
      ∧ Lacks '\n' ("    summary: " ++ summary collection operation)
      ∧ Lacks '\n' ("    tags: [" ++ collection.pascal ++ "]") := by
    simp [Lacks, lacks_summary]
  have security : ∀ line ∈ (if isProtected then securityLines else []), Lacks '\n' line := by
    cases isProtected <;> simp [securityLines, Lacks]
  have parameter : ∀ line ∈ (if operation.takesId then parameterLines else []),
      Lacks '\n' line := by
    cases operation <;> simp [Operation.takesId, parameterLines, Lacks]
  have body : ∀ line ∈ (if operation.takesBody then bodyLines else []), Lacks '\n' line := by
    cases operation <;> simp [Operation.takesBody, bodyLines, Lacks]
  have answers : ∀ line ∈ (documentedAnswers isProtected operation).flatMap answerLines,
      Lacks '\n' line := by
    intro line isLine
    rcases List.mem_flatMap.mp isLine with ⟨answer, isAnswer, isLine⟩
    exact lacks_answerLines (lacks_description isProtected operation answer isAnswer) line isLine
  simp only [operationLines, List.forall_mem_append, List.forall_mem_cons, List.not_mem_nil,
    false_implies, implies_true, and_true]
  exact ⟨⟨⟨⟨head, security⟩, parameter⟩, body⟩, by simp [Lacks], answers⟩

theorem lacks_openApiLines {path : String} (plain : Lacks '\n' path)
    (operations : List Operation) :
    ∀ line ∈ openApiLines collection isProtected path operations, Lacks '\n' line := by
  rw [openApiLines, List.forall_mem_cons, List.forall_mem_cons]
  refine ⟨by simp [Lacks], by simp [Lacks, plain], fun line isLine => ?_⟩
  rcases List.mem_flatMap.mp isLine with ⟨operation, _, isLine⟩
  exact lacks_operationLines collection isProtected operation line isLine

end Route

end SchemaScaffold
