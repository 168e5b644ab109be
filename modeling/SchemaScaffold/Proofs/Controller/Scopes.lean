import SchemaScaffold.Proofs.Controller.Answers
import SchemaScaffold.Proofs.Project.Linkage
import SchemaScaffold.Proofs.Text.Identifiers

/-! The names in the handlers of a controller. A handler keeps its record under a
name that is made of the label, next to names that are the same in all handlers. -/

namespace SchemaScaffold

open Code

namespace Controller

/-! ## Parameters -/

/-- The names in a list of parameters, with or without their types, up to the closing
bracket. -/
def parameterNames : List String → List String
  | [] => []
  | [last] => [(before? ")" last).getD last]
  | word :: word' :: rest =>
      match before? ":" word with
      | some name => name :: parameterNames rest
      | none => (before? "," word).getD word :: parameterNames (word' :: rest)

example : parameterNames ["req:", "Request,", "res:", "Response)"] = ["req", "res"] := by
  decide +kernel

/-- The parameters of the handler whose header this is. -/
def parameters? (line : String) : Option (List String) :=
  (after? "export const " line).bind fun rest =>
    match wordsOf rest with
    | _ :: "=" :: "async" :: first :: words =>
        (after? "(" first).map fun start =>
          parameterNames ((start :: words).takeWhile (· != "=>"))
    | _ => none

theorem parameters?_eq_none {line : String} (notStart : ¬ "export const ".toList <+: line.toList) :
    parameters? line = none := by
  rw [parameters?, after?_eq_none notStart, Option.bind_none]

theorem skipsBlocks_parameters? : SkipsBlocks parameters? where
  opening _ := parameters?_eq_none (by simp)
  inside _ := parameters?_eq_none (by simp)
  nothing := parameters?_eq_none (by simp)
  indented _ := parameters?_eq_none (by simp)
  closing _ := parameters?_eq_none (by simp)

theorem parameters?_header {name : String} (whole : Lacks ' ' name) (first : String)
    (words : List String) {arrow : String}
    (isArrow : wordsOf arrow = "=" :: "async" :: ("(" ++ first) :: words) :
    parameters? ("export const " ++ name ++ " " ++ arrow)
      = some (parameterNames ((first :: words).takeWhile (· != "=>"))) := by
  rw [parameters?, String.append_assoc, String.append_assoc, after?_append, Option.bind_some,
    ← String.append_assoc, wordsOf_append, wordsOf_of_lacks whole, isArrow, List.singleton_append]
  simp

/-! ## Scopes -/

/-- The name that a statement declares in its block. -/
def Flow.name? : Flow → Option String
  | .constant name => some name
  | .call name => some name
  | _ => none

def declaredIn (flows : List Flow) : List String := flows.filterMap Flow.name?

mutual

/-- The names that the blocks of a statement declare, block by block. -/
def Flow.scopes : Flow → List (List String)
  | .provided _ body => declaredIn body :: scopesIn body
  | .attempt body rescue =>
      declaredIn body :: declaredIn rescue :: (scopesIn body ++ scopesIn rescue)
  | _ => []

def scopesIn : List Flow → List (List String)
  | [] => []
  | flow :: rest => flow.scopes ++ scopesIn rest

end

/-- No block declares a name twice, and no record has a name that is in use around
the handler. -/
structure KeepsApart (outer : List String) (flows : List Flow) : Prop where
  scopes : ∀ scope ∈ declaredIn flows :: scopesIn flows, scope.Nodup
  records : ∀ record ∈ callsOf flows, record ∉ outer

/-- The handlers of a source, each with its parameters. -/
def scopedHandlers (content : String) : List (List String × Option (List Flow)) :=
  (scan parameters? content).zip ((readHandlers content).map Prod.snd)

def modelNames (content : String) : List String :=
  (Project.importsFrom "../models/" content).flatMap Import.named

/-- In all handlers the record has a name of its own. -/
def RecordsApart (content : String) : Prop :=
  ∀ handler ∈ scopedHandlers content, ∃ flows,
    handler.2 = some flows ∧ KeepsApart (handler.1 ++ modelNames content) flows

/-! ## The text of a controller -/

variable (collection : Collection) (isTyped : Bool) (operation : Operation)

theorem parameters?_signature :
    parameters? ((handler collection isTyped operation).signature ++ "\x7b")
      = some ["req", "res"] := by
  have whole : Lacks ' ' (operation.handlerName collection) :=
    lacks_of_isSolid (isSolid_handlerName operation collection) (by decide)
  have parts : (handler collection isTyped operation).signature ++ "\x7b"
      = "export const " ++ operation.handlerName collection ++ " "
        ++ (if isTyped then "= async (req: Request, res: Response) => \x7b"
            else "= async (req, res) => \x7b") := by
    cases isTyped <;>
      simp [handler, Function.signature, exportWord, typedParameter, Parameter.text, annotated,
        ← String.toList_inj]
  rw [parts]
  cases isTyped with
  | true =>
      exact parameters?_header whole "req:"
        ["Request,", "res:", "Response)", "=>", "\x7b"] (by decide +kernel)
  | false =>
      exact parameters?_header whole "req," ["res)", "=>", "\x7b"] (by decide +kernel)

theorem scan_parameters? :
    scan parameters? (sourceFile collection isTyped).render
      = Operation.all.map fun _ => ["req", "res"] := by
  rw [scan_handlers collection isTyped skipsBlocks_parameters?
    (fun _ => parameters?_eq_none (by simp)) (fun _ => parameters?_eq_none (by simp))]
  simp only [parameters?_signature]
  rfl

theorem scopedHandlers_artifact (language : Language) :
    scopedHandlers (artifact collection language).content
      = Operation.all.map fun operation => (["req", "res"], some (flowOf collection operation)) := by
  rw [scopedHandlers, readHandlers_artifact, artifact, scan_parameters?]
  rfl

theorem modelNames_artifact (language : Language) :
    modelNames (artifact collection language).content = [collection.pascal] := by
  rw [modelNames, Project.importsFrom_models]
  rfl

/-! ## The name of the record -/

theorem nodup_scopes_flowOf :
    (∀ scope ∈ declaredIn (flowOf collection operation) :: scopesIn (flowOf collection operation),
        scope.Nodup) ↔
      (operation.takesBody = true → recordName collection operation ≠ "payload") := by
  cases operation <;>
    simp [flowOf, successFlow, payloadFlow, missingFlow, failures, refusalFlow, refusalBody,
      Operation.takesBody, Operation.takesId, scopesIn, Flow.scopes, declaredIn, Flow.name?,
      List.filterMap_cons, eq_comm]

theorem keepsApart_flowOf (outer : List String) :
    KeepsApart outer (flowOf collection operation) ↔
      (operation.takesBody = true → recordName collection operation ≠ "payload") ∧
        recordName collection operation ∉ outer := by
  rw [← nodup_scopes_flowOf]
  have records : (∀ record ∈ callsOf (flowOf collection operation), record ∉ outer) ↔
      recordName collection operation ∉ outer := by
    rw [callsOf_flowOf, List.forall_mem_singleton]
  exact ⟨fun ⟨scopes, apart⟩ => ⟨scopes, records.mp apart⟩,
    fun ⟨scopes, apart⟩ => ⟨scopes, records.mpr apart⟩⟩

theorem length_pascal_le (label : String) :
    (Naming.pascal label).length ≤ (Naming.camel label).length := by
  rw [Naming.pascal, Naming.camel, String.length_ofList, String.length_ofList, Naming.camelChars]
  cases Naming.pascalChars label.toList with
  | nil => exact Nat.le_refl 0
  | cons head rest =>
      obtain ⟨⟨first, isFirst, -⟩, -⟩ := Text.isAlike_lower head
      have some : 0 < (Text.lower head).length :=
        List.length_pos_of_mem (List.mem_of_mem_head? isFirst)
      rw [Naming.uncapitalize, List.length_append, List.length_cons]
      omega

theorem plural_ne_pascal : collection.camel ++ "s" ≠ collection.pascal := by
  intro equal
  have longer : collection.camel.length + 1 = collection.pascal.length := by
    rw [← equal, String.length_append]
    rfl
  have atMost : collection.pascal.length ≤ collection.camel.length :=
    length_pascal_le collection.label
  omega

theorem plural_mem_iff :
    collection.camel ++ "s" ∈ ["req", "res", collection.pascal] ↔ collection.camel = "re" := by
  have notReq : collection.camel ++ "s" ≠ "req" := by
    intro equal
    have last := congrArg (fun text => text.toList.getLast?) equal
    simp at last
  have plural : collection.camel ++ "s" = "res" ↔ collection.camel = "re" := by
    have parts : "res" = "re" ++ "s" := by simp
    rw [parts, String.append_left_inj]
  simp [notReq, plural_ne_pascal, plural]

theorem recordName_of_ne_listAll {operation : Operation} (single : operation ≠ .listAll) :
    recordName collection operation = collection.camel := by
  cases operation with
  | listAll => exact absurd rfl single
  | _ => rfl

/-- The records of a controller have names of their own, unless the name of the
collection is one of those that a handler uses anyway. -/
theorem recordsApart_iff (language : Language) :
    RecordsApart (artifact collection language).content ↔
      collection.camel ≠ collection.pascal ∧
        collection.camel ∉ ["re", "req", "res", "payload"] := by
  have each : RecordsApart (artifact collection language).content ↔
      ∀ operation ∈ Operation.all,
        KeepsApart ["req", "res", collection.pascal] (flowOf collection operation) := by
    rw [RecordsApart, scopedHandlers_artifact, modelNames_artifact, List.forall_mem_map]
    simp
  simp only [each, keepsApart_flowOf]
  constructor
  · intro apart
    have list : collection.camel ≠ "re" :=
      (not_congr (plural_mem_iff collection)).mp (apart .listAll (by decide)).2
    rcases apart .create (by decide) with ⟨notPayload, notUsed⟩
    rw [recordName_of_ne_listAll collection (by decide)] at notPayload notUsed
    simp only [List.mem_cons, List.not_mem_nil, or_false, not_or] at notUsed ⊢
    exact ⟨notUsed.2.2, list, notUsed.1, notUsed.2.1, notPayload rfl⟩
  · rintro ⟨notModel, free⟩ operation -
    simp only [List.mem_cons, List.not_mem_nil, or_false, not_or] at free
    by_cases list : operation = .listAll
    · subst list
      exact ⟨nofun, (not_congr (plural_mem_iff collection)).mpr free.1⟩
    · rw [recordName_of_ne_listAll collection list]
      exact ⟨fun _ => free.2.2.2, by simp [free, notModel]⟩

end Controller

end SchemaScaffold
