import SchemaScaffold.Proofs.Project.PlainSources

/-! What is read back out of the texts of a controller, of a model and of a route:
their imports, the constants that they export and the handlers of a router. -/

namespace SchemaScaffold

open Code

/-! ## Names -/

theorem isSolid_handlerName (operation : Operation) (collection : Collection) :
    Text.IsSolid (operation.handlerName collection) := by
  have pascal : Text.IsSolid collection.pascal := Naming.isSolid_pascal _
  have solidVerbs : ∀ verb ∈ ["getAll", "get", "create", "update", "delete"],
      Text.IsSolid verb := by
    simp only [List.forall_mem_cons]
    exact ⟨.of_all (by decide), .of_all (by decide), .of_all (by decide), .of_all (by decide),
      .of_all (by decide), List.forall_mem_nil _⟩
  have ofVerb {verb : String} (isVerb : verb ∈ ["getAll", "get", "create", "update", "delete"]) :
      Text.IsSolid (verb ++ collection.pascal) :=
    Text.IsSolid.append (solidVerbs verb isVerb) pascal
  cases operation with
  | listAll => exact (ofVerb (by simp)).append (.of_all (by decide))
  | _ => exact ofVerb (by simp)

theorem handlerName_injective (collection : Collection) :
    Function.Injective fun operation : Operation => operation.handlerName collection := by
  intro operation other equal
  have letters := congrArg String.toList equal
  have lengths := congrArg List.length letters
  cases operation <;> cases other <;> simp [Operation.handlerName] at letters lengths ⊢
  -- Both names may begin alike, but the name for a list is longer.
  case listAll.getOne => omega

theorem nodup_handlerNames (collection : Collection) : (handlerNames collection).Nodup :=
  List.Pairwise.map _
    (fun _ _ different equal => different (handlerName_injective collection equal))
    (by decide : Operation.all.Nodup)

/-! ## Imports -/

/-- An import of names or of a default, all without white space. -/
inductive IsSolidImport : Import → Prop
  | named {source : String} {named : List String} (some : named ≠ [])
      (names : ∀ name ∈ named, Text.IsSolid name) (solid : Text.IsSolid source) :
      IsSolidImport { source, named }
  | default {source name : String} (solidName : Text.IsSolid name) (notBrace : name ≠ "\x7b")
      (solid : Text.IsSolid source) : IsSolidImport { source, default := some name }

namespace IsSolidImport

variable {statement : Import} (solid : IsSolidImport statement)

include solid

theorem exists_declaration_eq : ∃ rest, statement.declaration = "import " ++ rest := by
  cases solid with
  | @named source named some =>
      refine ⟨nameList named ++ " from \"" ++ source ++ "\";", ?_⟩
      simp [Import.declaration, Import.bindings?, some, ← String.toList_inj]
  | @default source name =>
      refine ⟨name ++ " from \"" ++ source ++ "\";", ?_⟩
      simp [Import.declaration, Import.bindings?, ← String.toList_inj]

theorem lacks_declaration : Lacks '\n' statement.declaration := by
  have plain {text : String} (solid : Text.IsSolid text) : Lacks '\n' text :=
    lacks_of_isSolid solid (by decide)
  cases solid with
  | named some names source =>
      have plainNames := fun name isName => plain (names name isName)
      simp +contextual [Import.declaration, Import.bindings?, some, Lacks, nameList, plainNames,
        plain source]
  | default name _ source =>
      simp [Import.declaration, Import.bindings?, Lacks, plain name, plain source]

theorem isDeclared : statement.moduleSystem = .esModule := by cases solid <;> rfl

theorem readImport?_declaration : readImport? statement.declaration = some statement := by
  have whole {text : String} (solid : Text.IsSolid text) : Lacks ' ' text :=
    lacks_of_isSolid solid (by decide)
  cases solid with
  | named some names source =>
      exact readImport?_named some (fun name isName => whole (names name isName)) (whole source)
  | default name notBrace source => exact readImport?_default (whole name) notBrace (whole source)

theorem found_readImport? : found readImport? statement.fragments = [statement] := by
  rw [found_import solid.isDeclared solid.lacks_declaration, solid.readImport?_declaration]
  rfl

theorem found_eq_nil {α : Type} {read : String → Option α} (skips : Skips read "import ") :
    found read statement.fragments = [] := by
  rcases solid.exists_declaration_eq with ⟨rest, declared⟩
  rw [found_import solid.isDeclared solid.lacks_declaration, declared, skips]
  rfl

end IsSolidImport

theorem found_imports {statements : List Import}
    (solid : ∀ statement ∈ statements, IsSolidImport statement) :
    (statements.flatMap fun statement => found readImport? statement.fragments) = statements := by
  induction statements with
  | nil => rfl
  | cons statement rest induction =>
      rw [List.forall_mem_cons] at solid
      rw [List.flatMap_cons, solid.1.found_readImport?, induction solid.2, List.singleton_append]

theorem found_imports_eq_nil {α : Type} {read : String → Option α} (skips : Skips read "import ")
    {statements : List Import} (solid : ∀ statement ∈ statements, IsSolidImport statement) :
    (statements.flatMap fun statement => found read statement.fragments) = [] :=
  List.flatMap_eq_nil_iff.mpr fun statement isStatement =>
    (solid statement isStatement).found_eq_nil skips

/-! ## Functions -/

theorem exportedName?_signature {function : Function} (exported : function.exported = true)
    (whole : Lacks ' ' function.name) :
    exportedName? (function.signature ++ "\x7b") = some function.name := by
  let rest := "= " ++ (if function.isAsync then "async " else "")
    ++ "(" ++ ", ".intercalate (function.parameters.map Parameter.text) ++ ") => \x7b"
  have parts : function.signature ++ "\x7b" = "export const " ++ function.name ++ " " ++ rest := by
    simp [rest, Function.signature, exportWord, exported, ← String.toList_inj]
  rw [parts, exportedName?_declared whole]

theorem lacks_signature {function : Function} (name : Lacks '\n' function.name)
    (parameters : ∀ parameter ∈ function.parameters, Lacks '\n' parameter.text) :
    Lacks '\n' function.signature := by
  have exported : Lacks '\n' (exportWord function.exported) := by
    cases function.exported <;> simp [Lacks, exportWord]
  have async : Lacks '\n' (if function.isAsync then "async " else "") := by
    cases function.isAsync <;> simp [Lacks]
  unfold Function.signature
  simp +contextual [Lacks, exported, name, async, parameters]

/-! ## The controller -/

namespace Controller

variable (collection : Collection) (isTyped : Bool)

theorem lacks_handlerSignature (operation : Operation) :
    Lacks '\n' (handler collection isTyped operation).signature := by
  refine lacks_signature ?_ ?_
  · exact lacks_of_isSolid (isSolid_handlerName operation collection) (by decide)
  · simp only [handler, List.forall_mem_cons, List.not_mem_nil, false_implies, implies_true,
      and_true]
    exact ⟨lacks_typedParameter isTyped (by simp [Lacks]) (by simp [Lacks]),
      lacks_typedParameter isTyped (by simp [Lacks]) (by simp [Lacks])⟩

theorem found_handler {α : Type} {read : String → Option α} (skips : SkipsBlocks read)
    (operation : Operation) :
    found read (handler collection isTyped operation).fragments
      = (read ((handler collection isTyped operation).signature ++ "\x7b")).toList :=
  found_function skips (lacks_docs collection isTyped operation)
    (lacks_handlerSignature collection isTyped operation)
    (arePlain_handler collection isTyped operation)

theorem found_referenceFields_eq {α : Type} {read : String → Option α} :
    found read (referenceFields collection isTyped).fragments
      = (read ("const " ++ (annotated "referenceFields" (if isTyped then some "string[]" else none)
          ++ " = " ++ Schema.nameArray collection.idFields ++ ";"))).toList := by
  let name := annotated "referenceFields" (if isTyped then some "string[]" else none)
  let names := Schema.nameArray collection.idFields
  have plainName : Lacks '\n' name :=
    lacks_annotated _ _ isTyped (by simp [Lacks]) (by simp [Lacks])
  have head (value : String) : (referenceFields collection isTyped).head value
      = "const " ++ (name ++ " = " ++ value) := by
    simp [Constant.head, referenceFields, exportWord, name, ← String.toList_inj]
  have plainHead : Lacks '\n' ((referenceFields collection isTyped).head "") := by
    rw [head]
    simp [Lacks, plainName]
  have plainNames : Lacks '\n' names := by simp [names, Schema.nameArray, Lacks]
  rw [found_constant plainHead plainNames (by simp [referenceFields, Schema.nameArray]), head,
    String.append_assoc]
  rfl

theorem found_referenceFields {α : Type} {read : String → Option α} (skips : Skips read "const ") :
    found read (referenceFields collection isTyped).fragments = [] := by
  rw [found_referenceFields_eq, skips]
  rfl

theorem arePlain_normalizeReferences : ArePlain (normalizeReferences isTyped).body := by
  simp [normalizeReferences, ArePlain, isPlain_braced, Fragment.IsPlain, Lacks]

theorem lacks_normalizeReferences : Lacks '\n' (normalizeReferences isTyped).signature := by
  have parameter : Lacks '\n' (typedParameter isTyped "body" "Record<string, any>").text :=
    lacks_typedParameter isTyped (by simp [Lacks]) (by simp [Lacks])
  exact lacks_signature (by simp [normalizeReferences, Lacks])
    (List.forall_mem_singleton.mpr parameter)

theorem found_normalizeReferences {α : Type} {read : String → Option α} (skips : SkipsBlocks read)
    (skipsHelper : Skips read "const normalizeReferences") :
    found read (normalizeReferences isTyped).fragments = [] := by
  have signature : (normalizeReferences isTyped).signature
      = "const normalizeReferences" ++ (" = ("
        ++ (typedParameter isTyped "body" "Record<string, any>").text ++ ") => ") := by
    simp [normalizeReferences, Function.signature, exportWord, ← String.toList_inj]
  rw [found_function skips (by simp [normalizeReferences, Lacks])
      (lacks_normalizeReferences isTyped) (arePlain_normalizeReferences isTyped),
    signature, String.append_assoc, skipsHelper]
  rfl

theorem isSolid_imports : ∀ statement ∈ imports collection isTyped, IsSolidImport statement := by
  have camel : Text.IsSolid collection.camel := Naming.isSolid_camel _
  have pascal : Text.IsSolid collection.pascal := Naming.isSolid_pascal _
  have source : Text.IsSolid ("../models/" ++ Model.moduleName collection) :=
    Text.IsSolid.append (.of_all (by decide))
      ((camel.append (.of_all (by decide))).append
        (.of_all (by decide)))
  have model : IsSolidImport
      { source := "../models/" ++ Model.moduleName collection, named := [collection.pascal] } :=
    .named (List.cons_ne_nil _ _) (List.forall_mem_singleton.mpr pascal) source
  have types : ∀ name ∈ ["Request", "Response"], Text.IsSolid name :=
    List.forall_mem_cons.mpr ⟨.of_all (by decide),
      List.forall_mem_singleton.mpr (.of_all (by decide))⟩
  have express : IsSolidImport { source := "express", named := ["Request", "Response"] } :=
    .named (List.cons_ne_nil _ _) types (.of_all (by decide))
  rw [imports, List.forall_mem_append]
  cases isTyped with
  | false => exact ⟨List.forall_mem_nil _, List.forall_mem_singleton.mpr model⟩
  | true => exact ⟨List.forall_mem_singleton.mpr express, List.forall_mem_singleton.mpr model⟩

/-- Who passes over imports and constants finds the headers of the handlers only. -/
theorem scan_handlers {α : Type} {read : String → Option α} (skips : SkipsBlocks read)
    (skipsImports : Skips read "import ") (skipsConstants : Skips read "const ") :
    scan read (sourceFile collection isTyped).render
      = Operation.all.flatMap fun operation =>
          (read ((handler collection isTyped operation).signature ++ "\x7b")).toList := by
  have imports := found_imports_eq_nil skipsImports (isSolid_imports collection isTyped)
  have constant := found_referenceFields collection isTyped skipsConstants
  have helper := found_normalizeReferences isTyped skips
    (skipsConstants.longer "normalizeReferences")
  rw [scan_sourceFile skips.nothing]
  simp only [sourceFile, List.flatMap_cons, List.flatMap_map, List.flatMap_nil, imports,
    Statement.fragments, constant, helper, found_handler collection isTyped skips,
    List.nil_append, List.append_nil]

/-- The controller exports its handlers and nothing else. -/
theorem scan_exportedName? :
    scan exportedName? (sourceFile collection isTyped).render = handlerNames collection := by
  have named (operation : Operation) :
      exportedName? ((handler collection isTyped operation).signature ++ "\x7b")
        = some (operation.handlerName collection) :=
    exportedName?_signature rfl
      (lacks_of_isSolid (isSolid_handlerName operation collection) (by decide))
  rw [scan_handlers collection isTyped skipsBlocks_exportedName?
    (fun _ => exportedName?_eq_none (by simp)) (fun _ => exportedName?_eq_none (by simp))]
  simp only [named]
  rfl

/-- Nothing but the imports at its head is imported. -/
theorem scan_readImport? :
    scan readImport? (sourceFile collection isTyped).render = imports collection isTyped := by
  have skips : SkipsBlocks readImport? := skipsBlocks_readImport?
  have handlerFound (operation : Operation) :
      found readImport? (handler collection isTyped operation).fragments = [] := by
    rw [found_handler collection isTyped skips, readImport?_eq_none]
    · rfl
    · simp [handler, Function.signature, exportWord]
  have constant := found_referenceFields collection isTyped (fun _ => readImport?_eq_none (by simp))
  have helper := found_normalizeReferences isTyped skips (fun _ => readImport?_eq_none (by simp))
  rw [scan_sourceFile skips.nothing, sourceFile, found_imports (isSolid_imports collection isTyped)]
  simp [Statement.fragments, constant, helper, handlerFound, List.flatMap_map]

end Controller

/-! ## The model -/

namespace Model

theorem lacks_registration (collection : Collection) (language : Language) :
    Lacks '\n' (registration collection language) := by
  have pascal : Lacks '\n' (Naming.pascal collection.label) := lacks_pascal collection
  have name : Lacks '\n' (interfaceName collection.label) := by
    simp [Lacks, interfaceName, pascal]
  have schema : Lacks '\n' (schemaName collection) := by simp [Lacks, schemaName]
  unfold registration
  cases language <;> simp [Lacks, name, schema]

theorem registration_ne_empty (collection : Collection) (language : Language) :
    registration collection language ≠ "" := by
  have ends {front behind : String} (some : behind ≠ "") : front ++ behind ≠ "" := by simp [some]
  unfold registration
  exact ends (by decide)

theorem found_exported {name value : String} (solid : Text.IsSolid name)
    (plainValue : Lacks '\n' value) (some : value ≠ "") :
    found exportedName? (Constant.fragments { name, value, exported := true }) = [name] := by
  have plainName : Lacks '\n' name := lacks_of_isSolid solid (by decide)
  have head (start : String) : Constant.head { name, value, exported := true } start
      = "export const " ++ name ++ " " ++ ("= " ++ start) := by
    simp [Constant.head, exportWord, annotated, ← String.toList_inj]
  have plainHead : Lacks '\n' (Constant.head { name, value, exported := true } "") := by
    rw [head]
    simp [Lacks, plainName]
  rw [found_constant plainHead plainValue some, head, String.append_assoc,
    exportedName?_declared (lacks_of_isSolid solid (by decide))]
  rfl

/-- Field names can hold anything, but the model itself is exported last. -/
theorem getLast?_scan_exportedName? (collection : Collection) (language : Language) :
    (scan exportedName? (sourceFile collection language).render).getLast?
      = some collection.pascal := by
  have found := found_exported (Naming.isSolid_pascal collection.label)
    (lacks_registration collection language) (registration_ne_empty collection language)
  rw [scan_sourceFile (skipsBlocks_exportedName?).nothing, sourceFile]
  simp only [List.flatMap_cons, List.flatMap_nil, List.append_nil, Statement.fragments]
  rw [← List.append_assoc, ← List.append_assoc, ← List.append_assoc, Collection.pascal, found,
    List.getLast?_concat]

end Model

/-! ## The route -/

namespace Route

variable (collection : Collection) (config : Config)

theorem isSolid_imports (isProtected : Bool) :
    ∀ statement ∈ imports collection isProtected, IsSolidImport statement := by
  have camel : Text.IsSolid collection.camel := Naming.isSolid_camel _
  have source : Text.IsSolid ("../controllers/" ++ Controller.moduleName collection) :=
    Text.IsSolid.append (.of_all (by decide))
      ((camel.append (.of_all (by decide))).append (.of_all (by decide)))
  have handlers : ∀ name ∈ handlerNames collection, Text.IsSolid name :=
    List.forall_mem_map.mpr fun operation _ => isSolid_handlerName operation collection
  have router : IsSolidImport { source := "express", named := ["Router"] } :=
    .named (List.cons_ne_nil _ _) (List.forall_mem_singleton.mpr (.of_all (by decide)))
      (.of_all (by decide))
  have gate : IsSolidImport { source := "../middleware/auth.js", named := [gateName] } :=
    .named (List.cons_ne_nil _ _) (List.forall_mem_singleton.mpr (.of_all (by decide)))
      (.of_all (by decide))
  simp only [imports, List.forall_mem_append, List.forall_mem_singleton]
  refine ⟨⟨router, ?_⟩, .named (List.cons_ne_nil _ _) handlers source⟩
  split
  · exact List.forall_mem_singleton.mpr gate
  · exact List.forall_mem_nil _

theorem lacks_collectionRemarks :
    ∀ line ∈ collectionRemarks collection config, Lacks '\n' line := by
  rw [collectionRemarks]
  split
  · exact lacks_openApiLines collection _ (lacks_routePath collection) _
  · exact List.forall_mem_singleton.mpr (by simp [Lacks])

theorem lacks_recordRemarks : ∀ line ∈ recordRemarks collection config, Lacks '\n' line := by
  rw [recordRemarks]
  split
  · exact lacks_openApiLines collection _ (by simp [Lacks]) _
  · exact List.forall_mem_singleton.mpr (by simp [Lacks])

theorem isSolid_handlers (isProtected : Bool) (operation : Operation) :
    ∀ name ∈ handlers collection isProtected operation, Text.IsSolid name := by
  have gate : Text.IsSolid gateName := .of_all (by decide)
  have handler := isSolid_handlerName operation collection
  cases isProtected with
  | false => exact List.forall_mem_singleton.mpr handler
  | true => exact List.forall_mem_cons.mpr ⟨gate, List.forall_mem_singleton.mpr handler⟩

theorem lacks_callText (isProtected : Bool) (operation : Operation) :
    Lacks '\n' (call collection isProtected operation).text := by
  have names : ∀ name ∈ handlers collection isProtected operation, Lacks '\n' name :=
    fun name isName =>
      lacks_of_isSolid (isSolid_handlers collection isProtected operation name isName) (by decide)
  have parts : (call collection isProtected operation).text
      = "." ++ operation.verb.name ++ "("
        ++ ", ".intercalate (handlers collection isProtected operation) ++ ")" := rfl
  simp +contextual [Lacks, parts, names]

/-- A call has arguments, and they are told apart by the spaces between them. -/
theorem isReadable_call (isProtected : Bool) (operation : Operation) :
    Lacks '(' (call collection isProtected operation).method ∧
      (call collection isProtected operation).arguments ≠ [] ∧
      ∀ argument ∈ (call collection isProtected operation).arguments, Lacks ' ' argument := by
  refine ⟨?_, by simp [call, handlers], fun name isName => ?_⟩
  · cases operation <;> simp [call, Lacks, Operation.verb, Verb.name]
  · exact lacks_of_isSolid (isSolid_handlers collection isProtected operation name isName)
      (by decide)

theorem lacks_callLine (isProtected : Bool) (operation : Operation) {ending : String}
    (isEnding : ending = "" ∨ ending = ";") :
    Lacks '\n' ("  " ++ ((call collection isProtected operation).text ++ ending)) := by
  have plain := lacks_callText collection isProtected operation
  rcases isEnding with rfl | rfl <;> simp [Lacks, plain]

/-- The calls of a chain with `ending` behind the last of them. -/
theorem scan_call (isProtected : Bool) (operation : Operation) {ending : String}
    (isEnding : ending = "" ∨ ending = ";") :
    scan routerLine? ("  " ++ ((call collection isProtected operation).text ++ ending))
      = [.call operation.verb.name (operation.handlerName collection)] := by
  rcases isReadable_call collection isProtected operation with ⟨method, some, whole⟩
  rw [scan_plain (lacks_callLine collection isProtected operation isEnding),
    routerLine?_call _ isEnding method some whole]
  simp [call, handlers]

theorem scan_calls (isProtected : Bool) (operations : List Operation) :
    ((ended ((operations.map (call collection isProtected)).map Call.text)).flatMap
        fun text => scan routerLine? ("  " ++ text))
      = operations.map fun operation =>
          .call operation.verb.name (operation.handlerName collection) := by
  rw [List.map_map]
  exact flatMap_ended fun operation _ _ isEnding =>
    scan_call collection isProtected operation isEnding

theorem scan_chainedCalls (isProtected : Bool) (operations : List Operation) :
    ((ended ((operations.map (call collection isProtected)).map Call.text)).flatMap
        fun text => scan chainedCall? ("  " ++ text))
      = operations.map (call collection isProtected) := by
  rw [List.map_map]
  refine flatMap_ended fun operation _ _ isEnding => ?_
  rcases isReadable_call collection isProtected operation with ⟨method, some, whole⟩
  rw [Function.comp_apply, scan_plain (lacks_callLine collection isProtected operation isEnding)]
  exact congrArg Option.toList (chainedCall?_call _ isEnding method some whole)

variable (isProtected : Bool) (path : String) (operations : List Operation) (remarks : List String)

theorem head_chain :
    (chain collection isProtected path operations remarks).head
      = "router.route(" ++ "\"" ++ path ++ "\"" ++ ")" := by
  simp [chain, Chain.head, ← String.toList_inj]

theorem lacks_head {path : String} (plainPath : Lacks '\n' path) :
    Lacks '\n' ("router.route(" ++ "\"" ++ path ++ "\"" ++ ")") := by
  simpa [Lacks] using plainPath

theorem found_chain_routerLine? (plainPath : Lacks '\n' path) (some : operations ≠ [])
    (plainRemarks : ∀ line ∈ remarks, Lacks '\n' line) :
    found routerLine? (chain collection isProtected path operations remarks).fragments
      = .route path :: operations.map fun operation =>
          .call operation.verb.name (operation.handlerName collection) := by
  rw [found_chain skipsComments_routerLine? plainRemarks (by simpa [chain] using some),
    head_chain, scan_plain (lacks_head plainPath), routerLine?_route]
  exact congrArg (_ :: ·) (scan_calls collection isProtected operations)

theorem found_chain_chainedCall? (plainPath : Lacks '\n' path) (some : operations ≠ [])
    (plainRemarks : ∀ line ∈ remarks, Lacks '\n' line) :
    found chainedCall? (chain collection isProtected path operations remarks).fragments
      = operations.map (call collection isProtected) := by
  rw [found_chain skipsComments_chainedCall? plainRemarks (by simpa [chain] using some),
    head_chain, scan_eq_nil (lacks_head plainPath) (chainedCall?_eq_none (by simp)),
    List.nil_append]
  exact scan_chainedCalls collection isProtected operations

theorem lacks_of_mem_ended {texts : List String} (plain : ∀ text ∈ texts, Lacks '\n' text) :
    ∀ text ∈ ended texts, Lacks '\n' text := by
  induction texts with
  | nil => exact List.forall_mem_nil _
  | cons text rest induction =>
      rw [List.forall_mem_cons] at plain
      cases rest with
      | nil => exact List.forall_mem_singleton.mpr (by simp [Lacks, plain.1])
      | cons text' rest => exact List.forall_mem_cons.mpr ⟨plain.1, induction plain.2⟩

/-- Nothing is found in the calls by who passes over indented lines. -/
theorem scan_calls_eq_nil {α : Type} {read : String → Option α} (indented : Skips read "  ") :
    ((ended ((operations.map (call collection isProtected)).map Call.text)).flatMap
        fun text => scan read ("  " ++ text)) = [] := by
  have plain : ∀ text ∈ ended ((operations.map (call collection isProtected)).map Call.text),
      Lacks '\n' text := by
    refine lacks_of_mem_ended ?_
    rw [List.map_map]
    exact List.forall_mem_map.mpr fun operation _ => lacks_callText collection isProtected operation
  rw [List.flatMap_eq_nil_iff]
  exact fun text isText => scan_eq_nil (by simp [Lacks, plain text isText]) (indented text)

theorem found_chain_readImport? (plainPath : Lacks '\n' path) (some : operations ≠ [])
    (plainRemarks : ∀ line ∈ remarks, Lacks '\n' line) :
    found readImport? (chain collection isProtected path operations remarks).fragments = [] := by
  have skips : SkipsBlocks readImport? := skipsBlocks_readImport?
  rw [found_chain skips.toSkipsComments plainRemarks (by simpa [chain] using some),
    head_chain, scan_eq_nil (lacks_head plainPath) (readImport?_eq_none (by simp)), List.nil_append]
  exact scan_calls_eq_nil collection isProtected operations skips.indented

theorem found_rest {α : Type} {read : String → Option α} (declared : Skips read "const router")
    (exported : Skips read "export default") :
    found read [.line "const router = Router();"] = [] ∧
      found read (Export.fragments { default := some "router" }) = [] := by
  have plain : Lacks '\n' "const router = Router();" ∧ Lacks '\n' "export default router;" := by
    simp [Lacks]
  rw [found_line]
  refine ⟨scan_eq_nil plain.1 (declared " = Router();"), ?_⟩
  exact (found_line _).trans (scan_eq_nil plain.2 (exported " router;"))

/-- What is read in its chains of calls is all that is read in a route. -/
theorem scan_chains {α : Type} {read : String → Option α} (nothing : read "" = none)
    (skipsImports : Skips read "import ") (declared : Skips read "const router")
    (exported : Skips read "export default") :
    scan read (sourceFile collection config).render
      = found read (chain collection (config.has .auth) "/" Operation.onCollection
            (collectionRemarks collection config)).fragments
        ++ found read (chain collection (config.has .auth) "/:id" Operation.onRecord
            (recordRemarks collection config)).fragments := by
  have imports := found_imports_eq_nil skipsImports
    (isSolid_imports collection (config.has .auth))
  rcases found_rest declared exported with ⟨declared, exported⟩
  rw [scan_sourceFile nothing, sourceFile]
  simp only [imports, List.flatMap_cons, List.flatMap_nil, List.append_nil, List.nil_append,
    Statement.fragments, declared, exported]

/-- The router has its two routes and nothing else. -/
theorem scan_routerLine? :
    scan routerLine? (sourceFile collection config).render
      = [.route "/",
         .call "get" (Operation.listAll.handlerName collection),
         .call "post" (Operation.create.handlerName collection),
         .route "/:id",
         .call "get" (Operation.getOne.handlerName collection),
         .call "put" (Operation.update.handlerName collection),
         .call "delete" (Operation.delete.handlerName collection)] := by
  have skips (start : String) (notRouter : ∀ rest, ¬ "router".toList <+: (start ++ rest).toList)
      (notCall : ∀ rest, ¬ "  .".toList <+: (start ++ rest).toList) : Skips routerLine? start :=
    fun rest => routerLine?_eq_none (notRouter rest) (notCall rest)
  rw [scan_chains collection config (routerLine?_eq_none (by simp) (by simp))
      (skips _ (by simp) (by simp)) (skips _ (by simp) (by simp)) (skips _ (by simp) (by simp)),
    found_chain_routerLine? _ _ _ _ _ (by simp [Lacks]) (by decide)
      (lacks_collectionRemarks collection config),
    found_chain_routerLine? _ _ _ _ _ (by simp [Lacks]) (by decide)
      (lacks_recordRemarks collection config)]
  rfl

/-- All calls of a router, with all their arguments. -/
theorem scan_chainedCall? :
    scan chainedCall? (sourceFile collection config).render
      = (Operation.onCollection ++ Operation.onRecord).map
          (call collection (config.has .auth)) := by
  rw [scan_chains collection config (chainedCall?_eq_none (by simp))
      (fun _ => chainedCall?_eq_none (by simp)) (fun _ => chainedCall?_eq_none (by simp))
      (fun _ => chainedCall?_eq_none (by simp)),
    found_chain_chainedCall? _ _ _ _ _ (by simp [Lacks]) (by decide)
      (lacks_collectionRemarks collection config),
    found_chain_chainedCall? _ _ _ _ _ (by simp [Lacks]) (by decide)
      (lacks_recordRemarks collection config), List.map_append]

theorem scan_readImport? :
    scan readImport? (sourceFile collection config).render
      = imports collection (config.has .auth) := by
  have skips : SkipsBlocks readImport? := skipsBlocks_readImport?
  rcases found_rest (fun _ => readImport?_eq_none (by simp))
    (fun _ => readImport?_eq_none (by simp)) with ⟨declared, exported⟩
  rw [scan_sourceFile skips.nothing, sourceFile,
    found_imports (isSolid_imports collection (config.has .auth))]
  simp only [List.flatMap_cons, List.flatMap_nil, List.append_nil, List.nil_append,
    Statement.fragments, declared, exported]
  rw [found_chain_readImport? _ _ _ _ _ (by simp [Lacks]) (by decide)
      (lacks_collectionRemarks collection config),
    found_chain_readImport? _ _ _ _ _ (by simp [Lacks]) (by decide)
      (lacks_recordRemarks collection config)]
  simp only [List.append_nil]

end Route

end SchemaScaffold
