import SchemaScaffold.Proofs.Json.Values
import SchemaScaffold.Proofs.Project.ReadSources
import SchemaScaffold.StandaloneSchema

/-! The lists of the fields whose values are ids. The hooks of both schemas of a
collection loop over one, and its controller declares one: they are the same text,
and as JSON this text is the names of the fields. Names of fields may hold anything,
also line feeds, and then the declaration of a schema may look like a hook. Nothing
behind the hook does, so the last one that is found is the schema's own. -/

namespace SchemaScaffold

open Code

/-! ## Lists of names as JSON -/

namespace Json.Reader

variable {rest : List Char} {limit depth : Nat}

/-- String literals behind commas, with a blank after each comma. -/
def listedLiterals (texts : List String) : List Char :=
  texts.flatMap fun text => ',' :: ' ' :: literalChars text.toList

theorem literalChars_append_eq (text : List Char) :
    literalChars text ++ rest = '"' :: (text.flatMap escapedChar ++ '"' :: rest) := by
  simp [literalChars]

theorem reads_literal {text : String} (long : text.toList.length < limit) :
    (value limit depth).Reads (literalChars text.toList ++ rest) (.string text) rest := by
  have reads (nested : Option (Reader Value)) :
      (valueWith limit nested).Reads (literalChars text.toList ++ rest) (.string text) rest := by
    rw [literalChars_append_eq]
    apply (reads_peekToken (c := '"') rfl).bind
    exact reads_advance.bind ((reads_string long).bind (reads_pure _))
  cases depth with
  | zero => exact reads none
  | succ depth => exact reads (some (value limit depth))

/-- Behind a comma, blanks in front of the next item are passed over. -/
theorem reads_hasItem_spaced {c : Char} (starts : StartsItem c) :
    (hasItem false).Reads (',' :: ' ' :: c :: rest) true (c :: rest) := by
  have blank : IsBlankText [' '] := by simp [IsBlankText, Cursor.isBlank]
  have spaced : peekToken.Reads (' ' :: c :: rest) (some c) (c :: rest) :=
    skipsBlanks_peekToken.reads blank (reads_peekToken starts.1)
  apply (reads_peekToken (c := ',') rfl).bind
  apply reads_advance.bind
  apply spaced.bind
  obtain ⟨_, _, notListEnd, _⟩ := starts
  simp only
  exact reads_pure true

theorem reads_items_listedLiterals {texts : List String} {textLimit : Nat}
    (long : ∀ text ∈ texts, text.toList.length < textLimit) (more : texts.length < limit) :
    (items (value textLimit depth) false limit).Reads (listedLiterals texts ++ ']' :: rest)
      (texts.map .string) (']' :: rest) := by
  induction texts generalizing limit with
  | nil =>
      cases limit with
      | zero => cases more
      | succ limit => exact reads_hasItem_end.bind (reads_pure [])
  | cons text others induction =>
      rw [List.forall_mem_cons] at long
      cases limit with
      | zero => cases more
      | succ limit =>
          have parts : listedLiterals (text :: others) ++ ']' :: rest
              = ',' :: ' ' :: '"' :: (text.toList.flatMap escapedChar
                ++ '"' :: (listedLiterals others ++ ']' :: rest)) := by
            simp [listedLiterals, literalChars]
          rw [parts]
          apply (reads_hasItem_spaced (by decide)).bind
          rw [← literalChars_append_eq]
          exact (reads_literal long.1).bind
            ((induction long.2 (Nat.lt_of_succ_lt_succ more)).bind (reads_pure _))

theorem reads_items_literals {first : String} {others : List String} {textLimit : Nat}
    (long : ∀ text ∈ first :: others, text.toList.length < textLimit)
    (more : others.length + 1 < limit) :
    (items (value textLimit depth) true limit).Reads
      (literalChars first.toList ++ (listedLiterals others ++ ']' :: rest))
      ((first :: others).map .string) (']' :: rest) := by
  rw [List.forall_mem_cons] at long
  cases limit with
  | zero => cases more
  | succ limit =>
      have opens (behind : List Char) : (hasItem true).Reads ('"' :: behind) true ('"' :: behind) :=
        reads_hasItem (by decide)
      rw [literalChars_append_eq]
      apply (opens _).bind
      rw [← literalChars_append_eq]
      exact (reads_literal long.1).bind
        ((reads_items_listedLiterals long.2 (Nat.lt_of_succ_lt_succ more)).bind (reads_pure _))

end Json.Reader

namespace Json

/-- The literals of some texts, in the brackets of a list. -/
theorem toList_literals (first : String) (others : List String) :
    (", ".intercalate ((first :: others).map stringLiteral)).toList
      = literalChars first.toList ++ Reader.listedLiterals others := by
  induction others generalizing first with
  | nil => simp [stringLiteral, Reader.listedLiterals]
  | cons second others induction =>
      rw [List.map_cons, List.map_cons, String.intercalate_cons_cons, String.toList_append,
        ← List.map_cons, induction]
      simp [stringLiteral, Reader.listedLiterals]

theorem length_le_literal (text : String) :
    text.toList.length ≤ (literalChars text.toList).length := by
  have escaped := Value.length_le_escaped text.toList
  simp only [literalChars, List.length_append, List.length_cons]
  omega

theorem length_listedLiterals (texts : List String) :
    texts.length ≤ (Reader.listedLiterals texts).length ∧
      ∀ text ∈ texts, text.toList.length ≤ (Reader.listedLiterals texts).length := by
  induction texts with
  | nil => simp
  | cons text others induction =>
      obtain ⟨count, lengths⟩ := induction
      have here := length_le_literal text
      simp only [Reader.listedLiterals, List.flatMap_cons, List.length_append, List.length_cons,
        List.forall_mem_cons] at count lengths ⊢
      refine ⟨by omega, by omega, fun other isOther => ?_⟩
      have bound := lengths other isOther
      omega

theorem ofText_nameArray (names : List String) :
    Value.ofText (Schema.nameArray names) = .ok (.array (names.map .string)) := by
  let inner := (", ".intercalate (names.map stringLiteral)).toList
  have chars : (Schema.nameArray names).toList = '[' :: (inner ++ [']']) := by
    simp [Schema.nameArray, inner]
  have read : (Reader.items (Reader.value (inner.length + 3) 126) true (inner.length + 3)).Reads
      (inner ++ [']']) (names.map .string) [']'] := by
    cases names with
    | nil => exact Reader.reads_hasItem_end.bind (Reader.reads_pure [])
    | cons first others =>
        have text : inner = literalChars first.toList ++ Reader.listedLiterals others :=
          toList_literals first others
        obtain ⟨count, lengths⟩ := length_listedLiterals others
        have here := length_le_literal first
        rw [text, List.append_assoc, List.length_append]
        apply Reader.reads_items_literals
        · rw [List.forall_mem_cons]
          refine ⟨by omega, fun other isOther => ?_⟩
          have bound := lengths other isOther
          omega
        · omega
  apply Reader.run_of_reads
  rw [chars, List.length_cons, List.length_append, List.length_singleton]
  apply (Reader.reads_peekToken (c := '[') rfl).bind
  apply Reader.reads_advance.bind
  exact read.bind (Reader.reads_endList.bind (Reader.reads_pure _))

end Json

namespace Code

/-! ## Lists in the lines of a file -/

/-- A line of a hook on saving. -/
inductive HookLine where
  /-- The hook of a schema starts. -/
  | opens (schema : String)
  | loops (list : String)
deriving DecidableEq

def hookLine? (line : String) : Option HookLine :=
  match (after? "  for (const field of " line).bind (before? ") \x7b") with
  | some list => some (.loops list)
  | none => (before? ".pre(\"save\", function (next) \x7b" line).map .opens

/-- The lists that hooks loop over, each with the schema that the hook belongs to. -/
def hookLists : List HookLine → List (String × String)
  | [] => []
  | .opens schema :: .loops list :: rest => (schema, list) :: hookLists rest
  | _ :: rest => hookLists rest

/-- The list that a line declares, with its type or without. -/
def referenceList? (line : String) : Option String :=
  match after? "const referenceFields: string[] = " line with
  | some rest => before? ";" rest
  | none => (after? "const referenceFields = " line).bind (before? ";")

theorem hookLists_concat (front : List HookLine) (schema list : String) :
    hookLists (front ++ [.opens schema, .loops list]) = hookLists front ++ [(schema, list)] := by
  fun_induction hookLists front with
  | case1 => rfl
  | case2 schema' list' rest induction => simp [hookLists, induction]
  | case3 first rest apart induction =>
      cases first with
      | loops list' => simpa [hookLists] using induction
      | opens schema' =>
          cases rest with
          | nil => rfl
          | cons second others =>
              cases second with
              | loops list' => exact (apart schema' list' others rfl rfl).elim
              | opens schema'' => simpa [hookLists] using induction

theorem hookLine?_opens {schema : String} (whole : Lacks ' ' schema) :
    hookLine? (schema ++ ".pre(\"save\", function (next) \x7b") = some (.opens schema) := by
  have notLoop : after? "  for (const field of "
      (schema ++ ".pre(\"save\", function (next) \x7b") = none := by
    apply after?_eq_none
    rw [String.toList_append]
    cases chars : schema.toList with
    | nil => simp
    | cons c others =>
        have notBlank : ' ' ≠ c := by
          rintro rfl
          exact whole (by simp [chars])
        simp [notBlank]
  rw [hookLine?, notLoop, before?_append]
  rfl

theorem hookLine?_loops (list : String) :
    hookLine? ("  for (const field of " ++ (list ++ ") \x7b")) = some (.loops list) := by
  rw [hookLine?, after?_append, Option.bind_some, before?_append]

theorem hookLine?_ended {front : String}
    (notLoop : ¬ "  for (const field of ".toList <+: (front ++ ";").toList) :
    hookLine? (front ++ ";") = none := by
  have ends : (front ++ ";").toList.getLast? = some ';' := by
    rw [String.toList_append, List.getLast?_append]
    rfl
  have notHook : before? ".pre(\"save\", function (next) \x7b" (front ++ ";") = none :=
    before?_eq_none (c := '\x7b') (by decide) (by rw [ends]; decide)
  rw [hookLine?, after?_eq_none notLoop, notHook]
  rfl

end Code

namespace Schema

theorem found_hook {schema : String} (solid : Text.IsSolid schema) (collection : Collection)
    (isTyped : Bool) :
    found hookLine? (hook schema collection isTyped)
      = [.opens schema, .loops (nameArray collection.idFields)] := by
  let opening := schema ++ ".pre(\"save\", function (next) \x7b"
  let loop := "  for (const field of " ++ (nameArray collection.idFields ++ ") \x7b")
  let remark := ["// Forms submit empty selects as \"\"; store those references as null"]
  let document :=
    ["  const " ++ annotated "doc" (if isTyped then some "any" else none) ++ " = this;"]
  let behind :=
    ["    if (doc[field] === \"\") \x7b", "      doc[field] = null;", "    \x7d", "  \x7d",
     "  next();", "\x7d);"]
  have lines : linesAt 0 (hook schema collection isTyped)
      = remark ++ [opening] ++ document ++ [loop] ++ behind := by
    simp [remark, opening, document, loop, behind, hook, linesAt, rowsOf, Fragment.rows,
      Fragment.braced, Row.line, Row.indentation, Row.unit, ← String.toList_inj]
  have ofRemark : remark.flatMap (scan hookLine?) = [] := by decide +kernel
  have ofDocument : document.flatMap (scan hookLine?) = [] := by
    cases isTyped <;> decide +kernel
  have ofBehind : behind.flatMap (scan hookLine?) = [] := by decide +kernel
  have ofOpening : scan hookLine? opening = [.opens schema] := by
    have plain : Lacks '\n' schema := lacks_of_isSolid solid (by decide)
    rw [scan_plain (by simp [opening, Lacks, plain]),
      hookLine?_opens (lacks_of_isSolid solid (by decide))]
    rfl
  have ofLoop : scan hookLine? loop = [.loops (nameArray collection.idFields)] := by
    have plain : Lacks '\n' (nameArray collection.idFields) := by simp [nameArray, Lacks]
    rw [scan_plain (by simp [loop, Lacks, plain]), hookLine?_loops]
    rfl
  have found_eq : found hookLine? (hook schema collection isTyped)
      = (linesAt 0 (hook schema collection isTyped)).flatMap (scan hookLine?) :=
    (List.flatMap_map ..).symm
  rw [found_eq, lines]
  simp only [List.flatMap_append, List.flatMap_singleton, ofRemark, ofOpening, ofDocument, ofLoop,
    ofBehind]
  rfl

end Schema

/-! ## The files of a collection -/

/-- No exported constant is a line of a hook. -/
theorem found_exported_hookLine? {constant : Constant} (exported : constant.exported = true)
    (plainName : Lacks '\n' (annotated constant.name constant.type))
    (plainValue : Lacks '\n' constant.value) (some : constant.value ≠ "") :
    found hookLine? constant.fragments = [] := by
  have head (value : String) : constant.head value
      = "export const " ++ (annotated constant.name constant.type ++ " = " ++ value) := by
    simp [Constant.head, exported, exportWord, ← String.toList_inj]
  have plainHead : Lacks '\n' (constant.head "") := by
    rw [head]
    simp [Lacks, plainName]
  rw [found_constant plainHead plainValue some, hookLine?_ended (by simp [head])]
  rfl

namespace Model

theorem getLast?_hookLists (collection : Collection) (language : Language) :
    (hookLists (scan hookLine? (artifact collection language).content)).getLast?
      = some (schemaName collection, Schema.nameArray collection.idFields) := by
  have solid : Text.IsSolid (schemaName collection) :=
    (Naming.isSolid_pascal collection.label).append (.of_all (by decide))
  have constant : found hookLine? (Constant.fragments
      { name := collection.pascal
        value := registration collection language
        exported := true }) = [] :=
    found_exported_hookLine? rfl (lacks_pascal collection) (lacks_registration collection language)
      (registration_ne_empty collection language)
  rw [artifact, scan_sourceFile (by decide +kernel), sourceFile]
  simp only [List.flatMap_cons, List.flatMap_nil, List.append_nil, Statement.fragments, constant,
    Schema.found_hook solid]
  rw [← List.append_assoc, ← List.append_assoc, hookLists_concat, List.getLast?_concat]

end Model

namespace StandaloneSchema

theorem isSolid_schemaName (collection : Collection) : Text.IsSolid (schemaName collection) :=
  (Naming.isSolid_pascal collection.label).append (.of_all (by decide))

theorem found_exports (collection : Collection) (moduleSystem : ModuleSystem) :
    ((untypedFile collection moduleSystem).exports.flatMap
      fun statement => found hookLine? statement.fragments) = [] := by
  have arguments := lacks_registrationArguments collection
  have plain : Lacks '\n' (registration collection) := by simp [Lacks, registration, arguments]
  have nothing {start : String} (plainStart : Lacks '\n' start)
      (notLoop : ¬ "  for (const field of ".toList
        <+: (start ++ registration collection ++ ";").toList) :
      found hookLine? [.line (start ++ registration collection ++ ";")] = [] := by
    rw [found_line, scan_eq_nil (by simp [Lacks, plainStart, plain]) (hookLine?_ended notLoop)]
  cases moduleSystem with
  | commonJs =>
      have line : Export.fragments { moduleValue := some (registration collection) }
          = [.line ("module.exports = " ++ registration collection ++ ";")] := rfl
      rw [untypedFile, List.flatMap_singleton, line, nothing (by simp [Lacks]) (by simp)]
  | esModule =>
      have line : Export.fragments { default := some (registration collection) }
          = [.line ("export default " ++ registration collection ++ ";")] := rfl
      rw [untypedFile, List.flatMap_singleton, line, nothing (by simp [Lacks]) (by simp)]

theorem getLast?_hookLists (collection : Collection) (moduleSystem : ModuleSystem)
    (language : Language) :
    (hookLists (scan hookLine? (artifact collection moduleSystem language).content)).getLast?
      = some (schemaName collection, Schema.nameArray collection.idFields) := by
  have nothing : hookLine? "" = none := rfl
  have hooked := Schema.found_hook (isSolid_schemaName collection) collection
  rw [artifact, scan_sourceFile nothing]
  cases language with
  | typeScript =>
      have arguments := lacks_registrationArguments collection
      have type : Lacks '\n' (annotated collection.pascal
          (some ("mongoose.Model<" ++ collection.pascal ++ ">"))) := by simp [Lacks, annotated]
      have constant : found hookLine? (Constant.fragments
          { name := collection.pascal
            value := "mongoose.model<" ++ collection.pascal ++ ">"
              ++ registrationArguments collection
            type := some ("mongoose.Model<" ++ collection.pascal ++ ">")
            exported := true }) = [] :=
        found_exported_hookLine? rfl type (by simp [Lacks, arguments]) (by simp)
      simp only [sourceFile, typedFile, hook, List.flatMap_cons, List.flatMap_nil, List.append_nil,
        Statement.fragments, constant, hooked]
      rw [← List.append_assoc, ← List.append_assoc, hookLists_concat, List.getLast?_concat]
  | javaScript =>
      have exports := found_exports collection moduleSystem
      simp only [sourceFile, exports, List.append_nil]
      simp only [untypedFile, hook, List.flatMap_cons, List.flatMap_nil, List.append_nil,
        Statement.fragments, hooked]
      rw [← List.append_assoc, hookLists_concat, List.getLast?_concat]

end StandaloneSchema

namespace Controller

theorem referenceList?_eq_none {line : String}
    (notTyped : ¬ "const referenceFields: string[] = ".toList <+: line.toList)
    (notUntyped : ¬ "const referenceFields = ".toList <+: line.toList) :
    referenceList? line = none := by
  rw [referenceList?, after?_eq_none notTyped, after?_eq_none notUntyped]
  rfl

theorem skipsBlocks_referenceList? : SkipsBlocks referenceList? where
  opening _ := referenceList?_eq_none (by simp) (by simp)
  inside _ := referenceList?_eq_none (by simp) (by simp)
  nothing := rfl
  indented _ := referenceList?_eq_none (by simp) (by simp)
  closing _ := referenceList?_eq_none (by simp) (by simp)

theorem referenceList?_declared (isTyped : Bool) (list : String) :
    referenceList? ("const "
      ++ (annotated "referenceFields" (if isTyped then some "string[]" else none)
        ++ " = " ++ list ++ ";")) = some list := by
  cases isTyped with
  | true =>
      have parts : "const "
          ++ (annotated "referenceFields" (some "string[]") ++ " = " ++ list ++ ";")
          = "const referenceFields: string[] = " ++ (list ++ ";") := by
        simp [annotated, ← String.toList_inj]
      simp only [if_true, parts, referenceList?, after?_append, before?_append]
  | false =>
      have parts : "const " ++ (annotated "referenceFields" none ++ " = " ++ list ++ ";")
          = "const referenceFields = " ++ (list ++ ";") := by
        simp [annotated, ← String.toList_inj]
      have notTyped : after? "const referenceFields: string[] = "
          ("const referenceFields = " ++ (list ++ ";")) = none := after?_eq_none (by simp)
      simp only [Bool.false_eq_true, if_false, parts, referenceList?, notTyped, after?_append,
        Option.bind_some, before?_append]

theorem scan_referenceList? (collection : Collection) (language : Language) :
    scan referenceList? (artifact collection language).content
      = [Schema.nameArray collection.idFields] := by
  have skips := skipsBlocks_referenceList?
  have skipsHelper : Skips referenceList? "const normalizeReferences" :=
    fun _ => referenceList?_eq_none (by simp) (by simp)
  have imports := found_imports_eq_nil (fun _ => referenceList?_eq_none (by simp) (by simp))
    (isSolid_imports collection language.isTyped)
  have helper := found_normalizeReferences language.isTyped skips skipsHelper
  have handlerFound (operation : Operation) :
      found referenceList? (handler collection language.isTyped operation).fragments = [] := by
    rw [found_handler collection language.isTyped skips, referenceList?_eq_none]
    · rfl
    · simp [handler, Function.signature, exportWord]
    · simp [handler, Function.signature, exportWord]
  rw [artifact, scan_sourceFile skips.nothing, sourceFile]
  simp only [imports, List.flatMap_cons, List.flatMap_map, Statement.fragments, helper,
    handlerFound, found_referenceFields_eq, referenceList?_declared, List.flatMap_nil]
  simp

end Controller

/-! ## The lists agree -/

namespace Field

/-- The value is the id of a document, and the field is declared. -/
def StoresId (field : Field) : Prop :=
  field.name ≠ "_id" ∧ (field.kind = .ref ∨ field.kind = .primary)

instance (field : Field) : Decidable field.StoresId := inferInstanceAs (Decidable (_ ∧ _))

end Field

namespace Schema

theorem holdsId_iff {kind : FieldKind} :
    kind.holdsId = true ↔ kind = .ref ∨ kind = .primary := by
  cases kind <;> simp [FieldKind.holdsId]

theorem idFields_eq (collection : Collection) :
    collection.idFields = (collection.fields.filter (·.StoresId)).map Field.name := by
  rw [Collection.idFields, Collection.declared, List.filter_filter]
  congr 2
  funext field
  rw [Bool.eq_iff_iff, Bool.and_eq_true, decide_eq_true_iff, Field.StoresId, ← holdsId_iff,
    And.comm (a := field.kind.holdsId = true)]
  simp [Field.isIdentity, Field.identityName]

/-- What the three files of a collection in one language list as references. -/
structure ListsReferences (collection : Collection) (language : Language)
    (moduleSystem : ModuleSystem) (list : String) : Prop where
  model : (hookLists (scan hookLine? (Model.artifact collection language).content)).getLast?
    = some (Model.schemaName collection, list)
  standalone :
    (hookLists (scan hookLine?
      (StandaloneSchema.artifact collection moduleSystem language).content)).getLast?
      = some (StandaloneSchema.schemaName collection, list)
  controller : scan referenceList? (Controller.artifact collection language).content = [list]

/-- In every language all three files list the same references, in the order of the
fields and as often as they occur. -/
theorem referenceLists_agree (collection : Collection) :
    ∃ list, (∀ language moduleSystem, ListsReferences collection language moduleSystem list) ∧
      Json.Value.ofText list = .ok (.array
        ((collection.fields.filter (·.StoresId)).map fun field => .string field.name)) := by
  refine ⟨nameArray collection.idFields, fun language moduleSystem => ?_, ?_⟩
  · exact {
      model := Model.getLast?_hookLists collection language
      standalone := StandaloneSchema.getLast?_hookLists collection moduleSystem language
      controller := Controller.scan_referenceList? collection language }
  · rw [Json.ofText_nameArray, idFields_eq, List.map_map]
    rfl

end Schema

end SchemaScaffold
