import SchemaScaffold.Proofs.Code.Reading

/-! What is found in the imports, statements and exports of a file. Reading goes
by how a line starts, so a reader passes over whole kinds of lines: comments,
indented lines and closing brackets. -/

namespace SchemaScaffold.Code

variable {α : Type} {read : String → Option α}

/-- Nothing is found in lines that start so. -/
def Skips (read : String → Option α) (start : String) : Prop :=
  ∀ rest, read (start ++ rest) = none

theorem Skips.longer {start : String} (skips : Skips read start) (further : String) :
    Skips read (start ++ further) := fun rest => by
  rw [String.append_assoc]
  exact skips (further ++ rest)

structure SkipsComments (read : String → Option α) : Prop where
  opening : Skips read "/**"
  inside : Skips read " *"

/-- Only lines at the outermost level are looked at. -/
structure SkipsBlocks (read : String → Option α) : Prop extends SkipsComments read where
  nothing : read "" = none
  indented : Skips read "  "
  closing : Skips read "\x7d"

/-! ## Lines that are passed over -/

theorem scan_eq_nil {text : String} (plain : Lacks '\n' text) (nothing : read text = none) :
    scan read text = [] := by
  rw [scan_plain plain, nothing]
  rfl

/-- What is read on the lines inside of a comment. -/
theorem found_remarks (opening : read "/**" = none) (closing : read " */" = none)
    {lines : List String} (plain : ∀ line ∈ lines, Lacks '\n' line) :
    found read [.remarks lines] = lines.flatMap fun line => (read (remarkLine line)).toList := by
  have inside : ((lines.map fun line => Row.text 0 (remarkLine line)).flatMap
      fun row => scan read row.line) = lines.flatMap fun line => (read (remarkLine line)).toList := by
    induction lines with
    | nil => rfl
    | cons line rest induction =>
        rw [List.forall_mem_cons] at plain
        rw [List.map_cons, List.flatMap_cons, List.flatMap_cons, Row.line_atStart,
          scan_plain (lacks_remarkLine plain.1), induction plain.2]
  rw [found, rowsOf, rowsOf, List.append_nil, Fragment.rows, remarkRows, List.cons_append,
    List.flatMap_cons, List.flatMap_append, inside, List.flatMap_singleton, Row.line_atStart,
    Row.line_atStart,
    scan_eq_nil (by simp [Lacks]) opening, scan_eq_nil (by simp [Lacks]) closing,
    List.nil_append, List.append_nil]

theorem exists_remarkLine_eq (line : String) : ∃ rest, remarkLine line = " *" ++ rest := by
  rw [remarkLine]
  split
  · exact ⟨"", by simp⟩
  · exact ⟨" " ++ line, by simp [← String.toList_inj]⟩

theorem found_comment (skips : SkipsComments read) {lines : List String}
    (plain : ∀ line ∈ lines, Lacks '\n' line) : found read [.remarks lines] = [] := by
  rw [found_remarks (skips.opening "") (skips.inside "/") plain, List.flatMap_eq_nil_iff]
  intro line _
  rcases exists_remarkLine_eq line with ⟨rest, equal⟩
  rw [equal, skips.inside]
  rfl

theorem found_docs (skips : SkipsComments read) {lines : List String}
    (plain : ∀ line ∈ lines, Lacks '\n' line) : found read (Function.docFragments lines) = [] := by
  match lines with
  | [] => rfl
  | [line] =>
      have whole : found read [.remark line] = scan read (remarkText line) := found_line _
      rw [List.forall_mem_singleton] at plain
      have parts : remarkText line = "/**" ++ (" " ++ line ++ " */") := by
        simp [remarkText, ← String.toList_inj]
      rw [Function.docFragments, whole, parts]
      exact scan_eq_nil (by simp [Lacks, plain]) (skips.opening _)
  | line :: line' :: rest => exact found_comment skips plain

theorem arePlain_docFragments {lines : List String} (plain : ∀ line ∈ lines, Lacks '\n' line) :
    ArePlain (Function.docFragments lines) := by
  match lines with
  | [] => trivial
  | [line] => exact ⟨plain line List.mem_cons_self, trivial⟩
  | line :: line' :: rest => exact ⟨plain, trivial⟩

theorem indentation_succ (level : Nat) :
    Row.indentation (level + 1) = "  " ++ Row.indentation level := by
  simp [Row.indentation, Row.unit, List.replicate_succ]

/-- A line of plain fragments below the outermost level. -/
theorem indented_of_mem_rowsOf {level : Nat} {fragments : List Fragment} (plain : ArePlain fragments)
    {row : Row} (isRow : row ∈ rowsOf (level + 1) fragments) :
    Lacks '\n' row.line ∧ (row.line = "" ∨ ∃ rest, row.line = "  " ++ rest) := by
  have single := isPlainFrom_of_mem_rowsOf fragments plain row isRow
  refine ⟨single.lacks_line, ?_⟩
  cases row with
  | blank => exact .inl rfl
  | text own content =>
      rcases Nat.exists_eq_add_of_lt (Nat.lt_of_lt_of_le (Nat.succ_pos level) single.1)
        with ⟨k, rfl⟩
      have deeper : Row.indentation (0 + k + 1) = "  " ++ Row.indentation k := by
        rw [Nat.zero_add, indentation_succ]
      exact .inr ⟨Row.indentation k ++ content, by rw [Row.line, deeper, String.append_assoc]⟩

theorem found_body (nothing : read "" = none) (indented : Skips read "  ") (level : Nat)
    {fragments : List Fragment} (plain : ArePlain fragments) :
    ((rowsOf (level + 1) fragments).flatMap fun row => scan read row.line) = [] := by
  rw [List.flatMap_eq_nil_iff]
  intro row isRow
  rcases indented_of_mem_rowsOf plain isRow with ⟨single, empty | ⟨rest, equal⟩⟩
  · exact scan_eq_nil single (empty ▸ nothing)
  · exact scan_eq_nil single (equal ▸ indented rest)

theorem found_braced (skips : SkipsBlocks read) {header ending : String} {body : List Fragment}
    (plain : ArePlain body) (plainEnding : Lacks '\n' ending) :
    found read [.braced header body ending] = scan read (header ++ "\x7b") := by
  have closing : scan read ("\x7d" ++ ending) = [] :=
    scan_eq_nil (by simp [Lacks, plainEnding]) (skips.closing ending)
  have inside := found_body skips.nothing skips.indented 0 plain
  simp only [found, rowsOf, Fragment.braced, Fragment.rows, List.append_nil, List.cons_append,
    List.flatMap_cons, List.flatMap_append, inside]
  simp [Row.line, Row.indentation, closing]

/-! ## Imports, functions and constants -/

theorem found_import {statement : Import} (isDeclared : statement.moduleSystem = .esModule)
    (plain : Lacks '\n' statement.declaration) :
    found read statement.fragments = (read statement.declaration).toList := by
  rw [Import.fragments, Import.lines, isDeclared, found_lines, List.flatMap_singleton,
    scan_plain plain]

theorem arePlain_function {function : Function} (docs : ∀ line ∈ function.docs, Lacks '\n' line)
    (signature : Lacks '\n' function.signature) (body : ArePlain function.body) :
    ArePlain function.fragments := by
  rw [Function.fragments, arePlain_append]
  exact ⟨arePlain_docFragments docs, isPlain_braced.mpr ⟨signature, body, by simp [Lacks]⟩, trivial⟩

theorem found_function (skips : SkipsBlocks read) {function : Function}
    (plainDocs : ∀ line ∈ function.docs, Lacks '\n' line)
    (plainSignature : Lacks '\n' function.signature) (plainBody : ArePlain function.body) :
    found read function.fragments = (read (function.signature ++ "\x7b")).toList := by
  rw [Function.fragments, found_append, found_docs skips.toSkipsComments plainDocs, List.nil_append,
    found_braced skips plainBody (by simp [Lacks]),
    scan_plain (by simp [Lacks, plainSignature])]

theorem lines_single {line : List Char} (plain : '\n' ∉ line) (some : line ≠ []) :
    Text.lines line = [line] := by
  have noCut : ∀ c ∈ line, (c == '\n') = false := fun c isChar =>
    beq_eq_false_iff_ne.mpr fun equal => plain (equal ▸ isChar)
  have notEmpty : line.isEmpty = false := by simpa using some
  rw [Text.lines, Text.splitWhere_of_no_cut noCut, Text.linesOfPieces, notEmpty]
  rfl

theorem lines_of_plain {text : String} (plain : Lacks '\n' text) (some : text ≠ "") :
    (Text.lines text.toList).map String.ofList = [text] := by
  rw [lines_single plain (by simpa using some)]
  simp

theorem Constant.fragments_of_plain {constant : Constant} (plainValue : Lacks '\n' constant.value)
    (some : constant.value ≠ "") :
    constant.fragments = [.line (constant.head constant.value ++ ";")] := by
  rw [Constant.fragments, Constant.lines, lines_of_plain plainValue some]
  rfl

theorem found_constant {constant : Constant} (plainHead : Lacks '\n' (constant.head ""))
    (plainValue : Lacks '\n' constant.value) (some : constant.value ≠ "") :
    found read constant.fragments = (read (constant.head constant.value ++ ";")).toList := by
  have whole : constant.head constant.value = constant.head "" ++ constant.value := by
    simp [Constant.head]
  have plain : Lacks '\n' (constant.head "" ++ constant.value ++ ";") := by
    simp [Lacks, plainHead, plainValue]
  rw [constant.fragments_of_plain plainValue some, found_line, whole, scan_plain plain]

/-! ## Chains -/

theorem found_indented_lines (texts : List String) :
    found read [.indented (texts.map .line)]
      = texts.flatMap fun text => scan read ("  " ++ text) := by
  simp [found, rowsOf, Fragment.rows, rowsOf_lines, List.flatMap_map, Row.line, Row.indentation,
    Row.unit]

theorem found_chain_eq {chain : Chain} (some : chain.calls ≠ []) :
    found read chain.fragments
      = found read chain.remarkFragments ++ (scan read chain.head
        ++ (ended (chain.calls.map Call.text)).flatMap fun text => scan read ("  " ++ text)) := by
  have calls : chain.calls.isEmpty = false := by simpa using some
  rw [Chain.fragments, found_append, Chain.callFragments, calls]
  simp only [Bool.false_eq_true, if_false]
  rw [found_cons, found_line, found_indented_lines]

theorem found_chain (skips : SkipsComments read) {chain : Chain}
    (plainRemarks : ∀ line ∈ chain.remarks, Lacks '\n' line) (some : chain.calls ≠ []) :
    found read chain.fragments
      = scan read chain.head
        ++ (ended (chain.calls.map Call.text)).flatMap fun text => scan read ("  " ++ text) := by
  have remarks : found read chain.remarkFragments = [] := by
    rw [Chain.remarkFragments]
    split
    · rfl
    · exact found_comment skips plainRemarks
  rw [found_chain_eq some, remarks, List.nil_append]

theorem ended_concat (front : List String) (last : String) :
    ended (front ++ [last]) = front ++ [last ++ ";"] := by
  induction front with
  | nil => rfl
  | cons text rest induction =>
      cases rest with
      | nil => rfl
      | cons text' rest => exact congrArg (text :: ·) induction

/-- What is read on the lines of some items, the last of which is ended. -/
theorem flatMap_ended {items : List β} {textOf : β → String} {valueOf : β → α}
    (reads : ∀ item ∈ items, ∀ ending, ending = "" ∨ ending = ";" →
      scan read ("  " ++ (textOf item ++ ending)) = [valueOf item]) :
    ((ended (items.map textOf)).flatMap fun text => scan read ("  " ++ text))
      = items.map valueOf := by
  induction items with
  | nil => rfl
  | cons item rest induction =>
      rw [List.forall_mem_cons] at reads
      cases rest with
      | nil =>
          simp only [List.map_cons, List.map_nil, ended, List.flatMap_singleton]
          exact reads.1 ";" (.inr rfl)
      | cons item' rest =>
          have line := reads.1 "" (.inl rfl)
          rw [String.append_empty] at line
          have later := induction reads.2
          simp only [List.map_cons, ended, List.flatMap_cons, line] at later ⊢
          rw [later]
          rfl

/-! ## The readers -/

theorem exportedName?_eq_none {line : String}
    (notStart : ¬ "export const ".toList <+: line.toList) : exportedName? line = none := by
  rw [exportedName?, after?_eq_none notStart, Option.map_none]

theorem readImport?_eq_none {line : String} (notStart : ¬ "import ".toList <+: line.toList) :
    readImport? line = none := by
  rw [readImport?, after?_eq_none notStart, Option.bind_none]

theorem routerLine?_eq_none {line : String} (notRouter : ¬ "router".toList <+: line.toList)
    (notCall : ¬ "  .".toList <+: line.toList) : routerLine? line = none := by
  rw [routerLine?, after?_eq_none notRouter, after?_eq_none notCall]
  rfl

theorem skipsBlocks_exportedName? : SkipsBlocks exportedName? where
  opening _ := exportedName?_eq_none (by simp)
  inside _ := exportedName?_eq_none (by simp)
  nothing := exportedName?_eq_none (by simp)
  indented _ := exportedName?_eq_none (by simp)
  closing _ := exportedName?_eq_none (by simp)

theorem skipsBlocks_readImport? : SkipsBlocks readImport? where
  opening _ := readImport?_eq_none (by simp)
  inside _ := readImport?_eq_none (by simp)
  nothing := readImport?_eq_none (by simp)
  indented _ := readImport?_eq_none (by simp)
  closing _ := readImport?_eq_none (by simp)

theorem chainedCall?_eq_none {line : String} (notCall : ¬ "  .".toList <+: line.toList) :
    chainedCall? line = none := by
  rw [chainedCall?, after?_eq_none notCall, Option.map_none]

theorem skipsComments_chainedCall? : SkipsComments chainedCall? where
  opening _ := chainedCall?_eq_none (by simp)
  inside _ := chainedCall?_eq_none (by simp)

theorem skipsComments_routerLine? : SkipsComments routerLine? where
  opening _ := routerLine?_eq_none (by simp) (by simp)
  inside _ := routerLine?_eq_none (by simp) (by simp)

theorem statedPath?_eq_none {line : String} (notRoute : ¬ " * @route ".toList <+: line.toList)
    (notPath : ¬ " * /".toList <+: line.toList) : statedPath? line = none := by
  rw [statedPath?, after?_eq_none notRoute, after?_eq_none notPath]
  rfl

theorem used?_eq_none {line : String} (notUse : ¬ "app.use(".toList <+: line.toList) :
    used? line = none := by
  rw [used?, after?_eq_none notUse, Option.bind_none]

theorem skipsBlocks_used? : SkipsBlocks used? where
  opening _ := used?_eq_none (by simp)
  inside _ := used?_eq_none (by simp)
  nothing := used?_eq_none (by simp)
  indented _ := used?_eq_none (by simp)
  closing _ := used?_eq_none (by simp)

end SchemaScaffold.Code
