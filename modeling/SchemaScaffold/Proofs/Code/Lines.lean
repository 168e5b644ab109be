import SchemaScaffold.Code.SourceFile
import SchemaScaffold.Proofs.Text.Pieces

/-! Reading a generated file line by line. The rows of a layout are the lines of
the text, unless a row has a line feed inside, and then it is several lines. -/

namespace SchemaScaffold.Code

/-! ## Characters that a text does not have

Texts are mostly joined of literals and of a few names. What the names lack is
handed to `simp`, which looks through the joints and into the literals. -/

@[reducible] def Lacks (cut : Char) (text : String) : Prop := cut ∉ text.toList

instance (cut : Char) (text : String) : Decidable (Lacks cut text) :=
  inferInstanceAs (Decidable (cut ∉ text.toList))

@[simp] theorem not_mem_intercalate {cut : Char} {separator : List Char}
    (noSeparator : cut ∉ separator) {texts : List (List Char)} (each : ∀ text ∈ texts, cut ∉ text) :
    cut ∉ separator.intercalate texts := by
  induction texts with
  | nil => exact List.not_mem_nil
  | cons text rest induction =>
      rw [List.forall_mem_cons] at each
      cases rest with
      | nil => simpa using each.1
      | cons text' rest =>
          rw [List.intercalate_cons_cons]
          simp [each.1, noSeparator, induction each.2]

namespace Lacks

variable {cut : Char} {text front behind : String}

/-- A long literal is compared as a list of characters, which is much faster than
taking the text apart. -/
theorem of_literal {characters : List Char} (literal : text = String.ofList characters)
    (lacks : characters.contains cut = false) : Lacks cut text := by
  rw [Lacks, literal, String.toList_ofList]
  simpa using lacks

theorem append (noFront : Lacks cut front) (noBehind : Lacks cut behind) :
    Lacks cut (front ++ behind) := by
  simp [Lacks, noFront, noBehind]

theorem isCut_eq_false (lacks : Lacks cut text) : ∀ c ∈ text.toList, (c == cut) = false := by
  intro c isChar
  rw [beq_eq_false_iff_ne]
  rintro rfl
  exact lacks isChar

theorem pieces_eq (lacks : Lacks cut text) : Text.pieces (· == cut) text = [text] := by
  rw [Text.pieces, Text.splitWhere_of_no_cut lacks.isCut_eq_false]
  simp

end Lacks

/-- A cut between two texts is a cut between their pieces. -/
theorem pieces_append {cut : Char} {separator : String} (isCut : separator.toList = [cut])
    (front behind : String) :
    Text.pieces (· == cut) (front ++ separator ++ behind)
      = Text.pieces (· == cut) front ++ Text.pieces (· == cut) behind := by
  simp only [Text.pieces, String.toList_append, isCut, List.append_assoc, List.singleton_append]
  rw [@Text.splitWhere_append_cut Char (· == cut) cut (beq_self_eq_true cut), List.map_append]

/-- Pieces without a cut are found again in what they are joined to. -/
theorem pieces_intercalate {cut : Char} {separator : String} (isCut : separator.toList = [cut])
    {texts : List String} (some : texts ≠ []) (whole : ∀ text ∈ texts, Lacks cut text) :
    Text.pieces (· == cut) (separator.intercalate texts) = texts := by
  induction texts with
  | nil => exact absurd rfl some
  | cons text rest induction =>
      rw [List.forall_mem_cons] at whole
      cases rest with
      | nil => rw [String.intercalate_singleton, whole.1.pieces_eq]
      | cons next others =>
          rw [String.intercalate_cons_cons, pieces_append isCut, whole.1.pieces_eq,
            induction (List.cons_ne_nil _ _) whole.2, List.singleton_append]

/-- Joining the pieces of a text gives the text again. -/
theorem intercalate_pieces {cut : Char} {separator : String} (isCut : separator.toList = [cut])
    (text : String) : separator.intercalate (Text.pieces (· == cut) text) = text := by
  have same : String.toList ∘ String.ofList = id := funext fun piece => String.toList_ofList
  rw [← String.toList_inj, String.toList_intercalate, isCut, Text.pieces, List.map_map, same,
    List.map_id, Text.intercalate_splitWhere]

/-- A separator stands in front of each text but the first. -/
theorem intercalate_cons (separator first : String) (others : List String) :
    separator.intercalate (first :: others)
      = first ++ String.join (others.map (separator ++ ·)) := by
  induction others generalizing first with
  | nil => simp
  | cons second rest induction =>
      rw [String.intercalate_cons_cons, induction, List.map_cons, String.join_cons]
      simp only [String.append_assoc]

/-! ## Lines -/

/-- The last line is what follows the last line feed. -/
def linesOf (text : String) : List String := Text.pieces (· == '\n') text

def Row.line : Row → String
  | blank => ""
  | text level content => indentation level ++ content

theorem Row.render_eq (row : Row) : row.render = row.line ++ "\n" := by
  cases row <;> rfl

theorem Row.line_atStart (content : String) : Row.line (.text 0 content) = content := by
  simp [Row.line, Row.indentation]

theorem linesOf_rows (rows : List Row) :
    linesOf (String.join (rows.map Row.render))
      = (rows.flatMap fun row => linesOf row.line) ++ [""] := by
  induction rows with
  | nil => rfl
  | cons row rest induction =>
      rw [List.map_cons, String.join_cons, Row.render_eq, linesOf, pieces_append (by rfl)]
      rw [← linesOf, ← linesOf, induction, List.flatMap_cons, List.append_assoc]

theorem rowsOf_append (level : Nat) (front behind : List Fragment) :
    rowsOf level (front ++ behind) = rowsOf level front ++ rowsOf level behind := by
  induction front with
  | nil => rfl
  | cons fragment rest induction =>
      rw [List.cons_append, rowsOf, rowsOf, induction, List.append_assoc]

/-! ## Plain fragments -/

mutual

/-- Every text of the fragment is one line. -/
def Fragment.IsPlain : Fragment → Prop
  | .line text => Lacks '\n' text
  | .blank => True
  | .block header body close =>
      Lacks '\n' header ∧ ArePlain body ∧ ∀ text ∈ close, Lacks '\n' text
  | .indented body => ArePlain body
  | .remark text => Lacks '\n' text
  | .remarks lines => ∀ line ∈ lines, Lacks '\n' line

def ArePlain : List Fragment → Prop
  | [] => True
  | fragment :: rest => fragment.IsPlain ∧ ArePlain rest

end

theorem arePlain_append {front behind : List Fragment} :
    ArePlain (front ++ behind) ↔ ArePlain front ∧ ArePlain behind := by
  induction front with
  | nil => simp [ArePlain]
  | cons fragment rest induction => rw [List.cons_append, ArePlain, ArePlain, induction, and_assoc]

theorem isPlain_line {text : String} (plain : Lacks '\n' text) : (Fragment.line text).IsPlain :=
  plain

theorem arePlain_lines {texts : List String} (plain : ∀ text ∈ texts, Lacks '\n' text) :
    ArePlain (texts.map .line) := by
  induction texts with
  | nil => trivial
  | cons text rest induction =>
      rw [List.forall_mem_cons] at plain
      exact ⟨isPlain_line plain.1, induction plain.2⟩

theorem isPlain_braced {header ending : String} {body : List Fragment} :
    (Fragment.braced header body ending).IsPlain ↔
      Lacks '\n' header ∧ ArePlain body ∧ Lacks '\n' ending := by
  simp [Fragment.braced, Fragment.IsPlain, Lacks]

theorem arePlain_intercalate {sections : List (List Fragment)}
    (each : ∀ fragments ∈ sections, ArePlain fragments) :
    ArePlain ([Fragment.blank].intercalate sections) := by
  induction sections with
  | nil => trivial
  | cons first rest induction =>
      rw [List.forall_mem_cons] at each
      cases rest with
      | nil => simpa using each.1
      | cons second others =>
          rw [List.intercalate_cons_cons, arePlain_append, arePlain_append]
          exact ⟨⟨each.1, trivial, trivial⟩, induction each.2⟩

/-- A single line, indented at least so far. -/
def Row.IsPlainFrom (level : Nat) : Row → Prop
  | blank => True
  | text own content => level ≤ own ∧ Lacks '\n' content

theorem Row.IsPlainFrom.deeper {level : Nat} {row : Row} (plain : row.IsPlainFrom (level + 1)) :
    row.IsPlainFrom level := by
  cases row with
  | blank => trivial
  | text own content => exact ⟨Nat.le_of_succ_le plain.1, plain.2⟩

theorem lacks_indentation (level : Nat) : Lacks '\n' (Row.indentation level) := by
  simp [Lacks, Row.indentation, Row.unit, String.toList_join]

theorem Row.IsPlainFrom.lacks_line {level : Nat} {row : Row} (plain : row.IsPlainFrom level) :
    Lacks '\n' row.line := by
  cases row with
  | blank => simp [Lacks, Row.line]
  | text own content => exact (lacks_indentation own).append plain.2

theorem lacks_remarkLine {line : String} (plain : Lacks '\n' line) :
    Lacks '\n' (remarkLine line) := by
  rw [remarkLine]
  split
  · decide
  · simp [Lacks, plain]

mutual

theorem Fragment.isPlainFrom_of_mem_rows {level : Nat} :
    (fragment : Fragment) → fragment.IsPlain → ∀ row ∈ fragment.rows level, row.IsPlainFrom level
  | .line text, plain => by
      rw [Fragment.rows, List.forall_mem_singleton]
      exact ⟨Nat.le_refl level, plain⟩
  | .blank, _ => by
      rw [Fragment.rows, List.forall_mem_singleton]
      trivial
  | .block header body close, plain => by
      rw [Fragment.IsPlain] at plain
      rw [Fragment.rows, List.cons_append, List.forall_mem_cons, List.forall_mem_append]
      refine ⟨⟨Nat.le_refl level, plain.1⟩, ?_, ?_⟩
      · exact fun row isRow => (isPlainFrom_of_mem_rowsOf body plain.2.1 row isRow).deeper
      · intro row isRow
        rcases List.mem_map.mp isRow with ⟨text, isClose, rfl⟩
        exact ⟨Nat.le_refl level, plain.2.2 text (Option.mem_toList.mp isClose)⟩
  | .indented body, plain => by
      rw [Fragment.IsPlain] at plain
      rw [Fragment.rows]
      exact fun row isRow => (isPlainFrom_of_mem_rowsOf body plain row isRow).deeper
  | .remark text, plain => by
      rw [Fragment.IsPlain] at plain
      rw [Fragment.rows, List.forall_mem_singleton]
      exact ⟨Nat.le_refl level, by simp [Lacks, remarkText, plain]⟩
  | .remarks lines, plain => by
      rw [Fragment.IsPlain] at plain
      rw [Fragment.rows, remarkRows, List.cons_append, List.forall_mem_cons, List.forall_mem_append,
        List.forall_mem_map, List.forall_mem_singleton]
      refine ⟨⟨Nat.le_refl level, by simp [Lacks]⟩, fun line isLine => ?_,
        Nat.le_refl level, by simp [Lacks]⟩
      exact ⟨Nat.le_refl level, lacks_remarkLine (plain line isLine)⟩

theorem isPlainFrom_of_mem_rowsOf {level : Nat} :
    (fragments : List Fragment) → ArePlain fragments →
      ∀ row ∈ rowsOf level fragments, row.IsPlainFrom level
  | [], _ => List.forall_mem_nil _
  | fragment :: rest, plain => by
      rw [ArePlain] at plain
      rw [rowsOf, List.forall_mem_append]
      exact ⟨fragment.isPlainFrom_of_mem_rows plain.1, isPlainFrom_of_mem_rowsOf rest plain.2⟩

end

theorem rowsOf_lines (level : Nat) (texts : List String) :
    rowsOf level (texts.map .line) = texts.map (Row.text level) := by
  induction texts with
  | nil => rfl
  | cons text rest induction => rw [List.map_cons, rowsOf, induction]; rfl

/-- The lines of fragments that start at a level. -/
def linesAt (level : Nat) (fragments : List Fragment) : List String :=
  (rowsOf level fragments).map Row.line

theorem linesAt_append (level : Nat) (front behind : List Fragment) :
    linesAt level (front ++ behind) = linesAt level front ++ linesAt level behind := by
  rw [linesAt, linesAt, linesAt, rowsOf_append, List.map_append]

theorem linesAt_lines (level : Nat) (texts : List String) :
    linesAt level (texts.map .line) = texts.map (Row.indentation level ++ ·) := by
  rw [linesAt, rowsOf_lines, List.map_map]
  rfl

theorem linesAt_zero_lines (texts : List String) : linesAt 0 (texts.map .line) = texts := by
  rw [linesAt_lines]
  simp [Row.indentation]

theorem linesAt_line (text : String) : linesAt 0 [.line text] = [text] :=
  linesAt_zero_lines [text]

theorem linesAt_braced (level : Nat) (header ending : String) (body : List Fragment) :
    linesAt level [.braced header body ending]
      = [Row.indentation level ++ (header ++ "\x7b")] ++ linesAt (level + 1) body
        ++ [Row.indentation level ++ ("\x7d" ++ ending)] := by
  simp [linesAt, rowsOf, Fragment.braced, Fragment.rows, Row.line]

theorem linesOf_render {fragments : List Fragment} (plain : ArePlain fragments) :
    linesOf (Code.render fragments) = linesAt 0 fragments ++ [""] := by
  have single : ∀ row ∈ rowsOf 0 fragments, linesOf row.line = [row.line] := fun row isRow =>
    (isPlainFrom_of_mem_rowsOf fragments plain row isRow).lacks_line.pieces_eq
  rw [Code.render, renderAt, linesOf_rows, List.flatMap_def, List.map_congr_left single,
    ← List.flatMap_def, ← List.map_eq_flatMap]
  rfl

/-! ## What is found in the lines

`read` says what a single line holds, if it is one of those that are looked for. -/

variable {α : Type} {read : String → Option α}

def scan (read : String → Option α) (text : String) : List α := (linesOf text).filterMap read

/-- What is found in fragments that are not indented. -/
def found (read : String → Option α) (fragments : List Fragment) : List α :=
  (rowsOf 0 fragments).flatMap fun row => scan read row.line

theorem scan_plain {text : String} (plain : Lacks '\n' text) :
    scan read text = (read text).toList := by
  rw [scan, linesOf, plain.pieces_eq, List.filterMap_cons]
  cases read text <;> rfl

theorem found_append (front behind : List Fragment) :
    found read (front ++ behind) = found read front ++ found read behind := by
  rw [found, found, found, rowsOf_append, List.flatMap_append]

theorem found_cons (fragment : Fragment) (rest : List Fragment) :
    found read (fragment :: rest) = found read [fragment] ++ found read rest :=
  found_append [fragment] rest

theorem found_line (text : String) : found read [.line text] = scan read text := by
  simp [found, rowsOf, Fragment.rows, Row.line, Row.indentation]

theorem found_lines (lines : List String) :
    found read (lines.map .line) = lines.flatMap (scan read) := by
  simp only [found, rowsOf_lines, List.flatMap_map, Row.line_atStart]

theorem scan_render (nothing : read "" = none) (fragments : List Fragment) :
    scan read (Code.render fragments) = found read fragments := by
  rw [scan, Code.render, renderAt, linesOf_rows, List.filterMap_append, List.filterMap_flatMap]
  simp [found, scan, nothing]

/-! ## Files -/

theorem found_blank (nothing : read "" = none) : found read [.blank] = [] := by
  simp [found, rowsOf, Fragment.rows, Row.line, scan, linesOf, Text.pieces, Text.splitWhere, nothing]

theorem found_sections (nothing : read "" = none) (sections : List (List Fragment)) :
    found read ([Fragment.blank].intercalate sections) = sections.flatMap (found read) := by
  induction sections with
  | nil => rfl
  | cons fragments rest induction =>
      cases rest with
      | nil => simp
      | cons fragments' rest =>
          rw [List.intercalate_cons_cons, found_append, found_append, found_blank nothing, induction]
          simp

theorem found_flatMap {items : List β} (fragmentsOf : β → List Fragment) :
    found read (items.flatMap fragmentsOf)
      = items.flatMap fun item => found read (fragmentsOf item) := by
  induction items with
  | nil => rfl
  | cons item rest induction =>
      rw [List.flatMap_cons, found_append, induction, List.flatMap_cons]

/-- A file holds what its imports, its statements and its exports hold. -/
theorem scan_sourceFile (nothing : read "" = none) (file : SourceFile) :
    scan read file.render
      = (file.imports.flatMap fun statement => found read statement.fragments)
        ++ (file.statements.flatMap fun statement => found read statement.fragments)
        ++ (file.exports.flatMap fun statement => found read statement.fragments) := by
  have unlessEmpty {β : Type} (items : List β) (fragmentsOf : β → List Fragment) :
      (if items.isEmpty then [] else [items.flatMap fragmentsOf]).flatMap (found read)
        = items.flatMap fun item => found read (fragmentsOf item) := by
    cases items with
    | nil => rfl
    | cons item rest => simp [found_append, found_flatMap]
  rw [SourceFile.render, scan_render nothing, SourceFile.fragments, found_sections nothing,
    SourceFile.sections, List.flatMap_append, List.flatMap_append, unlessEmpty, unlessEmpty,
    List.flatMap_map]

/-! ## Sections -/

theorem renderAt_append (level : Nat) (front behind : List Fragment) :
    renderAt level (front ++ behind) = renderAt level front ++ renderAt level behind := by
  rw [renderAt, rowsOf_append, List.map_append, String.join_append]
  rfl

theorem render_append (front behind : List Fragment) :
    Code.render (front ++ behind) = Code.render front ++ Code.render behind :=
  renderAt_append 0 front behind

/-- A section is printed as it would be alone. -/
theorem exists_render_section {file : SourceFile} {fragments : List Fragment}
    (isSection : fragments ∈ file.sections) :
    ∃ front behind, file.render = front ++ Code.render fragments ++ behind := by
  have inside : ∃ front behind, file.fragments = front ++ fragments ++ behind := by
    rw [SourceFile.fragments]
    generalize file.sections = sections at isSection
    induction sections with
    | nil => cases isSection
    | cons first rest induction =>
        cases rest with
        | nil =>
            rw [List.mem_singleton.mp isSection]
            exact ⟨[], [], by simp⟩
        | cons second rest =>
            rw [List.intercalate_cons_cons]
            rcases List.mem_cons.mp isSection with rfl | isLater
            · exact ⟨[], _, by rw [List.nil_append, List.append_assoc]⟩
            · rcases induction isLater with ⟨front, behind, equal⟩
              exact ⟨first ++ [.blank] ++ front, behind, by rw [equal]; simp⟩
  rcases inside with ⟨front, behind, equal⟩
  exact ⟨Code.render front, Code.render behind, by
    rw [SourceFile.render, equal, render_append, render_append]⟩

/-- The last section is printed at the end. -/
theorem exists_render_last {file : SourceFile} {fragments : List Fragment}
    (isLast : file.sections.getLast? = some fragments) :
    ∃ front, file.render = front ++ Code.render fragments := by
  have ends : ∃ front, file.fragments = front ++ fragments := by
    rw [SourceFile.fragments]
    generalize file.sections = sections at isLast
    induction sections with
    | nil => cases isLast
    | cons first rest induction =>
        cases rest with
        | nil =>
            rw [List.getLast?_singleton, Option.some.injEq] at isLast
            exact ⟨[], by simp [isLast]⟩
        | cons second rest =>
            rw [List.getLast?_cons_cons] at isLast
            rcases induction isLast with ⟨front, equal⟩
            exact ⟨first ++ [.blank] ++ front, by
              rw [List.intercalate_cons_cons, equal, List.append_assoc _ front]⟩
  rcases ends with ⟨front, equal⟩
  exact ⟨Code.render front, by rw [SourceFile.render, equal, render_append]⟩

/-- The lines in front of the first empty one. -/
def openingLines (text : String) : List String :=
  (linesOf text).takeWhile fun line => !line.isEmpty

theorem openingLines_lines {lines : List String}
    (plain : ∀ line ∈ lines, Lacks '\n' line ∧ line ≠ "") {behind : List Fragment}
    (apart : behind = [] ∨ ∃ rest, behind = .blank :: rest) :
    openingLines (Code.render (lines.map .line ++ behind)) = lines := by
  have front : (rowsOf 0 (lines.map Fragment.line)).flatMap (fun row => linesOf row.line)
      = lines := by
    have single : ∀ line ∈ lines, linesOf (Row.line (.text 0 line)) = [line] := by
      intro line isLine
      rw [Row.line_atStart, linesOf, (plain line isLine).1.pieces_eq]
    rw [rowsOf_lines, List.flatMap_map, List.flatMap_def, List.map_congr_left single,
      ← List.flatMap_def, List.flatMap_singleton']
  have emptyNext : ∃ rest, (rowsOf 0 behind).flatMap (fun row => linesOf row.line) ++ [""]
      = "" :: rest := by
    rcases apart with rfl | ⟨rest, rfl⟩
    · exact ⟨[], rfl⟩
    · exact ⟨_, rfl⟩
  rcases emptyNext with ⟨rest, next⟩
  rw [openingLines, Code.render, renderAt, linesOf_rows, rowsOf_append, List.flatMap_append, front,
    List.append_assoc, next, List.takeWhile_append_of_pos]
  · simp
  · exact fun line isLine => by simpa using (plain line isLine).2

/-- A file starts with its imports, up to an empty line or its end. -/
theorem openingLines_render {file : SourceFile} (some : file.imports ≠ [])
    (plain : ∀ line ∈ file.imports.flatMap Import.lines, Lacks '\n' line ∧ line ≠ "") :
    openingLines file.render = file.imports.flatMap Import.lines := by
  have opens : ∃ behind, file.fragments
        = (file.imports.flatMap Import.lines).map .line ++ behind ∧
      (behind = [] ∨ ∃ rest, behind = .blank :: rest) := by
    have notEmpty : file.imports.isEmpty = false := by simpa using some
    have imports : file.imports.flatMap Import.fragments
        = (file.imports.flatMap Import.lines).map Fragment.line := List.map_flatMap.symm
    rw [SourceFile.fragments, SourceFile.sections, notEmpty, if_neg Bool.false_ne_true, imports,
      List.append_assoc]
    generalize file.statements.map Statement.fragments ++ _ = others
    cases others with
    | nil => exact ⟨[], by simp, .inl rfl⟩
    | cons next rest =>
        refine ⟨.blank :: [Fragment.blank].intercalate (next :: rest), ?_, .inr ⟨_, rfl⟩⟩
        rw [List.singleton_append, List.intercalate_cons_cons, List.append_assoc,
          List.singleton_append]
  rcases opens with ⟨behind, equal, apart⟩
  rw [SourceFile.render, equal, openingLines_lines plain apart]

end SchemaScaffold.Code
