import SchemaScaffold.Code.Builder
import SchemaScaffold.Proofs.Code.Texts

/-! Code that was printed and is given as a text: the text is cut into lines, and these are
laid out once more. Nothing is lost as long as each line is empty or a line of code, whatever
the level of indentation was while it was printed. -/

namespace SchemaScaffold.Code

open Text

/-! ## Lines -/

/-- Something is to be seen on the line, and it is one line also when it is read again. -/
structure IsCodeLine (line : String) : Prop where
  visible : line.toList.all isBlank = false
  single : Lacks '\n' line
  noReturn : line.toList.getLast? ≠ some '\r'

instance (line : String) : Decidable (IsCodeLine line) :=
  decidable_of_iff
    (line.toList.all isBlank = false ∧ Lacks '\n' line ∧ line.toList.getLast? ≠ some '\r')
    ⟨fun parts => ⟨parts.1, parts.2.1, parts.2.2⟩,
      fun code => ⟨code.visible, code.single, code.noReturn⟩⟩

theorem IsEnded.isCodeLine {line : String} (ended : IsEnded line) (single : Lacks '\n' line) :
    IsCodeLine line :=
  ⟨ended.all_isBlank_eq_false, single, ended.noReturn⟩

namespace IsCodeLine

variable {line : String}

theorem ne_empty (code : IsCodeLine line) : line ≠ "" := by
  rintro rfl
  exact Bool.noConfusion code.visible

theorem indented (code : IsCodeLine line) (level : Nat) :
    IsCodeLine (Row.indentation level ++ line) where
  visible := by rw [String.toList_append, List.all_append, code.visible, Bool.and_false]
  single := (lacks_indentation level).append code.single
  noReturn := by
    have some : line.toList ≠ [] := by simpa using code.ne_empty
    have last := List.getLast?_eq_some_getLast some
    rw [String.toList_append, List.getLast?_append, last, Option.some_or, ← last]
    exact code.noReturn

end IsCodeLine

/-- A line as it is printed: an empty one, or one with something on it. -/
def IsPrinted (line : String) : Prop := line = "" ∨ IsCodeLine line

/-- Indentation is given to every line but an empty one. -/
def indentedLine (level : Nat) (line : String) : String :=
  if line = "" then "" else Row.indentation level ++ line

theorem indentedLine_zero : indentedLine 0 = id := by
  funext line
  simp +contextual [indentedLine, Row.indentation]

namespace IsPrinted

variable {line : String}

theorem single (printed : IsPrinted line) : Lacks '\n' line := by
  rcases printed with rfl | code
  · exact List.not_mem_nil
  · exact code.single

theorem noReturn (printed : IsPrinted line) : line.toList.getLast? ≠ some '\r' := by
  rcases printed with rfl | code
  · simp
  · exact code.noReturn

theorem linesAt_ofLine (printed : IsPrinted line) (level : Nat) :
    linesAt level [Fragment.ofLine line.toList] = [indentedLine level line] := by
  rcases printed with rfl | code
  · rfl
  · rw [ofLine_of_visible code.visible, indentedLine, if_neg code.ne_empty]
    rfl

end IsPrinted

section Lines

variable {lines : List String} (printed : ∀ line ∈ lines, IsPrinted line)
include printed

theorem all_single : ∀ line ∈ lines, Lacks '\n' line := fun line isLine =>
  (printed line isLine).single

theorem ofText_joined :
    Fragment.ofText (String.join (lines.map (· ++ "\n")))
      = lines.map fun line => Fragment.ofLine line.toList := by
  have cut := lines_joined (all_single printed) []
  have noLine : Text.lines [] = [] := rfl
  rw [List.append_nil, noLine, List.append_nil] at cut
  rw [Fragment.ofText, cut, List.map_map]
  refine List.map_congr_left fun line isLine => ?_
  rw [Function.comp_apply, dropReturn_of_getLast? (printed line isLine).noReturn]

theorem linesAt_ofLines (level : Nat) :
    linesAt level (lines.map fun line => Fragment.ofLine line.toList)
      = lines.map (indentedLine level) := by
  induction lines with
  | nil => rfl
  | cons line rest induction =>
      rw [List.forall_mem_cons] at printed
      rw [List.map_cons, List.map_cons, ← List.singleton_append, linesAt_append,
        printed.1.linesAt_ofLine, induction printed.2, List.singleton_append]

end Lines

/-! ## Joined lines -/

theorem intercalate_concat (front : List String) (last : String) :
    "\n".intercalate (front ++ [last]) = String.join (front.map (· ++ "\n")) ++ last := by
  induction front with
  | nil => simp
  | cons line rest induction =>
      rw [List.cons_append, String.intercalate_cons_of_ne_nil (by simp), induction, List.map_cons,
        String.join_cons, String.append_assoc, String.append_assoc, String.append_assoc]

theorem intercalate_linesOf (text : String) : "\n".intercalate (linesOf text) = text :=
  intercalate_pieces rfl text

theorem join_ended {lines : List String} (some : lines ≠ []) :
    String.join ((ended lines).map (· ++ "\n")) = "\n".intercalate lines ++ ";\n" := by
  have parts : lines = lines.dropLast ++ [lines.getLast some] :=
    (List.dropLast_concat_getLast some).symm
  generalize lines.dropLast = front, lines.getLast some = last at parts
  subst parts
  rw [ended_concat, intercalate_concat, List.map_append, String.join_append, List.map_singleton,
    String.join_cons, String.join_nil, String.append_empty, String.append_assoc, String.append_assoc]
  rfl

/-- A text with two spaces in front of each of its lines that is not empty. -/
def indentedText (text : String) : String :=
  "\n".intercalate ((linesOf text).map fun line => if line = "" then "" else "  " ++ line)

example : indentedText "a\n\n  b\n" = "  a\n\n    b\n" := by decide +kernel

theorem indentedText_joined {lines : List String} (printed : ∀ line ∈ lines, IsPrinted line) :
    indentedText (String.join (lines.map (· ++ "\n")))
      = String.join ((lines.map (indentedLine 1)).map (· ++ "\n")) := by
  have unit : indentedLine 1 = fun line => if line = "" then "" else "  " ++ line := rfl
  rw [indentedText, ← unit, linesOf_joined (all_single printed), List.map_append,
    List.map_singleton, intercalate_concat]
  exact String.append_empty

/-! ## Values -/

/-- The lines of a text that are ended by a line feed. -/
def endedLines (text : String) : List String := (linesOf text).dropLast

/-- What stands in front of the last line feed of a text. -/
def frontOf (text : String) : String := "\n".intercalate (endedLines text)

theorem endedLines_joined {lines : List String} (single : ∀ line ∈ lines, Lacks '\n' line) :
    endedLines (String.join (lines.map (· ++ "\n"))) = lines := by
  rw [endedLines, linesOf_joined single, List.dropLast_concat]

theorem linesOf_ne_nil (text : String) : linesOf text ≠ [] := by
  rw [linesOf, pieces]
  simpa using splitWhere_ne_nil _ text.toList

/-- The value of a constant is printed as it is if it is read as the lines it has. -/
theorem Constant.render_fragments {constant : Constant}
    (kept : ∀ line ∈ linesOf constant.value, line.toList.getLast? ≠ some '\r')
    (some : (linesOf constant.value).getLast? ≠ some "") :
    Code.render constant.fragments = constant.head "" ++ constant.value ++ ";\n" := by
  have same : String.ofList ∘ String.toList = id := funext fun line => String.ofList_toList
  have value := intercalate_linesOf constant.value
  rw [Constant.fragments, render_lines, Constant.lines, lines_eq kept some, List.map_map, same,
    List.map_id]
  cases lines : linesOf constant.value with
  | nil => exact absurd lines (linesOf_ne_nil _)
  | cons first rest =>
      have head : constant.head first = constant.head "" ++ first := by simp [Constant.head]
      rw [lines] at value
      rw [join_ended (List.cons_ne_nil _ _), head, String.intercalate_cons_append, value]

theorem Constant.render_of_empty {constant : Constant} (empty : constant.value = "") :
    Code.render constant.fragments = constant.head "" ++ constant.value ++ ";\n" := by
  have noLine : Text.lines "".toList = [] := rfl
  rw [Constant.fragments, render_lines, Constant.lines, empty, noLine]
  simp [ended, String.append_assoc]

/-! ## Printed texts -/

/-- A text of printed lines, each of which ends. -/
def IsPrintedText (text : String) : Prop :=
  ∃ lines : List String, (∀ line ∈ lines, IsPrinted line) ∧
    text = String.join (lines.map (· ++ "\n"))

/-- What becomes of a text that is given as code. -/
structure SurvivesReading (text : String) : Prop where
  /-- A statement of its own is printed as the text was. -/
  statement : Code.render (Statement.ofText text).fragments = text
  /-- The body of a function stands one level deeper between the brackets. -/
  body : ∀ function : Function,
    Code.render ({ function with body := Fragment.ofText text } : Function).fragments
      = Code.render (Function.docFragments function.docs) ++ (function.signature ++ "\x7b\n")
        ++ indentedText text ++ "\x7d;\n"
  /-- A text that is not empty ends with a line feed. -/
  ended : text = "" ∨ text = frontOf text ++ "\n"
  /-- What is in front of it is the value of a constant, unless the last line is empty. -/
  value : (endedLines text).getLast? ≠ some "" → ∀ constant : Constant,
    Code.render ({ constant with value := frontOf text } : Constant).fragments
      = exportWord constant.exported ++ "const " ++ annotated constant.name constant.type
        ++ " = " ++ frontOf text ++ ";\n"

theorem isPrintedText_empty : IsPrintedText "" :=
  ⟨[], List.forall_mem_nil _, rfl⟩

namespace IsPrintedText

variable {text : String}

theorem append_line {line : String} (printed : IsPrintedText text) (isPrinted : IsPrinted line) :
    IsPrintedText (text ++ (line ++ "\n")) := by
  rcases printed with ⟨lines, each, rfl⟩
  refine ⟨lines ++ [line], ?_, ?_⟩
  · rw [List.forall_mem_append, List.forall_mem_singleton]
    exact ⟨each, isPrinted⟩
  · rw [List.map_append, String.join_append, List.map_singleton, String.join_cons, String.join_nil,
      String.append_empty]

theorem render_ofText (printed : IsPrintedText text) :
    Code.render (Fragment.ofText text) = text := by
  rcases printed with ⟨lines, each, rfl⟩
  rw [ofText_joined each, render_eq_join, linesAt_ofLines each, indentedLine_zero, List.map_id]

theorem render_braced (printed : IsPrintedText text) (header ending : String) :
    Code.render [.braced header (Fragment.ofText text) ending]
      = header ++ "\x7b\n" ++ indentedText text ++ ("\x7d" ++ ending ++ "\n") := by
  rcases printed with ⟨lines, each, rfl⟩
  rw [ofText_joined each, render_eq_join, linesAt_braced, linesAt_ofLines each,
    indentedText_joined each]
  simp [Row.indentation, String.append_assoc]

theorem eq_frontOf (printed : IsPrintedText text) : text = "" ∨ text = frontOf text ++ "\n" := by
  rcases printed with ⟨lines, each, rfl⟩
  have single := all_single each
  rw [frontOf, endedLines_joined single]
  by_cases some : lines = []
  · rw [some]
    exact .inl rfl
  · have whole := intercalate_linesOf (String.join (lines.map (· ++ "\n")))
    rw [linesOf_joined single, String.intercalate_append_of_ne_nil some (List.cons_ne_nil _ _),
      String.intercalate_singleton, String.append_empty] at whole
    exact .inr whole.symm

theorem render_constant (printed : IsPrintedText text)
    (lastLine : (endedLines text).getLast? ≠ some "") (constant : Constant)
    (isValue : constant.value = frontOf text) :
    Code.render constant.fragments = constant.head "" ++ constant.value ++ ";\n" := by
  rcases printed with ⟨lines, each, rfl⟩
  have single := all_single each
  rw [endedLines_joined single] at lastLine
  rw [frontOf, endedLines_joined single] at isValue
  by_cases some : lines = []
  · exact Constant.render_of_empty (by rw [isValue, some, String.intercalate_nil])
  · have cut : linesOf constant.value = lines := by
      rw [isValue]
      exact pieces_intercalate (by rfl) some single
    refine Constant.render_fragments ?_ ?_
    · rw [cut]
      exact fun line isLine => (each line isLine).noReturn
    · rwa [cut]

theorem survives (printed : IsPrintedText text) : SurvivesReading text where
  statement := printed.render_ofText
  body function := by
    have signature : Function.signature { function with body := Fragment.ofText text }
        = function.signature := rfl
    rw [Function.fragments, render_append, signature, printed.render_braced]
    simp [String.append_assoc]
  ended := printed.eq_frontOf
  value lastLine constant := by
    rw [printed.render_constant lastLine _ rfl]
    simp only [Constant.head, String.append_empty]

end IsPrintedText

/-- Code that was laid out before is laid out in the same way. -/
theorem render_ofText {fragments : List Fragment} (plain : ArePlain fragments)
    (ended : ∀ line ∈ linesAt 0 fragments, IsEnded line) :
    Code.render (Fragment.ofText (Code.render fragments)) = Code.render fragments := by
  have single : ∀ line ∈ linesAt 0 fragments, Lacks '\n' line := by
    rw [linesAt, List.forall_mem_map]
    exact fun row isRow => (isPlainFrom_of_mem_rowsOf fragments plain row isRow).lacks_line
  have printed : IsPrintedText (Code.render fragments) :=
    ⟨linesAt 0 fragments,
      fun line isLine => .inr ((ended line isLine).isCodeLine (single line isLine)),
      render_eq_join fragments⟩
  exact printed.render_ofText

/-! ## Builders -/

namespace Builder

/-- What is done to a builder. -/
inductive Step where
  | line (text : String)
  | blank
  | indent
  | dedent
  /-- Between the two lines, the steps are done one level deeper. -/
  | block (header close : String) (body : List Step)

mutual

/-- The texts of the lines, and with them the first and the last line of each block. -/
def Step.texts : Step → List String
  | .line text => [text]
  | .blank | .indent | .dedent => []
  | .block header close body => header :: close :: textsOf body

def textsOf : List Step → List String
  | [] => []
  | step :: rest => step.texts ++ textsOf rest

end

mutual

def perform (builder : Builder) : Step → Builder
  | .line text => builder.line text
  | .blank => builder.blank
  | .indent => builder.indent
  | .dedent => builder.dedent
  | .block header close body => builder.block header close fun inner => inner.performAll body

def performAll (builder : Builder) : List Step → Builder
  | [] => builder
  | step :: rest => (builder.perform step).performAll rest

end

theorem isPrintedText_line {builder : Builder} (printed : IsPrintedText builder.text)
    {text : String} (code : IsCodeLine text) : IsPrintedText (builder.line text).text := by
  rw [line, Row.render_eq]
  exact printed.append_line (.inr (code.indented builder.level))

theorem isPrintedText_blank {builder : Builder} (printed : IsPrintedText builder.text) :
    IsPrintedText builder.blank.text :=
  printed.append_line (.inl rfl)

mutual

/-- The level is of no importance here, so a block may leave it as it likes. -/
theorem isPrintedText_perform {builder : Builder} (printed : IsPrintedText builder.text) :
    (step : Step) → (∀ text ∈ step.texts, IsCodeLine text) →
      IsPrintedText (builder.perform step).text
  | .line text, code => by
      rw [Step.texts, List.forall_mem_singleton] at code
      exact isPrintedText_line printed code
  | .blank, _ => isPrintedText_blank printed
  | .indent, _ => printed
  | .dedent, _ => printed
  | .block header close body, code => by
      rw [Step.texts, List.forall_mem_cons, List.forall_mem_cons] at code
      have opened : IsPrintedText (builder.line header).indent.text :=
        isPrintedText_line printed code.1
      have inner : IsPrintedText ((builder.line header).indent.performAll body).dedent.text :=
        isPrintedText_performAll opened body code.2.2
      exact isPrintedText_line inner code.2.1

theorem isPrintedText_performAll {builder : Builder} (printed : IsPrintedText builder.text) :
    (steps : List Step) → (∀ text ∈ textsOf steps, IsCodeLine text) →
      IsPrintedText (builder.performAll steps).text
  | [], _ => printed
  | step :: rest, code => by
      rw [textsOf, List.forall_mem_append] at code
      exact isPrintedText_performAll (isPrintedText_perform printed step code.1) rest code.2

end

theorem built_code_survives (steps : List Step) (code : ∀ text ∈ textsOf steps, IsCodeLine text) :
    SurvivesReading (empty.performAll steps).text := by
  have start : IsPrintedText empty.text := isPrintedText_empty
  exact (isPrintedText_performAll start steps code).survives

/-- Neither the block inside nor the whole comes back to the level it began at. -/
def guardSteps : List Step :=
  [.line "(token) => \x7b", .indent, .line "check(token);", .blank,
    .block "if (token.old) \x7b" "\x7d" [.indent, .line "renew(token);"],
    .dedent, .dedent, .dedent, .line "\x7d"]

def guardText : String :=
  "(token) => \x7b\n  check(token);\n\n  if (token.old) \x7b\n      renew(token);\n    \x7d\n\x7d"

theorem built_code_survives_guard :
    (∀ text ∈ textsOf guardSteps, IsCodeLine text) ∧
      (empty.performAll guardSteps).text = guardText ++ "\n" ∧
      Code.render (Constant.fragments { name := "guard", value := guardText })
        = "const guard = " ++ guardText ++ ";\n" := by
  have code : ∀ text ∈ textsOf guardSteps, IsCodeLine text := by decide +kernel
  have text : (empty.performAll guardSteps).text = guardText ++ "\n" := by decide +kernel
  have head : exportWord false ++ "const " ++ annotated "guard" none ++ " = " = "const guard = " := by
    decide +kernel
  have front : frontOf (empty.performAll guardSteps).text = guardText := by decide +kernel
  have value := (built_code_survives guardSteps code).value (by decide +kernel)
    ⟨"guard", "", none, false⟩
  rw [front, head] at value
  exact ⟨code, text, value⟩

end Builder

end SchemaScaffold.Code
