import Mathlib.Data.List.Basic
import SchemaScaffold.Proofs.Code.Statements

/-! Cutting a source into its exported functions. The body of a function is
indented, so it goes on to the next bracket that is not. -/

namespace SchemaScaffold.Code

/-- The exported functions, each with the lines between its brackets. -/
def functionsOf : List String → List (String × List String)
  | [] => []
  | line :: rest =>
      match exportedName? line with
      | some name => (name, rest.takeWhile (· != "\x7d;")) :: functionsOf rest
      | none => functionsOf rest

def linesIn (fragments : List Fragment) : List String :=
  (rowsOf 0 fragments).flatMap fun row => linesOf row.line

theorem linesIn_append (front behind : List Fragment) :
    linesIn (front ++ behind) = linesIn front ++ linesIn behind := by
  rw [linesIn, linesIn, linesIn, rowsOf_append, List.flatMap_append]

theorem functionsOf_append {front : List String} (nothing : front.filterMap exportedName? = [])
    (behind : List String) : functionsOf (front ++ behind) = functionsOf behind := by
  induction front with
  | nil => rfl
  | cons line rest induction =>
      rw [List.filterMap_cons] at nothing
      cases read : exportedName? line with
      | none =>
          rw [read] at nothing
          rw [List.cons_append, functionsOf, read]
          exact induction nothing
      | some name =>
          rw [read] at nothing
          cases nothing

/-- These functions are in the lines of some fragments, whatever follows. -/
def Exports (fragments : List Fragment) (functions : List (String × List String)) : Prop :=
  ∀ rest, functionsOf (linesIn fragments ++ rest) = functions ++ functionsOf rest

namespace Exports

variable {fragments : List Fragment} {functions : List (String × List String)}

theorem nothing (found : found exportedName? fragments = []) : Exports fragments [] := by
  intro rest
  refine functionsOf_append ?_ rest
  rw [linesIn, List.filterMap_flatMap]
  exact found

theorem append {others : List Fragment} {later : List (String × List String)}
    (exports : Exports fragments functions) (exportsOthers : Exports others later) :
    Exports (fragments ++ others) (functions ++ later) := by
  intro rest
  rw [linesIn_append, List.append_assoc, exports, exportsOthers, List.append_assoc]

theorem sections {β : Type} {items : List β} {fragmentsOf : β → List Fragment}
    {functionsIn : β → List (String × List String)}
    (each : ∀ item ∈ items, Exports (fragmentsOf item) (functionsIn item)) :
    Exports ([Fragment.blank].intercalate (items.map fragmentsOf)) (items.flatMap functionsIn) := by
  induction items with
  | nil => exact nothing rfl
  | cons item rest induction =>
      rw [List.forall_mem_cons] at each
      cases rest with
      | nil => simpa using each.1
      | cons item' rest =>
          have blank : Exports [.blank] [] := nothing (found_blank skipsBlocks_exportedName?.nothing)
          rw [List.map_cons, List.map_cons, List.intercalate_cons_cons, List.flatMap_cons]
          have first := each.1.append blank
          rw [List.append_nil] at first
          exact first.append (induction each.2)

/-- A line of an indented body stands alone. It neither closes a function nor opens one. -/
theorem row_of_body {body : List Fragment} (plain : ArePlain body) {row : Row}
    (isRow : row ∈ rowsOf 1 body) :
    linesOf row.line = [row.line] ∧ row.line ≠ "\x7d;" ∧ exportedName? row.line = none := by
  rcases indented_of_mem_rowsOf plain isRow with ⟨single, empty | ⟨rest, equal⟩⟩
  · exact ⟨single.pieces_eq, by simp [empty], empty ▸ skipsBlocks_exportedName?.nothing⟩
  · refine ⟨single.pieces_eq, ?_, equal ▸ skipsBlocks_exportedName?.indented rest⟩
    rw [equal]
    intro closes
    have start := congrArg (fun text => text.toList.head?) closes
    simp at start

theorem linesIn_braced {opening : String} {body : List Fragment}
    (plainOpening : Lacks '\n' opening) (plainBody : ArePlain body) :
    linesIn [.braced opening body ";"]
      = (opening ++ "\x7b") :: ((rowsOf 1 body).map Row.line ++ ["\x7d;"]) := by
  have inner : (rowsOf 1 body).flatMap (fun row => linesOf row.line)
      = (rowsOf 1 body).map Row.line := by
    rw [List.map_eq_flatMap]
    exact List.flatMap_congr fun row isRow => (row_of_body plainBody isRow).1
  have first : Lacks '\n' (opening ++ "\x7b") := by simp [Lacks, plainOpening]
  have last : Lacks '\n' "\x7d;" := by simp [Lacks]
  have ending : "\x7d" ++ ";" = "\x7d;" := by decide +kernel
  simp only [linesIn, Fragment.braced, rowsOf, Fragment.rows, Option.toList_some, List.map_cons,
    List.map_nil, List.append_nil, List.cons_append, List.flatMap_cons, List.flatMap_append,
    List.flatMap_nil, Row.line_atStart, ending, inner]
  rw [linesOf, first.pieces_eq, linesOf, last.pieces_eq]
  rfl

theorem function {function : Function}
    (header : exportedName? (function.signature ++ "\x7b") = some function.name)
    (plainDocs : ∀ line ∈ function.docs, Lacks '\n' line)
    (plainSignature : Lacks '\n' function.signature) (plainBody : ArePlain function.body) :
    Exports function.fragments [(function.name, (rowsOf 1 function.body).map Row.line)] := by
  have docs : Exports (Function.docFragments function.docs) [] :=
    nothing (found_docs skipsBlocks_exportedName?.toSkipsComments plainDocs)
  have taken (rest : List String) :
      ((rowsOf 1 function.body).map Row.line ++ ("\x7d;" :: rest)).takeWhile (· != "\x7d;")
        = (rowsOf 1 function.body).map Row.line := by
    rw [List.takeWhile_append_of_pos, List.takeWhile_cons_of_neg (by simp), List.append_nil]
    exact List.forall_mem_map.mpr fun row isRow => by simpa using (row_of_body plainBody isRow).2.1
  have skipped : ((rowsOf 1 function.body).map Row.line ++ ["\x7d;"]).filterMap exportedName? = [] := by
    rw [List.filterMap_append, List.append_eq_nil_iff, List.filterMap_eq_nil_iff]
    refine ⟨List.forall_mem_map.mpr fun row isRow => (row_of_body plainBody isRow).2.2, ?_⟩
    exact List.filterMap_cons_none (skipsBlocks_exportedName?.closing ";")
  have code : Exports [.braced function.signature function.body ";"]
      [(function.name, (rowsOf 1 function.body).map Row.line)] := by
    intro rest
    rw [linesIn_braced plainSignature plainBody, List.cons_append, functionsOf, header,
      functionsOf_append skipped]
    simp only [List.append_assoc, List.singleton_append, taken]
  exact docs.append code

end Exports

end SchemaScaffold.Code
