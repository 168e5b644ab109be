import SchemaScaffold.Code.Builder
import SchemaScaffold.Proofs.Code.Lines

/-! What a builder writes when it is given fragments. All that it does is to add rows: the
level comes back, what was written before stays, and the rows are those of the outermost
level, moved to the right. -/

namespace SchemaScaffold.Code

/-! ## Rows at another level -/

namespace Row

/-- The same row so many levels deeper. -/
def deeper (levels : Nat) : Row → Row
  | blank => blank
  | text level content => text (levels + level) content

/-- The text of a row behind some more units of indentation. An empty line gets none. -/
def renderBehind (levels : Nat) : Row → String
  | blank => blank.render
  | text level content => indentation levels ++ (text level content).render

theorem indentation_add (levels level : Nat) :
    indentation (levels + level) = indentation levels ++ indentation level := by
  rw [indentation, ← List.replicate_append_replicate, String.join_append]
  rfl

theorem render_deeper (levels : Nat) (row : Row) :
    (row.deeper levels).render = row.renderBehind levels := by
  cases row with
  | blank => rfl
  | text level content =>
      simp only [deeper, renderBehind, render, indentation_add, String.append_assoc]

end Row

theorem remarkRows_deeper (levels level : Nat) (lines : List String) :
    remarkRows (levels + level) lines = (remarkRows level lines).map (Row.deeper levels) := by
  simp [remarkRows, Row.deeper]

mutual

/-- Deeper fragments have the same rows, and only their levels are others. -/
theorem Fragment.rows_deeper (levels level : Nat) :
    (fragment : Fragment) →
      fragment.rows (levels + level) = (fragment.rows level).map (Row.deeper levels)
  | .line _ => rfl
  | .blank => rfl
  | .block header body close => by
      have inner := rowsOf_deeper levels (level + 1) body
      rw [← Nat.add_assoc] at inner
      rw [Fragment.rows, Fragment.rows, inner, List.map_append, List.map_cons, List.map_map]
      rfl
  | .indented body => by
      rw [Fragment.rows, Fragment.rows, Nat.add_assoc, rowsOf_deeper levels (level + 1) body]
  | .remark _ => rfl
  | .remarks lines => by
      rw [Fragment.rows, Fragment.rows, remarkRows_deeper]

theorem rowsOf_deeper (levels level : Nat) :
    (fragments : List Fragment) →
      rowsOf (levels + level) fragments = (rowsOf level fragments).map (Row.deeper levels)
  | [] => rfl
  | fragment :: rest => by
      rw [rowsOf, rowsOf, List.map_append, fragment.rows_deeper levels level,
        rowsOf_deeper levels level rest]

end

theorem rowsOf_singleton (level : Nat) (fragment : Fragment) :
    rowsOf level [fragment] = fragment.rows level :=
  List.append_nil _

theorem join_renderAt (level : Nat) (fragments : List Fragment) :
    String.join (fragments.map fun fragment => renderAt level [fragment])
      = renderAt level fragments := by
  induction fragments with
  | nil => rfl
  | cons fragment rest induction =>
      rw [List.map_cons, String.join_cons, induction, ← renderAt_append, List.singleton_append]

/-- Indentation goes in front of every row, and so it does not matter how deep the rows
are already. -/
theorem render_rows_deeper (levels : Nat) (fragment : Fragment) :
    renderAt levels [fragment]
      = String.join ((fragment.rows 0).map (Row.renderBehind levels)) := by
  have rows := fragment.rows_deeper levels 0
  rw [Nat.add_zero] at rows
  rw [renderAt, rowsOf_singleton, rows, List.map_map]
  exact congrArg String.join (List.map_congr_left fun row _ => row.render_deeper levels)

/-! ## Builders -/

namespace Builder

/-- Rows are written behind what was written before. -/
def add (builder : Builder) (rows : List Row) : Builder :=
  { builder with text := builder.text ++ String.join (rows.map Row.render) }

variable (builder : Builder)

theorem add_nil : builder.add [] = builder := by
  simp [add]

theorem add_add (front behind : List Row) :
    (builder.add front).add behind = builder.add (front ++ behind) := by
  simp only [add, List.map_append, String.join_append, String.append_assoc]

theorem line_eq (text : String) : builder.line text = builder.add [.text builder.level text] := by
  simp [line, add]

theorem blank_eq : builder.blank = builder.add [.blank] := by
  simp [blank, add]

/-- What is written one level deeper comes back to the level. -/
theorem dedent_add_indent (rows : List Row) :
    (builder.indent.add rows).dedent = builder.add rows :=
  rfl

theorem foldl_line (textOf : String → String) (lines : List String) :
    lines.foldl (fun builder line => builder.line (textOf line)) builder
      = builder.add (lines.map fun line => .text builder.level (textOf line)) := by
  induction lines generalizing builder with
  | nil => exact builder.add_nil.symm
  | cons line rest induction =>
      rw [List.foldl_cons, induction, line_eq, add_add]
      rfl

theorem remarks_eq (lines : List String) :
    builder.remarks lines = builder.add (remarkRows builder.level lines) := by
  rw [remarks, foldl_line, line_eq, line_eq, add_add, add_add, remarkRows]
  rfl

/-- A header and what stands under it. -/
theorem dedent_add_header (header : String) (rows : List Row) :
    ((builder.line header).indent.add rows).dedent
      = builder.add (.text builder.level header :: rows) := by
  rw [dedent_add_indent, line_eq, add_add]
  rfl

mutual

theorem write_eq (builder : Builder) :
    (fragment : Fragment) → builder.write fragment = builder.add (fragment.rows builder.level)
  | .line text => builder.line_eq text
  | .blank => builder.blank_eq
  | .block header body close => by
      have inner : (writeAll (builder.line header).indent body).dedent
          = builder.add (.text builder.level header :: rowsOf (builder.level + 1) body) := by
        rw [writeAll_eq _ body]
        exact builder.dedent_add_header header _
      cases close with
      | none =>
          rw [Fragment.rows, Option.toList_none, List.map_nil, List.append_nil]
          exact inner
      | some close =>
          have closed : builder.write (.block header body (some close))
              = (writeAll (builder.line header).indent body).dedent.line close := rfl
          rw [closed, inner, line_eq, add_add, Fragment.rows]
          rfl
  | .indented body => by
      have inner := writeAll_eq builder.indent body
      exact (congrArg dedent inner).trans (builder.dedent_add_indent _)
  | .remark text => builder.line_eq (remarkText text)
  | .remarks lines => builder.remarks_eq lines

theorem writeAll_eq (builder : Builder) :
    (fragments : List Fragment) →
      builder.writeAll fragments = builder.add (rowsOf builder.level fragments)
  | [] => builder.add_nil.symm
  | fragment :: rest => by
      have first := builder.write_eq fragment
      have later := writeAll_eq (builder.add (fragment.rows builder.level)) rest
      rw [add_add] at later
      exact (congrArg (writeAll · rest) first).trans later

end

/-- A builder that has written nothing yet. -/
def fresh (level : Nat) : Builder := ⟨level, ""⟩

theorem text_write_fresh (level : Nat) (fragment : Fragment) :
    ((fresh level).write fragment).text = renderAt level [fragment] := by
  rw [write_eq, renderAt, rowsOf_singleton]
  exact String.empty_append

/-- How the layout of fragments is put together, wherever the builder stands. -/
structure Composes (builder : Builder) : Prop where
  level : ∀ fragment, (builder.write fragment).level = builder.level
  /-- What was written stays. Behind it stand the rows that are written on the outermost
  level, each behind the indentation of this level. -/
  text : ∀ fragment, (builder.write fragment).text
    = builder.text ++ String.join ((fragment.rows 0).map (Row.renderBehind builder.level))
  outermost : ∀ fragment,
    (empty.write fragment).text = String.join ((fragment.rows 0).map Row.render)
  /-- Fragments are laid out one by one. -/
  list : ∀ fragments, builder.writeAll fragments
    = ⟨builder.level, builder.text
        ++ String.join (fragments.map fun fragment => ((fresh builder.level).write fragment).text)⟩
  /-- The layout of files is what a builder writes. -/
  file : ∀ fragments,
    renderAt builder.level fragments = ((fresh builder.level).writeAll fragments).text
  /-- A block is the same whether its body is written in between or it is one fragment. -/
  block : ∀ header close fragments (body : Builder → Builder),
    (∀ inner, body inner = inner.writeAll fragments) →
      builder.block header close body = builder.write (.block header fragments (some close))

theorem layout_composes (builder : Builder) : Composes builder where
  level fragment := by
    rw [write_eq]
    rfl
  text fragment := by
    rw [write_eq, ← render_rows_deeper, renderAt, rowsOf_singleton]
    rfl
  outermost fragment := by
    rw [write_eq]
    exact String.empty_append
  list fragments := by
    rw [writeAll_eq, add, ← renderAt, ← join_renderAt]
    simp only [text_write_fresh]
  file fragments := by
    rw [writeAll_eq]
    exact String.empty_append.symm
  block header close fragments body writes := by
    have same : body = fun inner => inner.writeAll fragments := funext writes
    rw [same]
    rfl

example : (write ⟨1, "a\n"⟩ (.block "b" [.blank, .line "c"] none)).text = "a\n  b\n\n    c\n" := by
  decide +kernel

end Builder

end SchemaScaffold.Code
