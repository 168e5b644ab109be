import SchemaScaffold.Proofs.Code.Statements

/-! What is found in code that is given as a text. The text is cut into lines, and
these are laid out like any others. -/

namespace SchemaScaffold.Code

open Text

variable {α : Type} {read : String → Option α}

/-! ## Lines of a text -/

theorem lines_ended {line : List Char} (plain : '\n' ∉ line) (rest : List Char) :
    Text.lines (line ++ '\n' :: rest) = dropReturn line :: Text.lines rest := by
  have noCut : ∀ c ∈ line, (c == '\n') = false := fun c isChar =>
    beq_eq_false_iff_ne.mpr fun equal => plain (equal ▸ isChar)
  rw [Text.lines, splitWhere_append_cut (by rfl), splitWhere_of_no_cut noCut]
  cases pieces : splitWhere (· == '\n') rest with
  | nil => exact absurd pieces (splitWhere_ne_nil _ _)
  | cons piece others => rw [Text.lines, pieces, List.singleton_append, linesOfPieces]

/-- Lines that are ended one by one, in front of another text. -/
theorem lines_joined {texts : List String} (plain : ∀ text ∈ texts, Lacks '\n' text)
    (rest : List Char) :
    Text.lines ((String.join (texts.map (· ++ "\n"))).toList ++ rest)
      = texts.map (fun text => dropReturn text.toList) ++ Text.lines rest := by
  induction texts with
  | nil => rfl
  | cons text others induction =>
      rw [List.forall_mem_cons] at plain
      have parts : (String.join ((text :: others).map (· ++ "\n"))).toList ++ rest
          = text.toList ++ '\n' :: ((String.join (others.map (· ++ "\n"))).toList ++ rest) := by
        simp [String.join_cons]
      rw [parts, lines_ended plain.1, induction plain.2, List.map_cons, List.cons_append]

theorem dropReturn_of_getLast? {line : List Char} (last : line.getLast? ≠ some '\r') :
    dropReturn line = line := by
  rw [dropReturn]
  split
  · next reversed =>
      rw [← List.head?_reverse, reversed] at last
      exact absurd rfl last
  · rfl

theorem linesOfPieces_eq {pieces : List (List Char)}
    (kept : ∀ piece ∈ pieces, piece.getLast? ≠ some '\r') (some : pieces.getLast? ≠ some []) :
    linesOfPieces pieces = pieces := by
  induction pieces with
  | nil => rfl
  | cons piece rest induction =>
      rw [List.forall_mem_cons] at kept
      cases rest with
      | nil =>
          have notEmpty : piece.isEmpty = false := by simpa using some
          rw [linesOfPieces, notEmpty]
          rfl
      | cons next others =>
          rw [List.getLast?_cons_cons] at some
          rw [linesOfPieces, dropReturn_of_getLast? kept.1, induction kept.2 some]

/-- A text is read as the lines it has, unless a carriage return ends one of them or nothing
is behind its last line feed. -/
theorem lines_eq {text : String} (kept : ∀ line ∈ linesOf text, line.toList.getLast? ≠ some '\r')
    (some : (linesOf text).getLast? ≠ some "") :
    Text.lines text.toList = (linesOf text).map String.toList := by
  have same : String.toList ∘ String.ofList = id := funext fun piece => String.toList_ofList
  rw [linesOf, pieces, List.map_map, same, List.map_id]
  rw [linesOf, pieces] at kept some
  rw [List.forall_mem_map] at kept
  apply linesOfPieces_eq
  · simpa using kept
  · intro empty
    exact some (by rw [List.getLast?_map, empty]; rfl)

theorem dropReturn_subset (line : List Char) : dropReturn line ⊆ line := by
  rw [dropReturn]
  split
  · next rest reversed =>
      intro c isChar
      rw [← List.mem_reverse, reversed]
      exact List.mem_cons_of_mem _ (List.mem_reverse.mp isChar)
  · exact List.Subset.refl _

/-- The start of a line stays, unless a carriage return belongs to it. -/
theorem prefix_dropReturn {start line : List Char} (starts : start <+: line)
    (noReturn : '\r' ∉ start) : start <+: dropReturn line := by
  rw [dropReturn]
  split
  · next rest reversed =>
      have whole : line = rest.reverse ++ ['\r'] := by
        rw [← List.reverse_reverse line, reversed, List.reverse_cons]
      rw [whole] at starts
      rcases List.prefix_concat_iff.mp starts with same | shorter
      · exact absurd (same ▸ by simp) noReturn
      · exact shorter
  · exact starts

theorem lacks_of_mem_lines {text line : List Char} (isLine : line ∈ Text.lines text) :
    '\n' ∉ line := by
  have ofPieces : ∀ pieces : List (List Char), (∀ piece ∈ pieces, '\n' ∉ piece) →
      ∀ line ∈ linesOfPieces pieces, '\n' ∉ line := by
    intro pieces plain
    induction pieces with
    | nil => exact List.forall_mem_nil _
    | cons piece rest induction =>
        rw [List.forall_mem_cons] at plain
        cases rest with
        | nil =>
            rw [linesOfPieces]
            split
            · exact List.forall_mem_nil _
            · exact List.forall_mem_singleton.mpr plain.1
        | cons next others =>
            rw [linesOfPieces, List.forall_mem_cons]
            exact ⟨fun isChar => plain.1 (dropReturn_subset piece isChar), induction plain.2⟩
  refine ofPieces _ (fun piece isPiece isFeed => ?_) line isLine
  exact absurd (isCut_of_mem_splitWhere isPiece _ isFeed) (by decide)

theorem render_eq_join (fragments : List Fragment) :
    Code.render fragments = String.join ((linesAt 0 fragments).map (· ++ "\n")) := by
  rw [Code.render, renderAt, linesAt, List.map_map]
  exact congrArg String.join (List.map_congr_left fun row _ => row.render_eq)

theorem render_lines (texts : List String) :
    Code.render (texts.map .line) = String.join (texts.map (· ++ "\n")) := by
  rw [render_eq_join, linesAt_zero_lines]

theorem linesOf_joined {texts : List String} (plain : ∀ text ∈ texts, Lacks '\n' text) :
    linesOf (String.join (texts.map (· ++ "\n"))) = texts ++ [""] := by
  rw [← render_lines, linesOf_render (arePlain_lines plain), linesAt_zero_lines]

theorem render_line (text : String) : Code.render [.line text] = text ++ "\n" := by
  have lines := render_lines [text]
  rwa [List.map_singleton, List.map_singleton, String.join_cons, String.join_nil,
    String.append_empty] at lines

/-! ## Texts as fragments -/

/-- A line without white space at its end. -/
def IsEnded (line : String) : Prop := ∃ c ∈ line.toList.getLast?, isBlank c = false

theorem IsEnded.of_last {line : String} {c : Char} (last : line.toList.getLast? = some c)
    (visible : isBlank c = false) : IsEnded line :=
  ⟨c, last, visible⟩

theorem IsEnded.append (front : String) {behind : String} (ended : IsEnded behind) :
    IsEnded (front ++ behind) := by
  rcases ended with ⟨c, isLast, visible⟩
  rw [Option.mem_def] at isLast
  exact .of_last (by rw [String.toList_append, List.getLast?_append, isLast, Option.some_or]) visible

theorem IsEnded.toList_ne_nil {line : String} (ended : IsEnded line) : line.toList ≠ [] := by
  rcases ended with ⟨c, isLast, _⟩
  intro empty
  rw [empty] at isLast
  cases isLast

theorem IsEnded.noReturn {line : String} (ended : IsEnded line) :
    line.toList.getLast? ≠ some '\r' := by
  rcases ended with ⟨c, isLast, visible⟩
  rw [isLast]
  rintro ⟨⟩
  cases visible

theorem IsEnded.all_isBlank_eq_false {line : String} (ended : IsEnded line) :
    line.toList.all isBlank = false := by
  rcases ended with ⟨c, isLast, visible⟩
  rw [List.all_eq_false]
  exact ⟨c, List.mem_of_getLast? isLast, by simp [visible]⟩

theorem ofLine_of_visible {line : String} (visible : line.toList.all isBlank = false) :
    Fragment.ofLine line.toList = .line line := by
  rw [Fragment.ofLine, visible]
  simp

theorem ofText_intercalate {texts : List String} (some : texts ≠ [])
    (plain : ∀ text ∈ texts, Lacks '\n' text) (ended : ∀ text ∈ texts, IsEnded text) :
    Fragment.ofText ("\n".intercalate texts) = texts.map .line := by
  have cut : linesOf ("\n".intercalate texts) = texts := pieces_intercalate rfl some plain
  have lines : Text.lines ("\n".intercalate texts).toList = texts.map String.toList := by
    have read := @lines_eq ("\n".intercalate texts)
    rw [cut] at read
    refine read (fun text isText => (ended text isText).noReturn) fun empty => ?_
    exact (ended "" (List.mem_of_getLast? empty)).toList_ne_nil rfl
  rw [Fragment.ofText, lines, List.map_map]
  exact List.map_congr_left fun text isText =>
    ofLine_of_visible (ended text isText).all_isBlank_eq_false

theorem found_ofLine (nothing : read "" = none) {line : List Char} (plain : '\n' ∉ line) :
    found read [Fragment.ofLine line]
      = if line.all isBlank then [] else (read (String.ofList line)).toList := by
  rw [Fragment.ofLine]
  split
  · exact found_blank nothing
  · rw [found_line, scan_plain (by simpa [Lacks] using plain)]

theorem found_ofLines (nothing : read "" = none) {lines : List (List Char)}
    (plain : ∀ line ∈ lines, '\n' ∉ line) :
    found read (lines.map Fragment.ofLine) = lines.flatMap fun line =>
      if line.all isBlank then [] else (read (String.ofList line)).toList := by
  induction lines with
  | nil => rfl
  | cons line rest induction =>
      rw [List.forall_mem_cons] at plain
      rw [List.map_cons, found_cons, found_ofLine nothing plain.1, induction plain.2,
        List.flatMap_cons]

theorem found_ofText (nothing : read "" = none) (text : String) :
    found read (Fragment.ofText text) = (Text.lines text.toList).flatMap fun line =>
      if line.all isBlank then [] else (read (String.ofList line)).toList :=
  found_ofLines nothing fun _ => lacks_of_mem_lines

theorem found_ofText_intercalate {texts : List String} (some : texts ≠ [])
    (plain : ∀ text ∈ texts, Lacks '\n' text) (ended : ∀ text ∈ texts, IsEnded text) :
    found read (Fragment.ofText ("\n".intercalate texts))
      = texts.flatMap fun text => (read text).toList := by
  have each : ∀ text ∈ texts, scan read text = (read text).toList := fun text isText =>
    scan_plain (plain text isText)
  rw [ofText_intercalate some plain ended, found_lines, List.flatMap_def,
    List.map_congr_left each, ← List.flatMap_def]

end SchemaScaffold.Code
