import SchemaScaffold.Proofs.Code.Lines
import SchemaScaffold.Proofs.Text.LatinLetters
import SchemaScaffold.Selection

/-! What a text selects, and that the text of a selection selects the same again.
Names are trimmed before they are looked at, so neither the space that is printed
behind a comma nor any other white space around a name matters. -/

namespace SchemaScaffold

namespace Text

/-! ## Trimming -/

/-- What stands between the white space at the two ends of a text. -/
structure TrimsTo (text inner : List Char) : Prop where
  within : ∃ before behind, text = before ++ inner ++ behind ∧
    (∀ c ∈ before, isBlank c = true) ∧ ∀ c ∈ behind, isBlank c = true
  first : ∀ c ∈ inner.head?, isBlank c = false
  last : ∀ c ∈ inner.getLast?, isBlank c = false

theorem dropWhile_isBlank {before rest : List Char} (blank : ∀ c ∈ before, isBlank c = true)
    (visible : ∀ c ∈ rest.head?, isBlank c = false) :
    (before ++ rest).dropWhile isBlank = rest := by
  rw [List.dropWhile_append_of_pos blank]
  cases rest with
  | nil => rfl
  | cons c others => rw [List.dropWhile_cons_of_neg (by simp [visible c rfl])]

theorem trimStart_append {before rest : List Char} (blank : ∀ c ∈ before, isBlank c = true)
    (visible : ∀ c ∈ rest.head?, isBlank c = false) : trimStart (before ++ rest) = rest :=
  dropWhile_isBlank blank visible

theorem trimEnd_append {rest behind : List Char} (blank : ∀ c ∈ behind, isBlank c = true)
    (visible : ∀ c ∈ rest.getLast?, isBlank c = false) : trimEnd (rest ++ behind) = rest := by
  have reversed : (behind.reverse ++ rest.reverse).dropWhile isBlank = rest.reverse :=
    dropWhile_isBlank (by simpa using blank) (by simpa using visible)
  rw [trimEnd, List.reverse_append, reversed, List.reverse_reverse]

theorem isBlank_of_mem_takeWhile {text : List Char} :
    ∀ c ∈ text.takeWhile isBlank, isBlank c = true :=
  List.all_eq_true.mp List.all_takeWhile

theorem visible_head?_dropWhile (text : List Char) :
    ∀ c ∈ (text.dropWhile isBlank).head?, isBlank c = false := by
  intro c isHead
  have stopped := List.head?_dropWhile_not isBlank text
  rw [Option.mem_def.mp isHead] at stopped
  exact stopped

theorem trimsTo_trim (text : List Char) : TrimsTo text (trim text) := by
  let before := text.takeWhile isBlank
  let kept := trimStart text
  let behind := (kept.reverse.takeWhile isBlank).reverse
  have start : text = before ++ kept := List.takeWhile_append_dropWhile.symm
  have ending : kept = trim text ++ behind := by
    rw [trim, trimEnd, ← List.reverse_append, List.takeWhile_append_dropWhile,
      List.reverse_reverse]
  refine ⟨⟨before, behind, ?_, isBlank_of_mem_takeWhile, ?_⟩, fun c isFirst => ?_,
    fun c isLast => ?_⟩
  · rw [List.append_assoc, ← ending, ← start]
  · simpa [behind] using isBlank_of_mem_takeWhile
  · -- What is cut off at the end leaves the start as it was.
    apply visible_head?_dropWhile text
    change c ∈ kept.head?
    rw [ending, List.head?_append, Option.mem_def.mp isFirst]
    rfl
  · rw [trim, trimEnd, List.getLast?_reverse] at isLast
    exact visible_head?_dropWhile _ c isLast

theorem TrimsTo.trim_eq {text inner : List Char} (trims : TrimsTo text inner) :
    trim text = inner := by
  rcases trims.within with ⟨before, behind, rfl, blankBefore, blankBehind⟩
  rw [trim, List.append_assoc]
  cases inner with
  | nil =>
      have blank : ∀ c ∈ before ++ behind, isBlank c = true :=
        List.forall_mem_append.mpr ⟨blankBefore, blankBehind⟩
      have nothing : trimStart (before ++ behind ++ []) = [] := trimStart_append blank (by simp)
      rw [List.append_nil] at nothing
      rw [List.nil_append, nothing]
      rfl
  | cons c rest =>
      rw [trimStart_append blankBefore (by simpa using trims.first),
        trimEnd_append blankBehind trims.last]

/-- White space may stand in front of a trimmed text. -/
theorem TrimsTo.behind {text inner gap : List Char} (trims : TrimsTo text inner)
    (blank : ∀ c ∈ gap, isBlank c = true) : TrimsTo (gap ++ inner) inner where
  within := ⟨gap, [], by simp, blank, by simp⟩
  first := trims.first
  last := trims.last

end Text

namespace Selection

open Code

/-! ## The names in a text -/

/-- The texts between the commas, each without the white space around it. -/
def AreNamesIn (text : String) (names : List String) : Prop :=
  ∃ pieces : List String, pieces ≠ [] ∧ ",".intercalate pieces = text ∧
    (∀ piece ∈ pieces, Lacks ',' piece) ∧
    List.Forall₂ (fun piece name => Text.TrimsTo piece.toList name.toList) pieces names

/-- The word for everything, in capital or small letters. -/
def IsAllWord (name : String) : Prop :=
  Text.IsSpelledIn [⟨'a', 'A', by decide, rfl⟩, ⟨'l', 'L', by decide, rfl⟩,
    ⟨'l', 'L', by decide, rfl⟩] name

/-- No name is given, or one of them stands for everything. -/
def AskForAll (names : List String) : Prop :=
  (∀ name ∈ names, name = "") ∨ ∃ name ∈ names, IsAllWord name

theorem isAllWord_iff {name : String} : isAllWord name = true ↔ IsAllWord name := by
  rw [isAllWord, beq_iff_eq, IsAllWord, Text.isSpelledIn_iff]
  rfl

theorem askForAll_filter {names : List String} :
    AskForAll (names.filter (· != "")) ↔ AskForAll names := by
  have notEmpty : ¬ IsAllWord "" := by rw [← isAllWord_iff]; decide
  constructor
  · rintro (empty | ⟨name, isName, isWord⟩)
    · refine .inl fun name isName => Decidable.byContradiction fun given => ?_
      exact given (empty name (List.mem_filter.mpr ⟨isName, by simpa using given⟩))
    · exact .inr ⟨name, List.mem_of_mem_filter isName, isWord⟩
  · rintro (empty | ⟨name, isName, isWord⟩)
    · exact .inl fun name isName => empty name (List.mem_of_mem_filter isName)
    · refine .inr ⟨name, List.mem_filter.mpr ⟨isName, ?_⟩, isWord⟩
      simpa using fun empty : name = "" => notEmpty (empty ▸ isWord)

/-! ## Cutting at commas -/

def trimmed (piece : String) : String := String.ofList (Text.trim piece.toList)

def trimmedPieces (text : String) : List String := (Text.pieces (· == ',') text).map trimmed

theorem trimsTo_trimmed (piece : String) :
    Text.TrimsTo piece.toList (trimmed piece).toList := by
  rw [trimmed, String.toList_ofList]
  exact Text.trimsTo_trim piece.toList

theorem lacks_of_mem_pieces {text piece : String} (isPiece : piece ∈ Text.pieces (· == ',') text) :
    Lacks ',' piece := by
  rcases List.mem_map.mp isPiece with ⟨characters, isCharacters, rfl⟩
  intro isComma
  rw [String.toList_ofList] at isComma
  exact absurd (Text.isCut_of_mem_splitWhere isCharacters _ isComma) (by simp)

theorem trimsTo_of_mem_trimmedPieces {text name : String} (isName : name ∈ trimmedPieces text) :
    ∃ piece, Text.TrimsTo piece name.toList := by
  rcases List.mem_map.mp isName with ⟨piece, _, rfl⟩
  exact ⟨_, trimsTo_trimmed piece⟩

theorem lacks_of_mem_trimmedPieces {text name : String} (isName : name ∈ trimmedPieces text) :
    Lacks ',' name := by
  rcases List.mem_map.mp isName with ⟨piece, isPiece, rfl⟩
  rcases (trimsTo_trimmed piece).within with ⟨before, behind, whole, _⟩
  intro isComma
  apply lacks_of_mem_pieces isPiece
  rw [whole]
  simp [isComma]

theorem areNamesIn_iff {text : String} {names : List String} :
    AreNamesIn text names ↔ names = trimmedPieces text := by
  constructor
  · rintro ⟨pieces, some, rfl, whole, trims⟩
    rw [trimmedPieces, pieces_intercalate rfl some whole, eq_comm, ← List.forall₂_eq_eq_eq,
      List.forall₂_map_left_iff]
    exact trims.imp fun _ _ trim => by rw [trimmed, trim.trim_eq, String.ofList_toList]
  · rintro rfl
    refine ⟨Text.pieces (· == ',') text, ?_, intercalate_pieces rfl text, ?_, ?_⟩
    · simp [Text.pieces, Text.splitWhere_ne_nil]
    · exact fun _ => lacks_of_mem_pieces
    · rw [trimmedPieces, List.forall₂_map_right_iff, List.forall₂_same]
      exact fun piece _ => trimsTo_trimmed piece

/-! ## What is selected -/

theorem ofText_of_areNamesIn {text : String} {names : List String}
    (areNames : AreNamesIn text names) :
    (ofText text = .all ↔ AskForAll names) ∧
      (ofText text = .all ∨ ofText text = .named (names.filter (· != ""))) := by
  have given : namesIn text = names.filter (· != "") := by
    rw [areNamesIn_iff.mp areNames]
    exact List.filter_congr fun name _ => by rw [Bool.eq_iff_iff]; simp
  have noName : names.filter (· != "") = [] ↔ ∀ name ∈ names.filter (· != ""), name = "" := by
    simp [List.filter_eq_nil_iff, List.mem_filter]
  have forAll : ((names.filter (· != "")).isEmpty || (names.filter (· != "")).any isAllWord) = true
      ↔ AskForAll names := by
    rw [← askForAll_filter, AskForAll, ← noName, Bool.or_eq_true, List.isEmpty_iff,
      List.any_eq_true]
    simp only [isAllWord_iff]
  rw [ofText, given]
  split
  · next asked => exact ⟨iff_of_true rfl (forAll.mp asked), .inl rfl⟩
  · next notAsked => exact ⟨iff_of_false (by simp) (forAll.not.mp notAsked), .inr rfl⟩

/-- A space behind each comma is a space in front of each further name. -/
theorem intercalate_spaced (first : String) (others : List String) :
    ",".intercalate (first :: others.map (" " ++ ·)) = ", ".intercalate (first :: others) := by
  have comma : ", " = "," ++ " " := rfl
  rw [intercalate_cons, intercalate_cons, List.map_map, comma]
  simp only [Function.comp_def, String.append_assoc]

/-- Trimmed names are found again behind the commas and the spaces that were put
between them. -/
theorem areNamesIn_display {names : List String} (some : names ≠ [])
    (whole : ∀ name ∈ names, Lacks ',' name)
    (trims : ∀ name ∈ names, ∃ text, Text.TrimsTo text name.toList) :
    AreNamesIn (display (.named names)) names := by
  cases names with
  | nil => exact absurd rfl some
  | cons first others =>
      rw [List.forall_mem_cons] at whole trims
      refine ⟨first :: others.map (" " ++ ·), List.cons_ne_nil _ _, ?_, ?_, ?_⟩
      · exact intercalate_spaced first others
      · rw [List.forall_mem_cons, List.forall_mem_map]
        exact ⟨whole.1, fun name isName => by simp [Lacks, whole.2 name isName]⟩
      · have space : ∀ c ∈ (" " : String).toList, Text.isBlank c = true :=
          List.forall_mem_singleton.mpr rfl
        have behind {gap name : String} (blank : ∀ c ∈ gap.toList, Text.isBlank c = true)
            (trims : ∃ text, Text.TrimsTo text name.toList) :
            Text.TrimsTo (gap ++ name).toList name.toList := by
          rcases trims with ⟨text, trims⟩
          rw [String.toList_append]
          exact trims.behind blank
        refine .cons ?_ ?_
        · rw [← String.empty_append (s := first)]
          exact behind (by simp) trims.1
        · rw [List.forall₂_map_left_iff, List.forall₂_same]
          exact fun name isName => behind space (trims.2 name isName)

/-- A selection that was read from a text is read from its own text as well. What it
is depends on the names between the commas alone. -/
theorem selections_survive_display (text : String) :
    ofText (ofText text).display = ofText text ∧
      ∃ names, AreNamesIn text names ∧ (ofText text = .all ↔ AskForAll names) ∧
        (ofText text = .all ∨ ofText text = .named (names.filter (· != ""))) := by
  have areNames : AreNamesIn text (trimmedPieces text) := areNamesIn_iff.mpr rfl
  refine ⟨?_, _, areNames, ofText_of_areNamesIn areNames⟩
  rcases ofText_of_areNamesIn areNames with ⟨all_iff, all | named⟩
  · rw [all]
    decide +kernel
  · let names := (trimmedPieces text).filter (· != "")
    have notAsked : ¬ AskForAll names := by
      rw [askForAll_filter, ← all_iff, named]
      simp
    have some : names ≠ [] := fun none => notAsked (.inl (by simp [none]))
    have shown : AreNamesIn (display (.named names)) names := by
      apply areNamesIn_display some
      · exact fun name isName => lacks_of_mem_trimmedPieces (List.mem_of_mem_filter isName)
      · exact fun name isName => trimsTo_of_mem_trimmedPieces (List.mem_of_mem_filter isName)
    have kept : names.filter (· != "") = names := by simp [names, List.filter_filter]
    rw [named]
    rcases ofText_of_areNamesIn shown with ⟨all_iff', all' | named'⟩
    · exact absurd (all_iff'.mp all') notAsked
    · rw [named', kept]

example : ofText " Order Item ,, OrderItem" = .named ["Order Item", "OrderItem"] := by
  decide +kernel

end Selection

end SchemaScaffold
