import SchemaScaffold.Naming
import SchemaScaffold.Proofs.Text.Pieces

/-! Names that are made from labels hold no separators, and no slash unless the label
does. Labels are cut at separators, and the mappings of letter cases lead neither to
these nor to a slash: what has no mapping stays as it is, and the tables themselves
lead past the ranges that are reserved. -/

namespace SchemaScaffold.Text

/-! ## The tables -/

def slashRange : Nat × Nat := (0x2F, 0x2F)

def underscoreRange : Nat × Nat := (0x5F, 0x5F)

/-- White space and the underscore. -/
def separatorRanges : List (Nat × Nat) := underscoreRange :: blankRanges

/-- The separators and the slash. -/
def reservedRanges : List (Nat × Nat) := slashRange :: separatorRanges

/-- The characters that a run leads to are between two reserved ranges. -/
def CaseRun.AvoidsReserved (run : CaseRun) : Prop :=
  ∀ range ∈ reservedRanges, run.last + run.shift < range.1 ∨ range.2 < run.first + run.shift

instance (run : CaseRun) : Decidable run.AvoidsReserved :=
  inferInstanceAs (Decidable (∀ range ∈ reservedRanges, _))

theorem upperRuns_avoid : ∀ run ∈ upperRuns, run.AvoidsReserved := by decide +kernel

theorem lowerRuns_avoid : ∀ run ∈ lowerRuns, run.AvoidsReserved := by decide +kernel

theorem upperExpansions_avoid :
    ∀ expansion ∈ upperExpansions, ∀ code ∈ expansion.2,
      inRanges reservedRanges (Char.ofNat code) = false := by
  decide +kernel

theorem lowerExpansions_avoid :
    ∀ expansion ∈ lowerExpansions, ∀ code ∈ expansion.2,
      inRanges reservedRanges (Char.ofNat code) = false := by
  decide +kernel

/-- No white space is in the text. -/
def IsSolid (text : String) : Prop := ∀ c ∈ text.toList, isBlank c = false

/-- A literal is checked character by character. -/
theorem IsSolid.of_all {text : String} (all : (text.toList.all fun c => !isBlank c) = true) :
    IsSolid text := by
  simpa [IsSolid] using all

theorem IsSolid.append {front behind : String} (solidFront : IsSolid front)
    (solidBehind : IsSolid behind) : IsSolid (front ++ behind) := by
  rw [IsSolid, String.toList_append, List.forall_mem_append]
  exact ⟨solidFront, solidBehind⟩

/-! ## Characters -/

theorem inRanges_eq_true {ranges : List (Nat × Nat)} {c : Char} :
    inRanges ranges c = true ↔ ∃ range ∈ ranges, range.1 ≤ c.toNat ∧ c.toNat ≤ range.2 := by
  simp [inRanges]

theorem inRanges_eq_false_of_subset {ranges wider : List (Nat × Nat)} (subset : ranges ⊆ wider)
    {c : Char} (outside : inRanges wider c = false) : inRanges ranges c = false := by
  rw [Bool.eq_false_iff] at outside ⊢
  intro inside
  rcases inRanges_eq_true.mp inside with ⟨range, isRange, bounds⟩
  exact outside (inRanges_eq_true.mpr ⟨range, subset isRange, bounds⟩)

theorem inRanges_single (mark : Char) {c : Char} :
    inRanges [(mark.toNat, mark.toNat)] c = (c == mark) := by
  rw [Bool.eq_iff_iff, inRanges_eq_true, beq_iff_eq, ← Char.toNat_inj]
  simp only [List.mem_singleton, exists_eq_left]
  exact ⟨fun bounds => Nat.le_antisymm bounds.2 bounds.1, fun equal => by simp [equal]⟩

theorem inRanges_slash {c : Char} : inRanges [slashRange] c = (c == '/') :=
  inRanges_single '/'

theorem inRanges_separators {c : Char} :
    inRanges separatorRanges c = (c == '_' || isBlank c) := by
  have underscore : inRanges [underscoreRange] c = (c == '_') := inRanges_single '_'
  rw [← underscore, isBlank, inRanges, inRanges, inRanges, separatorRanges, List.any_cons,
    List.any_cons, List.any_nil, Bool.or_false]

theorem toNat_ofNat_eq_or (code : Nat) :
    (Char.ofNat code).toNat = code ∨ (Char.ofNat code).toNat = 0 := by
  by_cases valid : code.isValidChar
  · exact .inl (by rw [Char.ofNat, dif_pos valid]; rfl)
  · exact .inr (by rw [Char.ofNat, dif_neg valid]; rfl)

theorem inRanges_apply {run : CaseRun} (avoids : run.AvoidsReserved) {code : Nat}
    (covers : run.covers code = true) :
    inRanges reservedRanges (Char.ofNat (run.apply code)) = false := by
  have positive : ∀ range ∈ reservedRanges, 0 < range.1 := by decide
  rw [Bool.eq_false_iff]
  intro reserved
  rcases inRanges_eq_true.mp reserved with ⟨range, isRange, bounds⟩
  have passes := avoids range isRange
  have later := positive range isRange
  simp only [CaseRun.covers, Bool.and_eq_true, decide_eq_true_eq] at covers
  simp only [CaseRun.apply] at bounds
  rcases toNat_ofNat_eq_or (code + run.shift).toNat with same | zero <;> omega

section Reserved

variable {ranges : List (Nat × Nat)} (reserved : ranges ⊆ reservedRanges)
include reserved

theorem inRanges_of_mem_mapped {expansions : List (Nat × List Nat)} {runs : List CaseRun}
    (expansionsAvoid : ∀ expansion ∈ expansions, ∀ code ∈ expansion.2,
      inRanges reservedRanges (Char.ofNat code) = false)
    (runsAvoid : ∀ run ∈ runs, run.AvoidsReserved) {c : Char}
    (outside : inRanges ranges c = false) :
    ∀ image ∈ mapped expansions runs c, inRanges ranges image = false := by
  rw [mapped]
  split
  · next expanded =>
      have isExpansion := List.mem_of_find?_eq_some expanded
      exact List.forall_mem_map.mpr fun code isCode =>
        inRanges_eq_false_of_subset reserved (expansionsAvoid _ isExpansion code isCode)
  · split
    · next run found =>
        have covers := List.find?_some found
        have avoids := runsAvoid run (List.mem_of_find?_eq_some found)
        exact List.forall_mem_singleton.mpr
          (inRanges_eq_false_of_subset reserved (inRanges_apply avoids covers))
    · exact List.forall_mem_singleton.mpr outside

theorem inRanges_of_mem_upper {c : Char} (outside : inRanges ranges c = false) :
    ∀ image ∈ upper c, inRanges ranges image = false :=
  inRanges_of_mem_mapped reserved upperExpansions_avoid upperRuns_avoid outside

theorem inRanges_of_mem_lower {c : Char} (outside : inRanges ranges c = false) :
    ∀ image ∈ lower c, inRanges ranges image = false :=
  inRanges_of_mem_mapped reserved lowerExpansions_avoid lowerRuns_avoid outside

end Reserved

end SchemaScaffold.Text

namespace SchemaScaffold.Naming

open Text

/-! ## Names -/

theorem mem_of_mem_words {label word : List Char} (isWord : word ∈ words label) :
    ∀ c ∈ word, c ∈ label ∧ isSeparator c = false := by
  intro c isChar
  have isPiece := (List.mem_filter.mp isWord).1
  exact ⟨mem_of_mem_splitWhere isPiece isChar, isCut_of_mem_splitWhere isPiece c isChar⟩

theorem ne_nil_of_mem_words {label word : List Char} (isWord : word ∈ words label) : word ≠ [] := by
  have kept := (List.mem_filter.mp isWord).2
  rintro rfl
  cases kept

/-- A name starts as one of its words does. -/
theorem exists_word_of_head_pascal {label : String} {first : Char}
    (isFirst : first ∈ (pascal label).toList.head?) :
    ∃ word ∈ words label.toList, first ∈ (capitalize word).head? := by
  rw [pascal, String.toList_ofList, pascalChars, List.head?_flatMap] at isFirst
  exact List.exists_of_findSome?_eq_some isFirst

section Reserved

variable {ranges : List (Nat × Nat)} (reserved : ranges ⊆ reservedRanges)
include reserved

theorem inRanges_of_mem_capitalize {word : List Char}
    (outside : ∀ c ∈ word, inRanges ranges c = false) :
    ∀ c ∈ capitalize word, inRanges ranges c = false := by
  cases word with
  | nil => exact List.forall_mem_nil _
  | cons head rest =>
      rw [List.forall_mem_cons] at outside
      rw [capitalize, List.forall_mem_append]
      refine ⟨inRanges_of_mem_upper reserved outside.1, fun image isImage => ?_⟩
      rcases List.mem_flatMap.mp isImage with ⟨c, isChar, isLower⟩
      exact inRanges_of_mem_lower reserved (outside.2 c isChar) image isLower

theorem inRanges_of_mem_uncapitalize {word : List Char}
    (outside : ∀ c ∈ word, inRanges ranges c = false) :
    ∀ c ∈ uncapitalize word, inRanges ranges c = false := by
  cases word with
  | nil => exact List.forall_mem_nil _
  | cons head rest =>
      rw [List.forall_mem_cons] at outside
      rw [uncapitalize, List.forall_mem_append]
      exact ⟨inRanges_of_mem_lower reserved outside.1, outside.2⟩

/-- What the words of a label keep out, its names keep out. -/
theorem inRanges_of_mem_pascal {label : String}
    (outside : ∀ c ∈ label.toList, isSeparator c = false → inRanges ranges c = false) :
    ∀ c ∈ (pascal label).toList, inRanges ranges c = false := by
  rw [pascal, String.toList_ofList]
  intro c isChar
  rcases List.mem_flatMap.mp isChar with ⟨word, isWord, isChar⟩
  refine inRanges_of_mem_capitalize reserved (fun c isChar => ?_) c isChar
  exact outside c (mem_of_mem_words isWord c isChar).1 (mem_of_mem_words isWord c isChar).2

theorem inRanges_of_mem_camel {label : String}
    (outside : ∀ c ∈ label.toList, isSeparator c = false → inRanges ranges c = false) :
    ∀ c ∈ (camel label).toList, inRanges ranges c = false := by
  have ofPascal := inRanges_of_mem_pascal reserved outside
  rw [pascal, String.toList_ofList] at ofPascal
  rw [camel, String.toList_ofList]
  exact inRanges_of_mem_uncapitalize reserved ofPascal

end Reserved

theorem noSeparator_names (label : String) :
    (∀ c ∈ (pascal label).toList, isSeparator c = false) ∧
      ∀ c ∈ (camel label).toList, isSeparator c = false := by
  have reserved : separatorRanges ⊆ reservedRanges := List.subset_cons_self _ _
  have isSeparator_eq (c : Char) : isSeparator c = inRanges separatorRanges c :=
    inRanges_separators.symm
  simp only [isSeparator_eq]
  exact ⟨inRanges_of_mem_pascal reserved fun c _ noCut => isSeparator_eq c ▸ noCut,
    inRanges_of_mem_camel reserved fun c _ noCut => isSeparator_eq c ▸ noCut⟩

theorem isBlank_of_not_isSeparator {c : Char} (notCut : isSeparator c = false) :
    isBlank c = false := by
  rw [isSeparator, Bool.or_eq_false_iff] at notCut
  exact notCut.2

theorem isSolid_pascal (label : String) : IsSolid (pascal label) := fun c isChar =>
  isBlank_of_not_isSeparator ((noSeparator_names label).1 c isChar)

theorem isSolid_camel (label : String) : IsSolid (camel label) := fun c isChar =>
  isBlank_of_not_isSeparator ((noSeparator_names label).2 c isChar)

/-- Only a label with a slash has names with slashes. -/
theorem noSlash_names {label : String} (noSlash : '/' ∉ label.toList) :
    '/' ∉ (camel label).toList ∧ '/' ∉ (pascal label).toList := by
  have reserved : [slashRange] ⊆ reservedRanges := by simp [reservedRanges]
  have outside_iff (characters : List Char) :
      '/' ∉ characters ↔ ∀ c ∈ characters, inRanges [slashRange] c = false := by
    simp only [inRanges_slash, beq_eq_false_iff_ne]
    exact ⟨fun lacks c isChar equal => lacks (equal ▸ isChar), fun all isChar => all _ isChar rfl⟩
  rw [outside_iff] at noSlash ⊢
  rw [outside_iff]
  exact ⟨inRanges_of_mem_camel reserved fun c isChar _ => noSlash c isChar,
    inRanges_of_mem_pascal reserved fun c isChar _ => noSlash c isChar⟩

end SchemaScaffold.Naming
