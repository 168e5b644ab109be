import SchemaScaffold.Proofs.Text.Blanks

/-! Separators do nothing but separate: a name is put together from the names of the
parts between them, whichever separators these are and however many, and none of them
is left in a name. -/

namespace SchemaScaffold.Naming

/-! ## Words -/

/-- A text of separators, which may be empty. -/
def IsGap (text : String) : Prop := ∀ c ∈ text.toList, isSeparator c = true

/-- A literal is checked character by character. -/
theorem noSeparator_of_all {text : String}
    (all : (text.toList.all fun c => !isSeparator c) = true) :
    ∀ c ∈ text.toList, isSeparator c = false := by
  simpa using all

theorem words_append_separator {c : Char} (cuts : isSeparator c = true)
    (front behind : List Char) :
    words (front ++ c :: behind) = words front ++ words behind := by
  rw [words, Text.splitWhere_append_cut cuts, List.filter_append]
  rfl

theorem words_gap_append {gap : List Char} (cuts : ∀ c ∈ gap, isSeparator c = true)
    (label : List Char) : words (gap ++ label) = words label := by
  induction gap with
  | nil => rfl
  | cons c rest induction =>
      rw [List.forall_mem_cons] at cuts
      calc words (c :: rest ++ label)
          = words [] ++ words (rest ++ label) := words_append_separator cuts.1 [] _
        _ = words label := induction cuts.2

theorem words_append_gap_append {gap : List Char} (some : gap ≠ [])
    (cuts : ∀ c ∈ gap, isSeparator c = true) (front behind : List Char) :
    words (front ++ gap ++ behind) = words front ++ words behind := by
  cases gap with
  | nil => exact absurd rfl some
  | cons c rest =>
      rw [List.forall_mem_cons] at cuts
      rw [List.append_assoc, List.cons_append, words_append_separator cuts.1,
        words_gap_append cuts.2]

theorem words_append_gap {gap : List Char} (cuts : ∀ c ∈ gap, isSeparator c = true)
    (label : List Char) : words (label ++ gap) = words label := by
  cases gap with
  | nil => rw [List.append_nil]
  | cons c rest =>
      rw [← List.append_nil (label ++ c :: rest),
        words_append_gap_append (List.cons_ne_nil c rest) cuts]
      exact List.append_nil _

/-! ## Names -/

theorem pascal_append_gap_append {gap : String} (some : gap ≠ "") (isGap : IsGap gap)
    (front behind : String) : pascal (front ++ gap ++ behind) = pascal front ++ pascal behind := by
  have someChars : gap.toList ≠ [] := fun empty => some (String.toList_eq_nil_iff.mp empty)
  rw [pascal, pascal, pascal, String.toList_append, String.toList_append, pascalChars,
    words_append_gap_append someChars isGap, List.flatMap_append, String.ofList_append]
  rfl

theorem pascal_between_gaps {before after : String} (isBefore : IsGap before)
    (isAfter : IsGap after) (label : String) : pascal (before ++ label ++ after) = pascal label := by
  rw [pascal, pascal, String.toList_append, String.toList_append, pascalChars,
    words_append_gap isAfter, words_gap_append isBefore]
  rfl

theorem noSeparator_routeSegment (label : String) :
    ∀ c ∈ (routeSegment label).toList, isSeparator c = false := by
  rw [routeSegment, String.toList_append, List.forall_mem_append]
  exact ⟨(noSeparator_names label).2, noSeparator_of_all (by decide +kernel)⟩

/-- What separators are to the names of labels. -/
structure SeparatorsSeparate : Prop where
  joined : ∀ (front behind : String) (c : Char), isSeparator c = true →
    pascal (front ++ String.singleton c ++ behind) = pascal front ++ pascal behind
  /-- At the ends of a label they do not matter. -/
  atEnds : ∀ before label after : String, IsGap before → IsGap after →
    pascal (before ++ label ++ after) = pascal label
  /-- Between words it does not matter which they are, nor how many. -/
  between : ∀ front gap other behind : String, IsGap gap → IsGap other → gap ≠ "" → other ≠ "" →
    pascal (front ++ gap ++ behind) = pascal (front ++ other ++ behind)
  noneLeft : ∀ label : String, ∀ name ∈ [pascal label, camel label, routeSegment label],
    ∀ c ∈ name.toList, isSeparator c = false

theorem separators_separate : SeparatorsSeparate where
  joined front behind c cuts := by
    have isGap : IsGap (String.singleton c) := by
      rw [IsGap, String.toList_singleton, List.forall_mem_singleton]
      exact cuts
    exact pascal_append_gap_append String.singleton_ne_empty isGap front behind
  atEnds _ label _ isBefore isAfter := pascal_between_gaps isBefore isAfter label
  between front _ _ behind isGap isOther some someOther := by
    rw [pascal_append_gap_append some isGap, pascal_append_gap_append someOther isOther]
  noneLeft label := by
    simp only [List.forall_mem_cons]
    exact ⟨(noSeparator_names label).1, (noSeparator_names label).2, noSeparator_routeSegment label,
      List.forall_mem_nil _⟩

end SchemaScaffold.Naming
