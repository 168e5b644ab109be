import SchemaScaffold.Text.Split

/-! The pieces of a list that is put together from two lists. -/

namespace SchemaScaffold.Text

variable {α : Type} {isCut : α → Bool}

theorem splitWhere_append_cut {cut : α} (cuts : isCut cut = true) (front behind : List α) :
    splitWhere isCut (front ++ cut :: behind)
      = splitWhere isCut front ++ splitWhere isCut behind := by
  induction front with
  | nil => simp [splitWhere, cuts]
  | cons head rest induction =>
      rw [List.cons_append, splitWhere, splitWhere, induction]
      split
      · rfl
      · cases pieces : splitWhere isCut rest with
        | nil => exact absurd pieces (splitWhere_ne_nil isCut rest)
        | cons piece others => rfl

theorem splitWhere_of_no_cut {values : List α} (noCut : ∀ value ∈ values, isCut value = false) :
    splitWhere isCut values = [values] := by
  induction values with
  | nil => rfl
  | cons head rest induction =>
      have later := induction fun value isValue => noCut value (List.mem_cons_of_mem _ isValue)
      rw [splitWhere, noCut head (List.mem_cons_self ..), later]
      rfl

theorem isCut_of_mem_splitWhere {values piece : List α}
    (isPiece : piece ∈ splitWhere isCut values) : ∀ value ∈ piece, isCut value = false := by
  induction values generalizing piece with
  | nil =>
      rw [splitWhere, List.mem_singleton] at isPiece
      exact isPiece ▸ List.forall_mem_nil _
  | cons head rest induction =>
      rw [splitWhere] at isPiece
      split at isPiece
      · rcases List.mem_cons.mp isPiece with rfl | isLater
        · exact List.forall_mem_nil _
        · exact induction isLater
      · next noCut =>
          cases pieces : splitWhere isCut rest with
          | nil => exact absurd pieces (splitWhere_ne_nil isCut rest)
          | cons first others =>
              rw [pieces] at isPiece induction
              rcases List.mem_cons.mp isPiece with rfl | isLater
              · rw [List.forall_mem_cons]
                exact ⟨Bool.eq_false_iff.mpr noCut, induction List.mem_cons_self⟩
              · exact induction (List.mem_cons_of_mem _ isLater)

theorem mem_of_mem_splitWhere {values piece : List α} (isPiece : piece ∈ splitWhere isCut values)
    {value : α} (isValue : value ∈ piece) : value ∈ values := by
  induction values generalizing piece with
  | nil =>
      rw [splitWhere, List.mem_singleton] at isPiece
      exact isPiece ▸ isValue
  | cons head rest induction =>
      rw [splitWhere] at isPiece
      split at isPiece
      · rcases List.mem_cons.mp isPiece with rfl | isLater
        · cases isValue
        · exact List.mem_cons_of_mem _ (induction isLater isValue)
      · cases pieces : splitWhere isCut rest with
        | nil => exact absurd pieces (splitWhere_ne_nil isCut rest)
        | cons first others =>
            rw [pieces] at isPiece induction
            rcases List.mem_cons.mp isPiece with rfl | isLater
            · rcases List.mem_cons.mp isValue with rfl | isValue
              · exact List.mem_cons_self
              · exact List.mem_cons_of_mem _ (induction List.mem_cons_self isValue)
            · exact List.mem_cons_of_mem _ (induction (List.mem_cons_of_mem _ isLater) isValue)

theorem intercalate_splitWhere [BEq α] [LawfulBEq α] (cut : α) (values : List α) :
    [cut].intercalate (splitWhere (· == cut) values) = values := by
  induction values with
  | nil => rfl
  | cons head rest induction =>
      rw [splitWhere]
      cases pieces : splitWhere (· == cut) rest with
      | nil => exact absurd pieces (splitWhere_ne_nil _ rest)
      | cons piece others =>
          rw [pieces] at induction
          split
          · next isCut =>
              rw [List.intercalate_cons_cons, induction, beq_iff_eq.mp isCut]
              rfl
          · cases others with
            | nil => simpa using induction
            | cons next others =>
                rw [List.intercalate_cons_cons] at induction ⊢
                simpa using induction

/-- Without a cut, what is appended goes to the last piece. -/
theorem exists_last_piece {behind : List α} (noCut : ∀ value ∈ behind, isCut value = false)
    (front : List α) :
    ∃ pieces last, splitWhere isCut front = pieces ++ [last] ∧
      splitWhere isCut (front ++ behind) = pieces ++ [last ++ behind] := by
  induction front with
  | nil => exact ⟨[], [], rfl, splitWhere_of_no_cut noCut⟩
  | cons head rest induction =>
      rcases induction with ⟨pieces, last, split, splitAll⟩
      rw [List.cons_append, splitWhere, splitWhere, split, splitAll]
      cases isCut head with
      | true => exact ⟨[] :: pieces, last, rfl, rfl⟩
      | false =>
          cases pieces with
          | nil => exact ⟨[], head :: last, rfl, rfl⟩
          | cons piece others => exact ⟨(head :: piece) :: others, last, rfl, rfl⟩

/-! ## Parts -/

theorem isSome_around?_iff [BEq α] [LawfulBEq α] {part values : List α} :
    (around? part values).isSome = true ↔ part <:+: values := by
  induction values with
  | nil =>
      rw [around?, List.infix_nil]
      cases part <;> simp
  | cons head rest induction =>
      rw [around?, List.infix_cons_iff, ← induction, ← List.isPrefixOf_iff_prefix]
      split
      · next starts => simp [starts]
      · next notStart => simp [notStart]

variable {part front text : List α}

/-- No occurrence of a part starts in the front of a text. -/
def StartsBehind (part front text : List α) : Prop :=
  ∀ rest, rest <:+ front → rest ≠ [] → ¬ part <+: rest ++ text

theorem StartsBehind.of_not_mem {first : α} {others : List α} (notIn : first ∉ front) :
    StartsBehind (first :: others) front text := by
  intro rest isRest some starts
  cases rest with
  | nil => exact some rfl
  | cons c rest =>
      rw [List.cons_append, List.cons_prefix_cons] at starts
      exact notIn (isRest.subset (by simp [starts.1]))

/-- The second element of the part is not in the front, nor does it go on behind. -/
theorem StartsBehind.of_second {first second : α} {others : List α} (notIn : second ∉ front)
    (apart : ¬ second :: others <+: text) :
    StartsBehind (first :: second :: others) front text := by
  intro rest isRest some starts
  cases rest with
  | nil => exact some rfl
  | cons c rest =>
      rw [List.cons_append, List.cons_prefix_cons] at starts
      cases rest with
      | nil => exact apart starts.2
      | cons d rest =>
          have same := (List.cons_prefix_cons.mp starts.2).1
          exact notIn (isRest.subset (by simp [same]))

theorem around?_append [BEq α] [LawfulBEq α] (apart : StartsBehind part front text) :
    around? part (front ++ text)
      = (around? part text).map fun found => (front ++ found.1, found.2) := by
  induction front with
  | nil => simp
  | cons c front induction =>
      have notHere : part.isPrefixOf (c :: (front ++ text)) = false := by
        rw [Bool.eq_false_iff, ne_eq, List.isPrefixOf_iff_prefix]
        exact apart (c :: front) (List.suffix_refl _) (List.cons_ne_nil _ _)
      have later := induction fun rest isRest => apart rest (isRest.trans (List.suffix_cons c front))
      rw [List.cons_append, around?, notHere, if_neg Bool.false_ne_true, later, Option.map_map]
      rfl

theorem around?_self [BEq α] [LawfulBEq α] (part behind : List α) :
    around? part (part ++ behind) = some ([], behind) := by
  have dropped : (part ++ behind).drop part.length = behind := by simp
  have starts : part.isPrefixOf (part ++ behind) = true := by simp
  cases text : part ++ behind with
  | nil =>
      rw [List.append_eq_nil_iff] at text
      rw [text.1, text.2]
      rfl
  | cons c rest =>
      rw [text] at dropped starts
      rw [around?, starts, if_pos rfl, dropped]

end SchemaScaffold.Text
