import SchemaScaffold.Proofs.Text.Blanks

/-! A text in small letters stays as it is when it is put into small letters once
more. No run of the table leads to a character that has a small form of its own:
a run leads past each other run or, where capital and small letters alternate,
between its members. The table of capital forms is like that as well. -/

namespace SchemaScaffold.Text

/-! ## Runs -/

namespace CaseRun

/-- No character that a run leads to belongs to the other run. -/
def leadsPast (run other : CaseRun) : Bool :=
  Nat.blt (run.apply run.last) other.first || Nat.blt other.last (run.apply run.first)
    || (run.step == 2 || run.first == run.last) && other.step == 2
      && (run.apply run.first + other.first) % 2 == 1

theorem covers_apply {run other : CaseRun} (past : run.leadsPast other = true)
    (positive : 0 ≤ run.first + run.shift) {code : Nat} (covers : run.covers code = true) :
    other.covers (run.apply code) = false := by
  have first : (run.apply run.first : Int) = run.first + run.shift := Int.toNat_of_nonneg positive
  simp only [CaseRun.covers, Bool.and_eq_true, decide_eq_true_eq, beq_iff_eq] at covers
  have image : (run.apply code : Int) = code + run.shift :=
    Int.toNat_of_nonneg (by omega)
  have last : (run.apply run.last : Int) = run.last + run.shift :=
    Int.toNat_of_nonneg (by omega)
  rw [Bool.eq_false_iff]
  intro covered
  simp only [CaseRun.covers, Bool.and_eq_true, decide_eq_true_eq, beq_iff_eq] at covered
  simp only [leadsPast, Bool.or_eq_true, Bool.and_eq_true, beq_iff_eq, Nat.blt_eq] at past
  rcases past with (below | above) | ⟨⟨even, alternates⟩, apart⟩
  · omega
  · omega
  · rw [alternates] at covered
    rcases even with isTwo | isOne
    · rw [isTwo] at covers
      omega
    · omega

/-- A run of one character. -/
def single (code : Nat) : CaseRun := ⟨code, code, 1, 0⟩

theorem covers_single (code : Nat) : (single code).covers code = true := by
  simp [single, covers]

end CaseRun

/-! ## Tables -/

/-- No character that a table leads to has an entry of its own. -/
structure IsFinal (expansions : List (Nat × List Nat)) (runs : List CaseRun) : Prop where
  runsLeadPast : ∀ run ∈ runs, 0 ≤ run.first + run.shift ∧
    (runs.all fun other => run.leadsPast other) = true ∧
    (expansions.all fun expansion => run.leadsPast (.single expansion.1)) = true
  expansionsStay : ∀ expansion ∈ expansions, ∀ code ∈ expansion.2,
    mapped expansions runs (Char.ofNat code) = [Char.ofNat code]
  /-- Codes of no character are read as this one. -/
  nullStays : mapped expansions runs (Char.ofNat 0) = [Char.ofNat 0]

section Final

variable {expansions : List (Nat × List Nat)} {runs : List CaseRun}
  (isFinal : IsFinal expansions runs)
include isFinal

/-- A character that a run leads to is its own form. -/
theorem mapped_apply {run : CaseRun} (isRun : run ∈ runs) {code : Nat}
    (covers : run.covers code = true) :
    mapped expansions runs (Char.ofNat (run.apply code)) = [Char.ofNat (run.apply code)] := by
  rcases isFinal.runsLeadPast run isRun with ⟨positive, pastRuns, pastExpansions⟩
  rcases toNat_ofNat_eq_or (run.apply code) with same | zero
  · have noExpansion : expansions.find? (fun expansion => expansion.1 == run.apply code)
        = none := by
      rw [List.find?_eq_none]
      intro expansion isExpansion isImage
      have past := List.all_eq_true.mp pastExpansions expansion isExpansion
      have notCovered := CaseRun.covers_apply past positive covers
      rw [← beq_iff_eq.mp isImage, CaseRun.covers_single] at notCovered
      cases notCovered
    have noRun : runs.find? (fun other => other.covers (run.apply code)) = none := by
      rw [List.find?_eq_none]
      intro other isOther covered
      have past := List.all_eq_true.mp pastRuns other isOther
      rw [CaseRun.covers_apply past positive covers] at covered
      cases covered
    rw [mapped, same, noExpansion, noRun]
  · have isNull : Char.ofNat (run.apply code) = Char.ofNat 0 := by
      rw [← Char.toNat_inj, zero]
      rfl
    rw [isNull, isFinal.nullStays]

/-- The form of a character is made of characters that are their own forms. -/
theorem mapped_of_mem_mapped {c image : Char} (isImage : image ∈ mapped expansions runs c) :
    mapped expansions runs image = [image] := by
  have unmapped : mapped expansions runs c = [c] → mapped expansions runs image = [image] := by
    intro same
    rw [same, List.mem_singleton] at isImage
    rw [isImage, same]
  cases expanded : expansions.find? (fun expansion => expansion.1 == c.toNat) with
  | some expansion =>
      have isExpansion := List.mem_of_find?_eq_some expanded
      rw [mapped, expanded] at isImage
      rcases List.mem_map.mp isImage with ⟨code, isCode, rfl⟩
      exact isFinal.expansionsStay expansion isExpansion code isCode
  | none =>
      cases found : runs.find? (fun run => run.covers c.toNat) with
      | some run =>
          rw [mapped, expanded, found] at isImage
          have covers := List.find?_some found
          rw [List.mem_singleton.mp isImage]
          exact mapped_apply isFinal (List.mem_of_find?_eq_some found) covers
      | none => exact unmapped (by rw [mapped, expanded, found])

end Final

theorem isFinal_lower : IsFinal lowerExpansions lowerRuns :=
  ⟨by decide +kernel, by decide +kernel, by decide +kernel⟩

theorem isFinal_upper : IsFinal upperExpansions upperRuns :=
  ⟨by decide +kernel, by decide +kernel, by decide +kernel⟩

/-- The small form of a character is made of small forms. -/
theorem lower_of_mem_lower {c image : Char} (isImage : image ∈ lower c) :
    lower image = [image] :=
  mapped_of_mem_mapped isFinal_lower isImage

theorem upper_of_mem_upper {c image : Char} (isImage : image ∈ upper c) :
    upper image = [image] :=
  mapped_of_mem_mapped isFinal_upper isImage

/-! ## Texts -/

theorem lower_of_mem_lowerFrom {before characters : List Char} :
    ∀ image ∈ lowerFrom before characters, lower image = [image] := by
  induction characters generalizing before with
  | nil => exact List.forall_mem_nil _
  | cons c rest induction =>
      rw [lowerFrom, List.forall_mem_append]
      refine ⟨fun image isImage => ?_, induction⟩
      split at isImage
      · rw [List.mem_singleton.mp isImage]
        decide +kernel
      · exact lower_of_mem_lower isImage

/-- The capital sigma has a small form, so it is not among small forms. -/
theorem lowerFrom_eq_self {before characters : List Char}
    (small : ∀ c ∈ characters, lower c = [c]) : lowerFrom before characters = characters := by
  induction characters generalizing before with
  | nil => rfl
  | cons c rest induction =>
      rw [List.forall_mem_cons] at small
      have notSigma : (c == sigma) = false := by
        rw [beq_eq_false_iff_ne]
        rintro rfl
        exact absurd small.1 (by decide +kernel)
      rw [lowerFrom, notSigma, Bool.false_and, induction small.2, small.1]
      rfl

theorem lowercase_lowercase (text : String) : lowercase (lowercase text) = lowercase text := by
  rw [lowercase, lowercase, String.toList_ofList, lowerFrom_eq_self lower_of_mem_lowerFrom]

end SchemaScaffold.Text
