import SchemaScaffold.Proofs.Text.Blanks
import SchemaScaffold.Proofs.Text.CharacterKinds

/-! Names in source code, and what becomes of their characters when letter cases
are changed. Letters are mapped to letters, and characters that cannot be in names
to others that cannot; the one exception is a mark whose capital form is a letter. -/

namespace SchemaScaffold.Text

/-! ## Names in source code -/

/-- Letters, the dollar sign and the underscore. -/
def startRanges : List (Nat × Nat) := (0x24, 0x24) :: (0x5F, 0x5F) :: letterRanges

def partRanges : List (Nat × Nat) := startRanges ++ markRanges ++ digitRanges

def isStart (c : Char) : Bool := inRanges startRanges c

def isPart (c : Char) : Bool := inRanges partRanges c

def isIdentifier (text : String) : Bool :=
  match text.toList with
  | [] => false
  | first :: rest => isStart first && rest.all isPart

example : isIdentifier "order2" = true := by decide +kernel

example : isIdentifier "2orders" = false := by decide +kernel

theorem isPart_of_isStart {c : Char} (starts : isStart c = true) : isPart c = true := by
  rw [isStart, inRanges_eq_true] at starts
  rcases starts with ⟨range, isRange, bounds⟩
  refine inRanges_eq_true.mpr ⟨range, ?_, bounds⟩
  rw [partRanges, List.append_assoc]
  exact List.mem_append_left _ isRange

theorem isIdentifier_iff {text : String} :
    isIdentifier text = true ↔
      (∃ first, text.toList.head? = some first ∧ isStart first = true) ∧
        ∀ c ∈ text.toList, isPart c = true := by
  rw [isIdentifier]
  cases text.toList with
  | nil => simp
  | cons first rest =>
      simp only [Bool.and_eq_true, List.all_eq_true, List.head?_cons, Option.some.injEq,
        exists_eq_left', List.forall_mem_cons]
      exact ⟨fun ⟨starts, parts⟩ => ⟨starts, isPart_of_isStart starts, parts⟩,
        fun ⟨starts, _, parts⟩ => ⟨starts, parts⟩⟩

theorem isIdentifier_append {front behind : String} (isName : isIdentifier front = true)
    (parts : behind.toList.all isPart = true) : isIdentifier (front ++ behind) = true := by
  rw [List.all_eq_true] at parts
  rw [isIdentifier_iff] at isName ⊢
  rcases isName with ⟨⟨first, isFirst, starts⟩, frontParts⟩
  rw [String.toList_append]
  refine ⟨⟨first, ?_, starts⟩, List.forall_mem_append.mpr ⟨frontParts, parts⟩⟩
  rw [List.head?_append, isFirst]
  rfl

/-! ## Runs -/

def isWithin (ranges : List (Nat × Nat)) (code : Nat) : Bool :=
  ranges.any fun range => Nat.ble code range.2 && Nat.ble range.1 code

theorem isWithin_iff {ranges : List (Nat × Nat)} {code : Nat} :
    isWithin ranges code = true ↔ ∃ range ∈ ranges, range.1 ≤ code ∧ code ≤ range.2 := by
  simp [isWithin, and_comm]

namespace CaseRun

def codes (run : CaseRun) : List Nat :=
  (List.range ((run.last - run.first) / run.step + 1)).map fun i => run.first + run.step * i

/-- The characters that a run leads to. -/
def image (run : CaseRun) : CaseRun := ⟨run.apply run.first, run.apply run.last, run.step, 0⟩

def isWithin (ranges : List (Nat × Nat)) (run : CaseRun) : Bool :=
  (ranges.any fun range => Nat.ble run.last range.2 && Nat.ble range.1 run.first)
    || run.codes.all (Text.isWithin ranges)

def isApart (ranges : List (Nat × Nat)) (run : CaseRun) : Bool :=
  ranges.all fun range => Nat.blt run.last range.1 || Nat.blt range.2 run.first

/-- Letters stay letters, or what is not in names stays so. -/
def keepsKind (run : CaseRun) : Bool :=
  decide (0 ≤ run.first + run.shift)
    && (run.isWithin casedLetterRanges && run.image.isWithin casedLetterRanges
      || run.isApart partRanges && run.image.isApart partRanges)

theorem mem_codes {run : CaseRun} {code : Nat} (covers : run.covers code = true) :
    code ∈ run.codes := by
  simp only [CaseRun.covers, Bool.and_eq_true, decide_eq_true_eq, beq_iff_eq] at covers
  rcases covers with ⟨⟨lower, upper⟩, aligned⟩
  have steps : run.step * ((code - run.first) / run.step) = code - run.first := by
    have division := Nat.div_add_mod (code - run.first) run.step
    omega
  refine List.mem_map.mpr ⟨(code - run.first) / run.step, List.mem_range.mpr ?_, by omega⟩
  exact Nat.lt_succ_of_le (Nat.div_le_div_right (by omega))

theorem isWithin_of_covers {ranges : List (Nat × Nat)} {run : CaseRun}
    (within : run.isWithin ranges = true) {code : Nat} (covers : run.covers code = true) :
    Text.isWithin ranges code = true := by
  rw [isWithin, Bool.or_eq_true] at within
  rcases within with whole | each
  · rw [isWithin_iff]
    rcases List.any_eq_true.mp whole with ⟨range, isRange, bounds⟩
    simp only [CaseRun.covers, Bool.and_eq_true, decide_eq_true_eq, beq_iff_eq, Nat.ble_eq]
      at covers bounds
    exact ⟨range, isRange, by omega, by omega⟩
  · exact List.all_eq_true.mp each code (mem_codes covers)

theorem no_range {ranges : List (Nat × Nat)} {run : CaseRun} (isApart : run.isApart ranges = true)
    {code : Nat} (covers : run.covers code = true) :
    ¬ ∃ range ∈ ranges, range.1 ≤ code ∧ code ≤ range.2 := by
  rintro ⟨range, isRange, bounds⟩
  have passes := List.all_eq_true.mp isApart range isRange
  simp only [CaseRun.covers, Bool.and_eq_true, decide_eq_true_eq, beq_iff_eq, Bool.or_eq_true,
    Nat.blt_eq] at covers passes
  omega

theorem covers_image {run : CaseRun} (positive : 0 ≤ run.first + run.shift) {code : Nat}
    (covers : run.covers code = true) : run.image.covers (run.apply code) = true := by
  simp only [CaseRun.covers, Bool.and_eq_true, decide_eq_true_eq, beq_iff_eq] at covers
  rcases covers with ⟨⟨lower, upper⟩, aligned⟩
  have first : (run.apply run.first : Int) = run.first + run.shift := Int.toNat_of_nonneg positive
  have middle : (run.apply code : Int) = code + run.shift := Int.toNat_of_nonneg (by omega)
  have last : (run.apply run.last : Int) = run.last + run.shift := Int.toNat_of_nonneg (by omega)
  have afterFirst : run.apply run.first ≤ run.apply code := by omega
  have beforeLast : run.apply code ≤ run.apply run.last := by omega
  have same : run.apply code - run.apply run.first = code - run.first := by omega
  simp only [CaseRun.covers, image, afterFirst, beforeLast, same, aligned]
  rfl

end CaseRun

/-- A letter with a form of letters and marks that starts with a letter. -/
def keepsKind (expansion : Nat × List Nat) : Bool :=
  isWithin casedLetterRanges expansion.1 && expansion.2.head?.any (isWithin casedLetterRanges)
    && expansion.2.all fun code => isWithin casedLetterRanges code || isWithin markRanges code

/-- The tables of letter cases. Only the mark below Greek letters has a form of another
kind. -/
theorem tables_keepKind :
    (upperRuns.all fun run => run.first == 0x345 && run.last == 0x345 || run.keepsKind) = true ∧
      (lowerRuns.all CaseRun.keepsKind) = true ∧
      (upperExpansions.all keepsKind) = true ∧ (lowerExpansions.all keepsKind) = true := by
  decide +kernel

/-! ## Characters -/

theorem partRanges_valid :
    (partRanges.all fun range => Nat.blt range.2 0xD800
      || Nat.blt 0xDFFF range.1 && Nat.blt range.2 0x110000) = true := by
  decide +kernel

theorem toNat_ofNat_of_part {code : Nat}
    (inside : ∃ range ∈ partRanges, range.1 ≤ code ∧ code ≤ range.2) :
    (Char.ofNat code).toNat = code := by
  rcases inside with ⟨range, isRange, bounds⟩
  have valid := List.all_eq_true.mp partRanges_valid range isRange
  simp only [Bool.or_eq_true, Bool.and_eq_true, Nat.blt_eq] at valid
  have isValid : code.isValidChar := by
    rcases valid with low | high
    · exact .inl (by omega)
    · exact .inr ⟨by omega, by omega⟩
  rw [Char.ofNat, dif_pos isValid]
  rfl

theorem casedLetterRanges_subset : casedLetterRanges ⊆ startRanges := fun _ isRange =>
  List.mem_cons_of_mem _ (List.mem_cons_of_mem _ (List.mem_append_left _ isRange))

theorem isStart_of_cased {code : Nat} (cased : isWithin casedLetterRanges code = true) :
    isStart (Char.ofNat code) = true := by
  rcases isWithin_iff.mp cased with ⟨range, isRange, bounds⟩
  have starts : range ∈ startRanges := casedLetterRanges_subset isRange
  have inside : range ∈ partRanges := List.mem_append_left _ (List.mem_append_left _ starts)
  refine inRanges_eq_true.mpr ⟨range, starts, ?_⟩
  rwa [toNat_ofNat_of_part ⟨range, inside, bounds⟩]

theorem isPart_of_mark {code : Nat} (isMark : isWithin markRanges code = true) :
    isPart (Char.ofNat code) = true := by
  rcases isWithin_iff.mp isMark with ⟨range, isRange, bounds⟩
  have inside : range ∈ partRanges := List.mem_append_left _ (List.mem_append_right _ isRange)
  refine inRanges_eq_true.mpr ⟨range, inside, ?_⟩
  rwa [toNat_ofNat_of_part ⟨range, inside, bounds⟩]

theorem isPart_eq_false {c : Char}
    (none : ¬ ∃ range ∈ partRanges, range.1 ≤ c.toNat ∧ c.toNat ≤ range.2) : isPart c = false := by
  rw [isPart, Bool.eq_false_iff, ne_eq, inRanges_eq_true]
  exact none

theorem isStart_eq_false {c : Char} (noPart : isPart c = false) : isStart c = false := by
  rw [Bool.eq_false_iff] at noPart ⊢
  exact fun starts => noPart (isPart_of_isStart starts)

/-- The character at the other end of a run is of the same kind. -/
theorem kind_apply {run : CaseRun} (keeps : run.keepsKind = true) {c : Char}
    (covers : run.covers c.toNat = true) :
    isStart (Char.ofNat (run.apply c.toNat)) = isStart c ∧
      isPart (Char.ofNat (run.apply c.toNat)) = isPart c := by
  simp only [CaseRun.keepsKind, Bool.and_eq_true, Bool.or_eq_true, decide_eq_true_eq] at keeps
  rcases keeps with ⟨positive, ⟨within, imageWithin⟩ | ⟨isApart, imageApart⟩⟩
  all_goals have imageCovers := CaseRun.covers_image positive covers
  · have isLetter := isStart_of_cased (CaseRun.isWithin_of_covers within covers)
    rw [Char.ofNat_toNat] at isLetter
    have imageLetter := isStart_of_cased (CaseRun.isWithin_of_covers imageWithin imageCovers)
    exact ⟨imageLetter.trans isLetter.symm,
      (isPart_of_isStart imageLetter).trans (isPart_of_isStart isLetter).symm⟩
  · have noPart := isPart_eq_false (CaseRun.no_range isApart covers)
    have imageNoPart : isPart (Char.ofNat (run.apply c.toNat)) = false := by
      rcases toNat_ofNat_eq_or (run.apply c.toNat) with same | zero
      · exact isPart_eq_false (by rw [same]; exact CaseRun.no_range imageApart imageCovers)
      · exact isPart_eq_false (by rw [zero]; decide +kernel)
    exact ⟨(isStart_eq_false imageNoPart).trans (isStart_eq_false noPart).symm,
      imageNoPart.trans noPart.symm⟩

/-- A form in another case starts like the character itself, and fits into names
just if the character does. -/
structure IsAlike (c : Char) (form : List Char) : Prop where
  first : ∃ first, form.head? = some first ∧ isStart first = isStart c
  parts : (∀ image ∈ form, isPart image = true) ↔ isPart c = true

theorem isAlike_mapped {expansions : List (Nat × List Nat)} {runs : List CaseRun} {c : Char}
    (expansionsKeep : (expansions.all keepsKind) = true)
    (runsKeep : ∀ run ∈ runs, run.covers c.toNat = true → run.keepsKind = true) :
    IsAlike c (mapped expansions runs c) := by
  rw [mapped]
  split
  · next known codes expanded =>
      have isExpansion := List.mem_of_find?_eq_some expanded
      have isCode : known = c.toNat := by simpa using List.find?_some expanded
      have keeps := List.all_eq_true.mp expansionsKeep _ isExpansion
      simp only [keepsKind, Bool.and_eq_true, Option.any_eq_true, List.all_eq_true,
        Bool.or_eq_true] at keeps
      rcases keeps with ⟨⟨cased, first, isFirst, firstCased⟩, parts⟩
      have starts : isStart c = true := by
        rw [← Char.ofNat_toNat c, ← isCode]
        exact isStart_of_cased cased
      refine ⟨⟨Char.ofNat first, ?_, (isStart_of_cased firstCased).trans starts.symm⟩, ?_⟩
      · rw [List.head?_map, isFirst]
        rfl
      · refine ⟨fun _ => isPart_of_isStart starts, fun _ => List.forall_mem_map.mpr ?_⟩
        intro code isCode
        rcases parts code isCode with isLetter | isMark
        · exact isPart_of_isStart (isStart_of_cased isLetter)
        · exact isPart_of_mark isMark
  · split
    · next run found =>
        have covers := List.find?_some found
        have kinds := kind_apply (runsKeep run (List.mem_of_find?_eq_some found) covers) covers
        refine ⟨⟨_, rfl, kinds.1⟩, ?_⟩
        rw [List.forall_mem_singleton, kinds.2]
    · exact ⟨⟨c, rfl, rfl⟩, by rw [List.forall_mem_singleton]⟩

theorem isAlike_lower (c : Char) : IsAlike c (lower c) :=
  have ⟨_, runs, _, expansions⟩ := tables_keepKind
  isAlike_mapped expansions fun run isRun _ => List.all_eq_true.mp runs run isRun

/-- A mark below a Greek letter. Its capital form is a letter. -/
def iotaBelow : Char := Char.ofNat 0x345

theorem isAlike_upper {c : Char} (other : c ≠ iotaBelow) : IsAlike c (upper c) := by
  have ⟨runs, _, expansions, _⟩ := tables_keepKind
  refine isAlike_mapped expansions fun run isRun covers => ?_
  have keeps := List.all_eq_true.mp runs run isRun
  simp only [Bool.or_eq_true, Bool.and_eq_true, beq_iff_eq] at keeps
  rcases keeps with ⟨first, last⟩ | keeps
  · simp only [CaseRun.covers, Bool.and_eq_true, decide_eq_true_eq] at covers
    have isIota : c.toNat = iotaBelow.toNat := by
      have code : iotaBelow.toNat = 0x345 := by decide
      omega
    exact absurd (Char.toNat_inj.mp isIota) other
  · exact keeps

theorem first_upper (c : Char) :
    ∃ first, (upper c).head? = some first ∧
      (isStart first = true ↔ isStart c = true ∨ c = iotaBelow) := by
  by_cases isIota : c = iotaBelow
  · subst isIota
    exact ⟨'Ι', by decide +kernel, by decide +kernel⟩
  · rcases (isAlike_upper isIota).first with ⟨first, isFirst, same⟩
    exact ⟨first, isFirst, by simp [same, isIota]⟩

theorem parts_upper (c : Char) :
    (∀ image ∈ upper c, isPart image = true) ↔ isPart c = true := by
  by_cases isIota : c = iotaBelow
  · subst isIota
    rw [← List.all_eq_true]
    decide +kernel
  · exact (isAlike_upper isIota).parts

end SchemaScaffold.Text
