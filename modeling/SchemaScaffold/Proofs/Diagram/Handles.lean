import SchemaScaffold.Diagram.Collections
import SchemaScaffold.Proofs.Json.Numbers

/-! Which edges lead to which field. A handle ends in the position of a field as
a decimal number, and a number has only one decimal form, so no handle can mean
two fields. -/

namespace SchemaScaffold

/-- Decimal digits of a number, without a zero in front of others. -/
structure IsDecimal (digits : List Char) (number : Nat) : Prop where
  digit : ∀ c ∈ digits, c.isDigit = true
  nonempty : digits ≠ []
  noZeroInFront : digits.head? = some '0' → digits = ['0']
  value : Nat.ofDigitChars 10 digits 0 = number

namespace IsDecimal

variable {digits : List Char} {number : Nat}

theorem toDigits (number : Nat) : IsDecimal (Nat.toDigits 10 number) number where
  digit _ := Nat.isDigit_of_mem_toDigits (by decide) (by decide)
  nonempty empty := by
    rcases Json.toDigits_eq_cons number with ⟨_, _, written, _⟩
    simp [written] at empty
  noZeroInFront zeroFirst := by
    rcases Json.toDigits_eq_cons number with ⟨first, others, written, _⟩
    rw [written, List.head?_cons, Option.some.injEq] at zeroFirst
    rcases Nat.eq_zero_or_pos number with rfl | positive
    · exact Nat.toDigits_zero 10
    · exact absurd zeroFirst (Json.Reader.ne_zero_of_toDigits positive written)
  value := Nat.ofDigitChars_ten_toDigits

theorem bounds_of_isDigit {c : Char} (digit : c.isDigit = true) : 48 ≤ c.toNat ∧ c.toNat ≤ 57 := by
  simpa [Char.isDigit, Char.le_def, UInt32.le_iff_toNat_le] using digit

theorem digitChar_of_isDigit {c : Char} (digit : c.isDigit = true) :
    Nat.digitChar (c.toNat - '0'.toNat) = c := by
  have bounds := bounds_of_isDigit digit
  rw [← Char.toNat_inj, Nat.toNat_digitChar_of_lt_ten] <;> simp <;> omega

/-- Digits behind those of a positive number are the further digits of a larger one. -/
theorem toDigits_append {front : Nat} (positive : 0 < front)
    (allDigits : ∀ c ∈ digits, c.isDigit = true) :
    Nat.toDigits 10 front ++ digits = Nat.toDigits 10 (Nat.ofDigitChars 10 digits front) := by
  induction digits generalizing front with
  | nil => simp
  | cons c rest induction =>
      rw [List.forall_mem_cons] at allDigits
      have bounds := bounds_of_isDigit allDigits.1
      have small : c.toNat - '0'.toNat < 10 := by simp; omega
      have appended := Nat.toDigits_append_toDigits (by decide) positive small
      rw [Nat.toDigits_of_lt_base small, digitChar_of_isDigit allDigits.1] at appended
      rw [Nat.ofDigitChars_cons, ← induction (by omega) allDigits.2, ← appended]
      simp

theorem eq_toDigits (decimal : IsDecimal digits number) : digits = Nat.toDigits 10 number := by
  cases digits with
  | nil => exact absurd rfl decimal.nonempty
  | cons first rest =>
      have isDigit := List.forall_mem_cons.mp decimal.digit
      have bounds := bounds_of_isDigit isDigit.1
      by_cases isZero : first = '0'
      · subst isZero
        have single := decimal.noZeroInFront rfl
        rw [single, ← decimal.value, single]
        decide
      · have positive : 0 < first.toNat - '0'.toNat := by
          have different : first.toNat ≠ '0'.toNat := fun equal => isZero (Char.toNat_inj.mp equal)
          simp at different ⊢
          omega
        have small : first.toNat - '0'.toNat < 10 := by simp; omega
        have appended := toDigits_append positive isDigit.2
        rw [Nat.toDigits_of_lt_base small, digitChar_of_isDigit isDigit.1] at appended
        rw [← decimal.value, Nat.ofDigitChars_cons, Nat.mul_zero, Nat.zero_add]
        exact appended

theorem unique {other : Nat} (decimal : IsDecimal digits number) (again : IsDecimal digits other) :
    number = other :=
  decimal.value.symm.trans again.value

end IsDecimal

/-- The edge ends at the handle of the field at this index of the node. -/
def Edge.LeadsTo (edge : Edge) (node : Node) (index : Nat) : Prop :=
  edge.target = node.id ∧
    ∃ digits, edge.targetHandle = some ("target-" ++ String.ofList digits) ∧ IsDecimal digits index

namespace Diagram

variable {edge : Edge} {node : Node} {index : Nat}

theorem handle_injective : Function.Injective handle := by
  intro index other equal
  have digits : Nat.toDigits 10 index = Nat.toDigits 10 other := by
    have texts := congrArg String.toList equal
    simpa [handle, Nat.toString_eq_ofList_toDigits] using texts
  have decimal := IsDecimal.toDigits index
  rw [digits] at decimal
  exact decimal.unique (IsDecimal.toDigits other)

/-- The search of the resolver looks for edges that lead to the field. -/
theorem leadsTo_iff :
    edge.LeadsTo node index ↔
      (edge.target == node.id && edge.targetHandle == some (handle index)) = true := by
  simp only [Edge.LeadsTo, handle, Nat.toString_eq_ofList_toDigits, Bool.and_eq_true, beq_iff_eq]
  refine and_congr_right fun _ => ⟨?_, fun same => ⟨_, same, IsDecimal.toDigits index⟩⟩
  rintro ⟨digits, same, decimal⟩
  rw [same, decimal.eq_toDigits]

theorem leadsTo_unique {other : Nat} (leads : edge.LeadsTo node index)
    (leadsAgain : edge.LeadsTo node other) : index = other := by
  rw [leadsTo_iff, Bool.and_eq_true, beq_iff_eq, beq_iff_eq] at leads leadsAgain
  exact handle_injective (Option.some.inj (leads.2.symm.trans leadsAgain.2))

/-- A position with a zero in front of other characters is no handle of a field. -/
theorem not_leadsTo_of_zero_in_front {behind : String} (nonempty : behind ≠ "")
    (ends : edge.targetHandle = some ("target-0" ++ behind)) : ¬ edge.LeadsTo node index := by
  rintro ⟨_, digits, same, decimal⟩
  have written : digits = '0' :: behind.toList := by
    have texts := congrArg String.toList (Option.some.inj (same.symm.trans ends))
    simpa using texts
  have single := decimal.noZeroInFront (by simp [written])
  rw [written, List.cons.injEq] at single
  exact nonempty (String.toList_eq_nil_iff.mp single.2)

end Diagram

end SchemaScaffold
