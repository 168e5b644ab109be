import SchemaScaffold.Proofs.Json.Outcome
import SchemaScaffold.Proofs.Json.Written
import SchemaScaffold.Json.Skip

/-! The digits of an integer are read back, and passed over, up to the delimiter
behind them. -/

namespace SchemaScaffold.Json.Reader

variable {c : Char} {rest : List Char} {value : Nat}

/-! ## Digits -/

theorem le_ofDigitChars (run : List Char) (number : Nat) :
    number ≤ Nat.ofDigitChars 10 run number := by
  induction run generalizing number with
  | nil => simp
  | cons c run induction =>
      rw [Nat.ofDigitChars_cons]
      exact Nat.le_trans (by omega) (induction _)

theorem appendFitting_of_fits {run : List Char} {number : Nat}
    (fits : Nat.ofDigitChars 10 run number < Nat.pow 2 64) :
    appendFitting number (run.map digitValue) = (Nat.ofDigitChars 10 run number, []) := by
  induction run generalizing number with
  | nil => simp [appendFitting]
  | cons c run induction =>
      rw [Nat.ofDigitChars_cons] at fits ⊢
      have sum : number * 10 + digitValue c = 10 * number + (c.toNat - '0'.toNat) := by
        rw [Nat.mul_comm, digitValue]
      have stillFits : number * 10 + digitValue c < Nat.pow 2 64 := by
        rw [sum]
        exact Nat.lt_of_le_of_lt (le_ofDigitChars run _) fits
      rw [List.map_cons, appendFitting, if_pos stillFits, sum]
      exact induction fits

theorem isDigit_of_delimited (delimited : Delimited (c :: rest)) : isDigit c = false := by
  rcases delimited.head_cases with rfl | rfl | rfl | rfl | rfl | rfl | rfl <;> rfl

theorem reads_digits {run : List Char} (allDigits : ∀ c ∈ run, isDigit c = true)
    (delimited : Delimited rest) :
    digits.Reads (run ++ rest) (run.map digitValue) rest := by
  intro consumed
  refine ⟨consumed + run.length, ?_⟩
  have noMore : rest.takeWhile isDigit = [] ∧ rest.dropWhile isDigit = rest := by
    cases rest with
    | nil => exact ⟨rfl, rfl⟩
    | cons c others => simp [isDigit_of_delimited delimited]
  simp only [digits, List.takeWhile_append_of_pos allDigits,
    List.dropWhile_append_of_pos allDigits, noMore, List.append_nil]

/-- A positive number is written without zeros in front. -/
theorem ne_zero_of_toDigits {first : Char} {others : List Char} (positive : 0 < value)
    (equal : Nat.toDigits 10 value = first :: others) : first ≠ '0' := by
  induction value using Nat.strongRecOn generalizing others with
  | ind value induction =>
      by_cases small : value < 10
      · rw [Nat.toDigits_of_lt_base small] at equal
        have digit : ∀ digit < 10, 0 < digit → Nat.digitChar digit ≠ '0' := by decide
        rw [← (List.cons.inj equal).1]
        exact digit value small positive
      · rw [Nat.toDigits_of_base_le (by decide) (by omega)] at equal
        rcases toDigits_eq_cons (value / 10) with ⟨head, behind, written, _⟩
        rw [written] at equal
        rw [(List.cons.inj equal).1] at written
        exact induction (value / 10) (by omega) (by omega) written

/-! ## Numbers -/

theorem reads_afterInteger (negative : Bool) (delimited : Delimited rest) :
    (afterInteger negative value []).Reads rest (integerNumber negative value) rest := by
  apply reads_peek.bind
  cases rest with
  | nil => exact reads_pure _
  | cons c others =>
      rcases delimited.head_cases with rfl | rfl | rfl | rfl | rfl | rfl | rfl <;> exact reads_pure _

theorem reads_number (negative : Bool) (fits : value < Nat.pow 2 64)
    (delimited : Delimited rest) :
    (number negative).Reads (Nat.toDigits 10 value ++ rest) (integerNumber negative value)
      rest := by
  apply reads_peek.bind
  rcases Nat.eq_zero_or_pos value with rfl | positive
  · rw [Nat.toDigits_zero, List.singleton_append]
    apply reads_advance.bind
    apply reads_peek.bind
    cases rest with
    | nil => exact reads_afterInteger negative delimited
    | cons c others =>
        simp only [List.head?_cons, isDigit_of_delimited delimited]
        exact reads_afterInteger negative delimited
  · rcases toDigits_eq_cons value with ⟨first, others, equal, digit⟩
    have notZero := ne_zero_of_toDigits positive equal
    simp only [equal, List.cons_append, List.head?_cons, digit, if_true]
    rw [← List.cons_append, ← equal]
    apply (reads_digits (fun _ => isDigit_of_mem_toDigits) delimited).bind
    rw [appendFitting_of_fits (by rwa [Nat.ofDigitChars_ten_toDigits]),
      Nat.ofDigitChars_ten_toDigits]
    exact reads_afterInteger negative delimited

/-! ## Passing over -/

theorem reads_skipFraction (delimited : Delimited rest) : skipFraction.Reads rest () rest := by
  apply reads_peek.bind
  cases rest with
  | nil => exact reads_peek.bind (reads_pure ())
  | cons c others =>
      rcases delimited.head_cases with rfl | rfl | rfl | rfl | rfl | rfl | rfl <;>
        exact reads_peek.bind (reads_pure ())

theorem reads_skipNumber (delimited : Delimited rest) :
    skipNumber.Reads (Nat.toDigits 10 value ++ rest) () rest := by
  apply reads_peek.bind
  rcases Nat.eq_zero_or_pos value with rfl | positive
  · rw [Nat.toDigits_zero, List.singleton_append]
    apply reads_advance.bind
    apply reads_peek.bind
    cases rest with
    | nil => exact reads_skipFraction delimited
    | cons c others =>
        simp only [List.head?_cons, isDigit_of_delimited delimited]
        exact reads_skipFraction delimited
  · rcases toDigits_eq_cons value with ⟨first, others, equal, digit⟩
    have notZero := ne_zero_of_toDigits positive equal
    simp only [equal, List.cons_append, List.head?_cons]
    split
    · next isZero => exact absurd (Option.some.inj isZero) notZero
    rw [← List.cons_append, ← equal]
    apply (reads_digits (fun _ => isDigit_of_mem_toDigits) delimited).bind
    simp only [equal, List.map_cons, List.isEmpty_cons]
    exact reads_skipFraction delimited

end SchemaScaffold.Json.Reader
