import SchemaScaffold.Json.Skip
import SchemaScaffold.Proofs.Json.Outcome

/-! String literals are read back, and passed over, up to their closing quote. -/

namespace SchemaScaffold.Json.Reader

variable {c : Char} {text rest tail : List Char} {limit : Nat}

/-! ## Escapes -/

/-- A character is written by a short escape, by its code, or as it is. -/
theorem escapedChar_cases (c : Char) :
    (∃ sign, escapedChar c = ['\\', sign] ∧ shortEscape? sign = some c) ∨
    (c.toNat < 0x20 ∧ escapedChar c =
      ['\\', 'u', '0', '0', hexDigit (c.toNat / 16), hexDigit (c.toNat % 16)]) ∨
    (c ≠ '"' ∧ c ≠ '\\' ∧ ¬ c.toNat < 0x20 ∧ escapedChar c = [c]) := by
  by_cases short : c ∈ ['"', '\\', '\x08', '\x0c', '\n', '\r', '\t']
  · left
    simp only [List.mem_cons, List.not_mem_nil, or_false] at short
    rcases short with rfl | rfl | rfl | rfl | rfl | rfl | rfl <;> exact ⟨_, rfl, rfl⟩
  · right
    simp only [List.mem_cons, List.not_mem_nil, or_false, not_or] at short
    by_cases control : c.toNat < 0x20
    · left
      simp [escapedChar, short, control]
    · right
      simp [escapedChar, short, control]

theorem ne_of_shortEscape? {sign : Char} (short : shortEscape? sign = some c) : sign ≠ 'u' := by
  intro equal
  rw [equal] at short
  cases short

theorem hexValue?_hexDigit : ∀ digit < 16, hexValue? (hexDigit digit) = some digit := by
  decide

/-- Four hexadecimal digits that write a control character. -/
theorem reads_hexUnit (control : c.toNat < 0x20) :
    hexUnit.Reads ('0' :: '0' :: hexDigit (c.toNat / 16) :: hexDigit (c.toNat % 16) :: rest)
      c.toNat rest := by
  intro consumed
  refine ⟨consumed + 4, ?_⟩
  have high := hexValue?_hexDigit (c.toNat / 16) (by omega)
  have low := hexValue?_hexDigit (c.toNat % 16) (by omega)
  have zero : hexValue? '0' = some 0 := rfl
  have value : 16 * (c.toNat / 16) + c.toNat % 16 = c.toNat := by omega
  simp [hexUnit, high, low, zero, value]

theorem reads_unicodeEscape (control : c.toNat < 0x20) :
    unicodeEscape.Reads
      ('0' :: '0' :: hexDigit (c.toNat / 16) :: hexDigit (c.toNat % 16) :: rest) c rest := by
  apply (reads_hexUnit control).bind
  rw [if_neg (by omega), if_pos (by omega), Char.ofNat_toNat]
  exact reads_pure c

theorem reads_escape_u {value : Char} (read : unicodeEscape.Reads text value rest) :
    escape.Reads ('u' :: text) value rest := by
  apply reads_peek.bind
  exact reads_advance.bind read

theorem reads_escape_short {sign : Char} (short : shortEscape? sign = some c) :
    escape.Reads (sign :: rest) c rest := by
  apply reads_peek.bind
  have notU := ne_of_shortEscape? short
  simp only [List.head?_cons, short]
  exact reads_advance.bind (reads_pure c)

/-! ## Bodies -/

theorem reads_stringBody_end : (stringBody (limit + 1)).Reads ('"' :: rest) [] rest := by
  apply reads_peek.bind
  exact reads_advance.bind (reads_pure [])

theorem reads_stringBody_escape {read : List Char} (first : escape.Reads text c tail)
    (others : (stringBody limit).Reads tail read rest) :
    (stringBody (limit + 1)).Reads ('\\' :: text) (c :: read) rest := by
  apply reads_peek.bind
  apply reads_advance.bind
  exact first.bind (others.bind (reads_pure _))

theorem reads_stringBody_plain {read : List Char} (notQuote : c ≠ '"') (notEscape : c ≠ '\\')
    (printed : ¬ c.toNat < 0x20) (others : (stringBody limit).Reads tail read rest) :
    (stringBody (limit + 1)).Reads (c :: tail) (c :: read) rest := by
  apply reads_peek.bind
  simp only [List.head?_cons, if_neg printed]
  exact reads_advance.bind (others.bind (reads_pure _))

/-- Whatever way a character is written, it is read as itself. -/
theorem reads_stringBody_cons {read : List Char}
    (others : (stringBody limit).Reads tail read rest) :
    (stringBody (limit + 1)).Reads (escapedChar c ++ tail) (c :: read) rest := by
  rcases escapedChar_cases c with ⟨sign, written, short⟩ | ⟨control, written⟩ |
    ⟨notQuote, notEscape, printed, written⟩
  · rw [written]
    exact reads_stringBody_escape (reads_escape_short short) others
  · rw [written]
    exact reads_stringBody_escape (reads_escape_u (reads_unicodeEscape control)) others
  · rw [written]
    exact reads_stringBody_plain notQuote notEscape printed others

theorem reads_stringBody (long : text.length < limit) :
    (stringBody limit).Reads (text.flatMap escapedChar ++ '"' :: rest) text rest := by
  induction text generalizing limit with
  | nil =>
      cases limit with
      | zero => cases long
      | succ limit => exact reads_stringBody_end
  | cons c text induction =>
      cases limit with
      | zero => cases long
      | succ limit =>
          rw [List.flatMap_cons, List.append_assoc]
          exact reads_stringBody_cons (induction (Nat.lt_of_succ_lt_succ long))

theorem reads_string {text : String} (long : text.toList.length < limit) :
    (string limit).Reads (text.toList.flatMap escapedChar ++ '"' :: rest) text rest := by
  apply (reads_stringBody long).bind
  rw [String.ofList_toList]
  exact reads_pure text

/-! ## Passing over -/

theorem reads_skipEscape_u (control : c.toNat < 0x20) :
    skipEscape.Reads
      ('u' :: '0' :: '0' :: hexDigit (c.toNat / 16) :: hexDigit (c.toNat % 16) :: rest) ()
      rest := by
  apply reads_peek.bind
  exact reads_advance.bind ((reads_hexUnit control).bind (reads_pure ()))

theorem reads_skipEscape_short {sign : Char} (short : shortEscape? sign = some c) :
    skipEscape.Reads (sign :: rest) () rest := by
  apply reads_peek.bind
  have notU := ne_of_shortEscape? short
  simp only [List.head?_cons, short]
  exact reads_advance

theorem reads_skipString_cons (others : (skipString limit).Reads tail () rest) :
    (skipString (limit + 1)).Reads (escapedChar c ++ tail) () rest := by
  rcases escapedChar_cases c with ⟨sign, written, short⟩ | ⟨control, written⟩ |
    ⟨notQuote, notEscape, printed, written⟩
  · rw [written]
    apply reads_peek.bind
    exact reads_advance.bind ((reads_skipEscape_short short).bind others)
  · rw [written]
    apply reads_peek.bind
    exact reads_advance.bind ((reads_skipEscape_u control).bind others)
  · rw [written]
    apply reads_peek.bind
    simp only [List.cons_append, List.head?_cons, if_neg printed]
    exact reads_advance.bind others

theorem reads_skipString (long : text.length < limit) :
    (skipString limit).Reads (text.flatMap escapedChar ++ '"' :: rest) () rest := by
  induction text generalizing limit with
  | nil =>
      cases limit with
      | zero => cases long
      | succ limit => exact reads_peek.bind reads_advance
  | cons c text induction =>
      cases limit with
      | zero => cases long
      | succ limit =>
          rw [List.flatMap_cons, List.append_assoc]
          exact reads_skipString_cons (induction (Nat.lt_of_succ_lt_succ long))

end SchemaScaffold.Json.Reader
