import SchemaScaffold.Proofs.Json.Lists
import SchemaScaffold.Proofs.Json.Numbers

/-! The compact form of a value is read back as the value, and passed over to its
end. Only integers are considered, so every number has exactly one written
form. -/

namespace SchemaScaffold.Json

namespace Value

/-! ## Lengths -/

theorem chars_ne_nil {value : Value} (stored : value.HasStoredNumber) : value.chars ≠ [] := by
  rcases chars_eq_cons stored with ⟨first, rest, equal, _⟩
  simp [equal]

theorem length_le_escaped (text : List Char) :
    text.length ≤ (text.flatMap escapedChar).length := by
  induction text with
  | nil => simp
  | cons c text induction =>
      have positive : 0 < (escapedChar c).length := by
        rcases Reader.escapedChar_cases c with ⟨_, equal, _⟩ | ⟨_, equal⟩ | ⟨_, _, _, equal⟩ <;>
          simp [equal]
      rw [List.flatMap_cons, List.length_append, List.length_cons]
      omega

theorem length_text_lt (text : String) :
    text.toList.length < (chars (.string text)).length := by
  have escaped := length_le_escaped text.toList
  simp only [chars_string, List.length_cons, List.length_append]
  omega

theorem length_item_lt {item : Value} {items : List Value} (isItem : item ∈ items) :
    item.chars.length < (chars (.array items)).length := by
  have inList := length_le_listed (List.mem_map_of_mem (f := chars) isItem) true
  simp only [chars_array, List.length_cons, List.length_append]
  omega

theorem count_items_lt {items : List Value} (stored : ∀ item ∈ items, item.HasStoredNumber) :
    items.length + 1 < (chars (.array items)).length := by
  have written : ∀ text ∈ items.map chars, text ≠ [] := by
    intro text isText
    rcases List.mem_map.mp isText with ⟨item, isItem, rfl⟩
    exact chars_ne_nil (stored item isItem)
  have counted := count_le_listed written true
  simp only [chars_array, List.length_cons, List.length_append, List.length_map] at counted ⊢
  omega

end Value

/-! A member is longer than its key and its value, whatever stands between them. -/

namespace Spacing

variable {members : List WrittenMember}

theorem length_member_lt (spacing : Spacing) {member : WrittenMember}
    (isMember : member ∈ members) :
    member.key.toList.length + member.text.length
      < (listed true (members.map spacing.memberText)).length := by
  have inList := length_le_listed (List.mem_map_of_mem (f := spacing.memberText) isMember) true
  have key := Value.length_le_escaped member.key.toList
  simp only [memberText, literalChars, List.length_cons, List.length_append] at inList
  omega

theorem count_members_le (spacing : Spacing) (members : List WrittenMember) :
    members.length ≤ (listed true (members.map spacing.memberText)).length := by
  have written : ∀ text ∈ members.map spacing.memberText, text ≠ [] := by
    intro text isText
    rcases List.mem_map.mp isText with ⟨member, _, rfl⟩
    simp [memberText]
  have counted := count_le_listed written true
  rwa [List.length_map] at counted

theorem length_entry_lt (spacing : Spacing) {entry : String × Value}
    {entries : List (String × Value)} (isEntry : entry ∈ entries) :
    entry.1.toList.length + entry.2.chars.length
      < (listed true (entries.map spacing.memberChars)).length := by
  rw [← memberTexts_compact]
  exact spacing.length_member_lt (List.mem_map_of_mem (f := WrittenMember.compact) isEntry)

theorem count_entries_le (spacing : Spacing) (entries : List (String × Value)) :
    entries.length ≤ (listed true (entries.map spacing.memberChars)).length := by
  rw [← memberTexts_compact, ← List.length_map (f := WrittenMember.compact)]
  exact spacing.count_members_le _

end Spacing

namespace Value

theorem chars_object_spaced (entries : List (String × Value)) :
    chars (.object entries)
      = '\x7b' :: (listed true (entries.map Spacing.none.memberChars) ++ ['\x7d']) :=
  chars_object entries

theorem length_entry_lt {entry : String × Value} {entries : List (String × Value)}
    (isEntry : entry ∈ entries) :
    entry.1.toList.length + entry.2.chars.length < (chars (.object entries)).length := by
  have inList := Spacing.none.length_entry_lt isEntry
  rw [chars_object_spaced, List.length_cons, List.length_append]
  omega

theorem count_entries_lt (entries : List (String × Value)) :
    entries.length + 1 < (chars (.object entries)).length := by
  have counted := Spacing.none.count_entries_le entries
  rw [chars_object_spaced, List.length_cons, List.length_append, List.length_singleton]
  omega

/-- Every level of nesting takes a bracket. -/
theorem nesting_lt_length {value : Value} (integral : value.Integral) :
    value.nesting < value.chars.length := by
  induction value using induction_on_children with
  | step value induction =>
      have nonempty := List.length_pos_iff.mpr (chars_ne_nil integral.here)
      cases value with
      | null | bool | number | string => exact nonempty
      | array items =>
          have counted := count_items_lt fun item isItem => (integral.item isItem).here
          have bounded : nestingOfItems items ≤ (chars (.array items)).length - 2 := by
            apply nestingOfItems_le
            intro item isItem
            have deeper := induction item isItem (integral.item isItem)
            have shorter := length_item_lt isItem
            omega
          rw [nesting]
          omega
      | object entries =>
          have counted := count_entries_lt entries
          have bounded : nestingOfMembers entries ≤ (chars (.object entries)).length - 2 := by
            apply nestingOfMembers_le
            intro entry isEntry
            have deeper := induction entry.2 (List.mem_map_of_mem isEntry) (integral.member isEntry)
            have shorter := length_entry_lt isEntry
            omega
          rw [nesting]
          omega

end Value

namespace Reader

open Value

variable {rest : List Char} {limit depth : Nat}

/-! ## Numbers with their sign -/

theorem reads_natural {digits : Nat} (stored : IsStoredInteger (.ofNat digits))
    (delimited : Delimited rest) :
    (number false).Reads (Nat.toDigits 10 digits ++ rest) (.integer (.ofNat digits)) rest := by
  have fits : digits < 2 ^ 64 := Int.ofNat_lt.mp stored.2
  exact reads_number false fits delimited

theorem reads_negative {digits : Nat} (stored : IsStoredInteger (.negSucc digits))
    (delimited : Delimited rest) :
    (number true).Reads (Nat.toDigits 10 (digits + 1) ++ rest) (.integer (.negSucc digits))
      rest := by
  have lower : -(2 ^ 63) ≤ Int.negSucc digits := stored.1
  rw [Int.negSucc_eq] at lower
  have fits : digits + 1 < 2 ^ 64 := by omega
  have inRange : ¬ (digits + 1 = 0 ∨ 2 ^ 63 < digits + 1) := by omega
  have negative : integerNumber true (digits + 1) = .integer (.negSucc digits) := by
    rw [integerNumber, if_pos rfl]
    exact if_neg inRange
  rw [← negative]
  exact reads_number true fits delimited

theorem reads_valueWith_integer {inner : Option (Reader Value)} {value : Int}
    (stored : IsStoredInteger value) (delimited : Delimited rest) :
    (valueWith limit inner).Reads (numeral value ++ rest) (.number (.integer value)) rest := by
  cases value with
  | ofNat digits =>
      have read := reads_natural stored delimited
      rcases toDigits_eq_cons digits with ⟨first, others, equal, isDigit⟩
      obtain ⟨_, _, _, _, _, _, _⟩ := ne_first_of_isDigit isDigit
      rw [numeral]
      simp only [equal, List.cons_append] at read ⊢
      apply (reads_peekToken (startsItem_of_isDigit isDigit).1).bind
      simp only [isDigit, if_true]
      exact read.bind (reads_pure _)
  | negSucc digits =>
      apply (reads_peekToken (c := '-') rfl).bind
      apply reads_advance.bind
      exact (reads_negative stored delimited).bind (reads_pure _)

theorem reads_valueWith_null {inner : Option (Reader Value)} :
    (valueWith limit inner).Reads (chars .null ++ rest) .null rest := by
  rw [chars_null]
  apply (reads_peekToken (c := 'n') rfl).bind
  exact reads_advance.bind ((reads_word ['u', 'l', 'l']).bind (reads_pure _))

theorem reads_valueWith_bool {inner : Option (Reader Value)} (value : Bool) :
    (valueWith limit inner).Reads (chars (.bool value) ++ rest) (.bool value) rest := by
  cases value with
  | true =>
      rw [chars_true]
      apply (reads_peekToken (c := 't') rfl).bind
      exact reads_advance.bind ((reads_word ['r', 'u', 'e']).bind (reads_pure _))
  | false =>
      rw [chars_false]
      apply (reads_peekToken (c := 'f') rfl).bind
      exact reads_advance.bind ((reads_word ['a', 'l', 's', 'e']).bind (reads_pure _))

theorem reads_valueWith_string {inner : Option (Reader Value)} {text : String}
    (long : text.toList.length < limit) :
    (valueWith limit inner).Reads (chars (.string text) ++ rest) (.string text) rest := by
  rw [chars_string, List.cons_append, List.append_assoc]
  apply (reads_peekToken (c := '"') rfl).bind
  exact reads_advance.bind ((reads_string long).bind (reads_pure _))

/-! ## Values -/

theorem mapM_some (values : List α) : values.mapM some = some values := by
  induction values with
  | nil => rfl
  | cons value others induction => simp [List.mapM_cons, induction]

theorem reads_array {items : List Value}
    (reads : ∀ item ∈ items, ∀ rest, Delimited rest →
      (Reader.value limit depth).Reads (item.chars ++ rest) item rest)
    (stored : ∀ item ∈ items, item.HasStoredNumber)
    (long : (chars (.array items)).length < limit) :
    (Reader.value limit (depth + 1)).Reads (chars (.array items) ++ rest) (.array items) rest := by
  have counted := count_items_lt stored
  have read : (Reader.items (Reader.value limit depth) true limit).Answers
      (listed true (items.map chars) ++ ']' :: rest) (']' :: rest) (items.mapM some) :=
    answers_items stored reads (by omega)
  rw [mapM_some] at read
  rw [chars_array, List.cons_append, List.append_assoc]
  apply (reads_peekToken (c := '[') rfl).bind
  apply reads_advance.bind
  apply Reads.bind read
  exact reads_endList.bind (reads_pure _)

/-- The members are read in their order, so sorting them changes nothing. -/
theorem reads_object {entries : List (String × Value)}
    (reads : ∀ entry ∈ entries, ∀ rest, Delimited rest →
      (Reader.value limit depth).Reads (entry.2.chars ++ rest) entry.2 rest)
    (ordered : (entries.map Prod.fst).Pairwise (· < ·))
    (long : (chars (.object entries)).length < limit) :
    (Reader.value limit (depth + 1)).Reads (chars (.object entries) ++ rest) (.object entries)
      rest := by
  have counted := count_entries_lt entries
  have keys : ∀ entry ∈ entries, entry.1.toList.length < limit := by
    intro entry isEntry
    have shorter := length_entry_lt isEntry
    omega
  have read : (members limit (Reader.value limit depth) true limit).Reads
      (listed true ((entries.map WrittenMember.compact).map Spacing.none.memberText)
        ++ '\x7d' :: rest)
      ((entries.map WrittenMember.compact).map WrittenMember.entry) ('\x7d' :: rest) :=
    reads_members .none (List.forall_mem_map.mpr keys) (List.forall_mem_map.mpr reads)
      (by rw [List.length_map]; omega)
  have same : (entries.map WrittenMember.compact).map WrittenMember.entry = entries := by
    simp [WrittenMember.entry, WrittenMember.compact, Function.comp_def]
  rw [Spacing.memberTexts_compact, same] at read
  rw [chars_object_spaced, List.cons_append, List.append_assoc]
  apply (reads_peekToken (c := '\x7b') rfl).bind
  apply reads_advance.bind
  apply read.bind
  apply reads_endObject.bind
  rw [sortMembers_of_ordered ordered]
  exact reads_pure _

theorem reads_value {value : Value} (sorted : value.Sorted) (integral : value.Integral)
    (shallow : value.nesting ≤ depth) (long : value.chars.length < limit)
    (delimited : Delimited rest) :
    (Reader.value limit depth).Reads (value.chars ++ rest) value rest := by
  induction value using induction_on_children generalizing depth rest with
  | step value induction =>
      have unfolded : Reader.value limit depth = valueWith limit
          (match depth with | 0 => none | depth + 1 => some (Reader.value limit depth)) := by
        cases depth <;> rfl
      cases value with
      | null =>
          rw [unfolded]
          exact reads_valueWith_null
      | bool value =>
          rw [unfolded]
          exact reads_valueWith_bool value
      | number number =>
          cases number with
          | float value => exact False.elim integral.here
          | integer value =>
              rw [unfolded, chars_integer]
              exact reads_valueWith_integer integral.here delimited
      | string text =>
          rw [unfolded]
          exact reads_valueWith_string (Nat.lt_trans (length_text_lt text) long)
      | array items =>
          cases depth with
          | zero => exact absurd shallow (by simp [nesting])
          | succ depth =>
              rw [nesting, Nat.add_le_add_iff_right] at shallow
              apply reads_array _ (fun item isItem => (integral.item isItem).here) long
              intro item isItem rest delimited
              apply induction item isItem (sorted.item isItem) (integral.item isItem) _ _ delimited
              · exact Nat.le_trans (nesting_le_of_item isItem) shallow
              · exact Nat.lt_trans (length_item_lt isItem) long
      | object entries =>
          cases depth with
          | zero => exact absurd shallow (by simp [nesting])
          | succ depth =>
              rw [nesting, Nat.add_le_add_iff_right] at shallow
              apply reads_object _ sorted.here long
              intro entry isEntry rest delimited
              have shorter := length_entry_lt isEntry
              apply induction entry.2 (List.mem_map_of_mem isEntry) (sorted.member isEntry)
                (integral.member isEntry) _ _ delimited
              · exact Nat.le_trans (nesting_le_of_member isEntry) shallow
              · omega

/-! ## Passing over -/

theorem reads_skipInteger {textLimit levels : Nat} {value : Int} (delimited : Delimited rest) :
    (skipValue textLimit (levels + 1)).Reads (numeral value ++ rest) () rest := by
  cases value with
  | ofNat digits =>
      have skipped : skipNumber.Reads (Nat.toDigits 10 digits ++ rest) () rest :=
        reads_skipNumber delimited
      rcases toDigits_eq_cons digits with ⟨first, others, equal, isDigit⟩
      obtain ⟨_, _, _, _, _, _, _⟩ := ne_first_of_isDigit isDigit
      rw [numeral]
      simp only [equal, List.cons_append] at skipped ⊢
      apply (reads_peekToken (startsItem_of_isDigit isDigit).1).bind
      simp only [isDigit, if_true]
      exact skipped
  | negSucc digits =>
      apply (reads_peekToken (c := '-') rfl).bind
      exact reads_advance.bind (reads_skipNumber delimited)

theorem reads_skipArray {textLimit levels : Nat} {items : List Value}
    (skips : ∀ item ∈ items, ∀ rest, Delimited rest →
      (skipValue textLimit levels).Reads (item.chars ++ rest) () rest)
    (stored : ∀ item ∈ items, item.HasStoredNumber)
    (long : (chars (.array items)).length < textLimit) :
    (skipValue textLimit (levels + 1)).Reads (chars (.array items) ++ rest) () rest := by
  have counted := count_items_lt stored
  rw [chars_array, List.cons_append, List.append_assoc]
  apply (reads_peekToken (c := '[') rfl).bind
  apply reads_advance.bind
  cases items with
  | nil => exact (reads_peekToken (c := ']') rfl).bind reads_advance
  | cons item others =>
      rcases chars_eq_cons (stored item (List.mem_cons_self ..)) with
        ⟨first, rest', equal, starts⟩
      have skipped : (skipItems (skipValue textLimit levels) textLimit).Reads
          (item.chars ++ (listed false (others.map chars) ++ ']' :: rest)) () rest :=
        reads_skipItems skips (by omega)
      have text : listed true ((item :: others).map chars) ++ (']' :: rest)
          = item.chars ++ (listed false (others.map chars) ++ ']' :: rest) := by
        simp [listed]
      rw [List.singleton_append, text]
      rw [equal] at skipped ⊢
      apply (reads_peekToken starts.1).bind
      split
      · next isEnd => exact absurd (Option.some.inj isEnd) starts.2.2.1
      · next isNone => cases isNone
      · exact skipped

theorem reads_skipObject {textLimit levels : Nat} {entries : List (String × Value)}
    (skips : ∀ entry ∈ entries, ∀ rest, Delimited rest →
      (skipValue textLimit levels).Reads (entry.2.chars ++ rest) () rest)
    (long : (chars (.object entries)).length < textLimit) :
    (skipValue textLimit (levels + 1)).Reads (chars (.object entries) ++ rest) () rest := by
  have counted := count_entries_lt entries
  have keys : ∀ entry ∈ entries, entry.1.toList.length < textLimit := by
    intro entry isEntry
    have shorter := length_entry_lt isEntry
    omega
  rw [chars_object, List.cons_append, List.append_assoc]
  apply (reads_peekToken (c := '\x7b') rfl).bind
  apply reads_advance.bind
  cases entries with
  | nil => exact (reads_peekToken (c := '\x7d') rfl).bind reads_advance
  | cons entry others =>
      have skipped : (skipMembers textLimit (skipValue textLimit levels) textLimit).Reads
          (memberChars entry ++ (listed false (others.map memberChars) ++ '\x7d' :: rest)) ()
          rest :=
        reads_skipMembers keys skips (by omega)
      have text : listed true ((entry :: others).map memberChars) ++ ('\x7d' :: rest)
          = memberChars entry ++ (listed false (others.map memberChars) ++ '\x7d' :: rest) := by
        simp [listed]
      rw [List.singleton_append, text]
      rw [memberChars_append] at skipped ⊢
      apply (reads_peekToken (c := '"') rfl).bind
      exact skipped

theorem reads_skipValue {value : Value} {textLimit levels : Nat} (integral : value.Integral)
    (shallow : value.nesting < levels) (long : value.chars.length < textLimit)
    (delimited : Delimited rest) :
    (skipValue textLimit levels).Reads (value.chars ++ rest) () rest := by
  induction value using induction_on_children generalizing levels rest with
  | step value induction =>
      cases levels with
      | zero => cases shallow
      | succ levels =>
          cases value with
          | null =>
              rw [chars_null]
              apply (reads_peekToken (c := 'n') rfl).bind
              exact reads_advance.bind (reads_word ['u', 'l', 'l'])
          | bool value =>
              cases value with
              | true =>
                  rw [chars_true]
                  apply (reads_peekToken (c := 't') rfl).bind
                  exact reads_advance.bind (reads_word ['r', 'u', 'e'])
              | false =>
                  rw [chars_false]
                  apply (reads_peekToken (c := 'f') rfl).bind
                  exact reads_advance.bind (reads_word ['a', 'l', 's', 'e'])
          | number number =>
              cases number with
              | float value => exact False.elim integral.here
              | integer value =>
                  rw [chars_integer]
                  exact reads_skipInteger delimited
          | string text =>
              rw [chars_string, List.cons_append, List.append_assoc]
              apply (reads_peekToken (c := '"') rfl).bind
              exact reads_advance.bind
                (reads_skipString (Nat.lt_trans (length_text_lt text) long))
          | array items =>
              rw [nesting, Nat.add_lt_add_iff_right] at shallow
              apply reads_skipArray _ (fun item isItem => (integral.item isItem).here) long
              intro item isItem rest delimited
              apply induction item isItem (integral.item isItem) _ _ delimited
              · exact Nat.lt_of_le_of_lt (nesting_le_of_item isItem) shallow
              · exact Nat.lt_trans (length_item_lt isItem) long
          | object entries =>
              rw [nesting, Nat.add_lt_add_iff_right] at shallow
              apply reads_skipObject _ long
              intro entry isEntry rest delimited
              have shorter := length_entry_lt isEntry
              apply induction entry.2 (List.mem_map_of_mem isEntry) (integral.member isEntry)
                _ _ delimited
              · exact Nat.lt_of_le_of_lt (nesting_le_of_member isEntry) shallow
              · omega

end Reader

end SchemaScaffold.Json
