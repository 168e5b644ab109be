import SchemaScaffold.Proofs.Json.Contents
import SchemaScaffold.Proofs.Json.Outcome

/-! The compact form of a value as a list of characters: what it starts with and
what may follow it. -/

namespace SchemaScaffold.Json

/-- Texts with a comma before each of them, except for one that is the first. -/
def listed : (isFirst : Bool) → List (List Char) → List Char
  | _, [] => []
  | isFirst, text :: rest => (if isFirst then text else ',' :: text) ++ listed false rest

/-- The digits of an integer behind its sign, if it has one. -/
def numeral : Int → List Char
  | .ofNat value => Nat.toDigits 10 value
  | .negSucc value => '-' :: Nat.toDigits 10 (value + 1)

namespace Value

def chars (value : Value) : List Char := value.compact.toList

def memberChars (member : String × Value) : List Char :=
  literalChars member.1.toList ++ ':' :: member.2.chars

theorem chars_null : chars .null = ['n', 'u', 'l', 'l'] := by
  rw [chars, compact]
  rfl

theorem chars_true : chars (.bool true) = ['t', 'r', 'u', 'e'] := by
  rw [chars, compact]
  rfl

theorem chars_false : chars (.bool false) = ['f', 'a', 'l', 's', 'e'] := by
  rw [chars, compact]
  rfl

theorem chars_integer (value : Int) : chars (.number (.integer value)) = numeral value := by
  rw [chars, compact, Number.text]
  cases value with
  | ofNat value => exact Nat.toList_repr
  | negSucc value =>
      change ("-" ++ Nat.repr (value + 1)).toList = _
      rw [String.toList_append, Nat.toList_repr]
      rfl

theorem chars_string (text : String) :
    chars (.string text) = '"' :: (text.toList.flatMap escapedChar ++ ['"']) := by
  rw [chars, compact, stringLiteral, String.toList_ofList, literalChars]
  rfl

private theorem toList_compactItems (items : List Value) :
    (compactItems items).toList = listed true (items.map chars) := by
  induction items with
  | nil => rfl
  | cons first rest induction =>
      cases rest with
      | nil => simp [compactItems, listed, chars]
      | cons second others =>
          rw [compactItems, String.toList_append, String.toList_append, induction]
          · simp [listed, chars]
          · simp

private theorem toList_compactMembers (members : List (String × Value)) :
    (compactMembers members).toList = listed true (members.map memberChars) := by
  induction members with
  | nil => rfl
  | cons first rest induction =>
      rcases first with ⟨key, value⟩
      cases rest with
      | nil => simp [compactMembers, listed, memberChars, chars, stringLiteral]
      | cons second others =>
          rw [compactMembers]
          · simp [induction, listed, memberChars, chars, stringLiteral]
          · simp

theorem chars_array (items : List Value) :
    chars (.array items) = '[' :: (listed true (items.map chars) ++ [']']) := by
  rw [chars, compact, String.toList_append, String.toList_append, toList_compactItems]
  rfl

theorem chars_object (members : List (String × Value)) :
    chars (.object members) = '\x7b' :: (listed true (members.map memberChars) ++ ['\x7d']) := by
  rw [chars, compact, String.toList_append, String.toList_append, toList_compactMembers]
  rfl

end Value

/-! ## White space -/

/-- The white space around the parts of an object's members. -/
structure Spacing where
  beforeKey : List Char
  beforeValue : List Char
  beforeEnd : List Char
  blankKey : Reader.IsBlankText beforeKey
  blankValue : Reader.IsBlankText beforeValue
  blankEnd : Reader.IsBlankText beforeEnd

namespace Spacing

def none : Spacing := ⟨[], [], [], nofun, nofun, nofun⟩

def memberChars (spacing : Spacing) (member : String × Value) : List Char :=
  spacing.beforeKey
    ++ (literalChars member.1.toList ++ ':' :: (spacing.beforeValue ++ member.2.chars))

end Spacing

/-- A member whose value is written as a text of any form. -/
structure WrittenMember where
  key : String
  text : List Char
  value : Value

namespace WrittenMember

def entry (member : WrittenMember) : String × Value := (member.key, member.value)

def compact (entry : String × Value) : WrittenMember := ⟨entry.1, entry.2.chars, entry.2⟩

end WrittenMember

def Spacing.memberText (spacing : Spacing) (member : WrittenMember) : List Char :=
  spacing.beforeKey
    ++ (literalChars member.key.toList ++ ':' :: (spacing.beforeValue ++ member.text))

theorem Spacing.memberTexts_compact (spacing : Spacing) (entries : List (String × Value)) :
    (entries.map WrittenMember.compact).map spacing.memberText
      = entries.map spacing.memberChars :=
  List.map_map

/-! ## Neighbours -/

/-- A character that a value or a key can start with. -/
def StartsItem (c : Char) : Prop :=
  Cursor.isBlank c = false ∧ c ≠ ',' ∧ c ≠ ']' ∧ c ≠ '\x7d'

instance (c : Char) : Decidable (StartsItem c) := by
  unfold StartsItem
  infer_instance

/-- What may stand behind a value. -/
def Delimited (rest : List Char) : Prop :=
  ∀ c ∈ rest.head?, c ∈ [',', ']', '\x7d', ' ', '\n', '\t', '\r']

theorem delimited_nil : Delimited [] := by
  intro c isHead
  cases isHead

theorem delimited_comma (rest : List Char) : Delimited (',' :: rest) := by
  simp [Delimited]

theorem delimited_listEnd (rest : List Char) : Delimited (']' :: rest) := by
  simp [Delimited]

theorem delimited_objectEnd (rest : List Char) : Delimited ('\x7d' :: rest) := by
  simp [Delimited]

theorem delimited_blank {c : Char} (blank : Cursor.isBlank c = true) (rest : List Char) :
    Delimited (c :: rest) := by
  rw [Cursor.isBlank] at blank
  simp only [Bool.or_eq_true, beq_iff_eq] at blank
  rcases blank with ((rfl | rfl) | rfl) | rfl <;> simp [Delimited]

/-- No digit and nothing that continues a number stands behind a value. -/
theorem Delimited.head_cases {c : Char} {rest : List Char} (delimited : Delimited (c :: rest)) :
    c = ',' ∨ c = ']' ∨ c = '\x7d' ∨ c = ' ' ∨ c = '\n' ∨ c = '\t' ∨ c = '\r' := by
  have isOne : c ∈ [',', ']', '\x7d', ' ', '\n', '\t', '\r'] := delimited c rfl
  simpa using isOne

theorem Delimited.behind_blanks {gap rest : List Char} (delimited : Delimited rest)
    (blank : Reader.IsBlankText gap) : Delimited (gap ++ rest) := by
  cases gap with
  | nil => exact delimited
  | cons c others => exact delimited_blank (blank c (List.mem_cons_self ..)) _

theorem Delimited.listed {rest : List Char} (delimited : Delimited rest)
    (texts : List (List Char)) : Delimited (listed false texts ++ rest) := by
  cases texts with
  | nil => exact delimited
  | cons head others => exact delimited_comma _

/-- A comma in front only makes a text longer. -/
theorem length_le_separated (isFirst : Bool) (text : List Char) :
    text.length ≤ (if isFirst then text else ',' :: text).length := by
  cases isFirst <;> simp

theorem length_le_listed {text : List Char} {texts : List (List Char)} (isText : text ∈ texts)
    (isFirst : Bool) : text.length ≤ (listed isFirst texts).length := by
  induction texts generalizing isFirst with
  | nil => cases isText
  | cons head others induction =>
      rw [Json.listed, List.length_append]
      rcases List.mem_cons.mp isText with rfl | later
      · exact Nat.le_add_right_of_le (length_le_separated isFirst text)
      · have bounded := induction later false
        omega

/-- As no text is empty, there are not more texts than characters. -/
theorem count_le_listed {texts : List (List Char)} (nonempty : ∀ text ∈ texts, text ≠ [])
    (isFirst : Bool) : texts.length ≤ (listed isFirst texts).length := by
  induction texts generalizing isFirst with
  | nil => simp
  | cons head others induction =>
      have bounded := induction (fun text isText =>
        nonempty text (List.mem_cons_of_mem _ isText)) false
      have positive := List.length_pos_iff.mpr (nonempty head (List.mem_cons_self ..))
      have separated := length_le_separated isFirst head
      rw [Json.listed, List.length_append, List.length_cons]
      omega

/-! ## First characters -/

theorem isDigit_of_mem_toDigits {value : Nat} {c : Char} (isDigit : c ∈ Nat.toDigits 10 value) :
    Reader.isDigit c = true := by
  have digit := Nat.isDigit_of_mem_toDigits (by decide) (by decide) isDigit
  simp only [Char.isDigit, Bool.and_eq_true, decide_eq_true_eq, ge_iff_le] at digit
  simp only [Reader.isDigit, Bool.and_eq_true, decide_eq_true_eq]
  exact digit

theorem ne_of_isDigit {c other : Char} (isDigit : Reader.isDigit c = true)
    (notDigit : Reader.isDigit other = false) : c ≠ other := by
  intro equal
  rw [equal, notDigit] at isDigit
  cases isDigit

theorem startsItem_of_isDigit {c : Char} (isDigit : Reader.isDigit c = true) : StartsItem c := by
  refine ⟨?_, ne_of_isDigit isDigit rfl, ne_of_isDigit isDigit rfl, ne_of_isDigit isDigit rfl⟩
  simp only [Cursor.isBlank, Bool.or_eq_false_iff, beq_eq_false_iff_ne]
  exact ⟨⟨⟨ne_of_isDigit isDigit rfl, ne_of_isDigit isDigit rfl⟩, ne_of_isDigit isDigit rfl⟩,
    ne_of_isDigit isDigit rfl⟩

/-- No other kind of value starts with a digit. -/
theorem ne_first_of_isDigit {c : Char} (isDigit : Reader.isDigit c = true) :
    c ≠ 'n' ∧ c ≠ 't' ∧ c ≠ 'f' ∧ c ≠ '-' ∧ c ≠ '"' ∧ c ≠ '[' ∧ c ≠ '\x7b' :=
  ⟨ne_of_isDigit isDigit rfl, ne_of_isDigit isDigit rfl, ne_of_isDigit isDigit rfl,
    ne_of_isDigit isDigit rfl, ne_of_isDigit isDigit rfl, ne_of_isDigit isDigit rfl,
    ne_of_isDigit isDigit rfl⟩

theorem toDigits_eq_cons (value : Nat) : ∃ first rest,
    Nat.toDigits 10 value = first :: rest ∧ Reader.isDigit first = true := by
  cases digits : Nat.toDigits 10 value with
  | nil => exact absurd digits Nat.toDigits_ne_nil
  | cons first rest =>
      have isFirst : first ∈ Nat.toDigits 10 value := by simp [digits]
      exact ⟨first, rest, rfl, isDigit_of_mem_toDigits isFirst⟩

theorem numeral_eq_cons (value : Int) : ∃ first rest,
    numeral value = first :: rest ∧ (first = '-' ∨ Reader.isDigit first = true) := by
  cases value with
  | ofNat value =>
      rcases toDigits_eq_cons value with ⟨first, rest, equal, isDigit⟩
      exact ⟨first, rest, equal, .inr isDigit⟩
  | negSucc value => exact ⟨'-', _, rfl, .inl rfl⟩

namespace Value

/-- The first character tells what kind of value it is. -/
def OpensWith : Value → Char → Prop
  | .null, c => c = 'n'
  | .bool _, c => c = 't' ∨ c = 'f'
  | .number _, c => c = '-' ∨ Reader.isDigit c = true
  | .string _, c => c = '"'
  | .array _, c => c = '['
  | .object _, c => c = '\x7b'

theorem OpensWith.startsItem {value : Value} {c : Char} (opens : value.OpensWith c) :
    StartsItem c := by
  cases value with
  | null =>
      cases opens
      decide
  | bool value =>
      rcases opens with rfl | rfl <;> decide
  | number number =>
      rcases opens with rfl | isDigit
      · decide
      · exact startsItem_of_isDigit isDigit
  | string text =>
      cases opens
      decide
  | array items =>
      cases opens
      decide
  | object members =>
      cases opens
      decide

theorem OpensWith.ne {value : Value} {c other : Char} (opens : value.OpensWith c)
    (foreign : ¬ value.OpensWith other) : c ≠ other := by
  intro equal
  rw [equal] at opens
  exact foreign opens

theorem chars_opensWith_of_noFloat {value : Value} (noFloat : value.IsNoFloat) :
    ∃ first rest, value.chars = first :: rest ∧ value.OpensWith first := by
  cases value with
  | null => exact ⟨_, _, chars_null, rfl⟩
  | bool value =>
      cases value with
      | true => exact ⟨_, _, chars_true, .inl rfl⟩
      | false => exact ⟨_, _, chars_false, .inr rfl⟩
  | number number =>
      cases number with
      | float value => exact False.elim noFloat
      | integer value =>
          rw [chars_integer]
          exact numeral_eq_cons value
  | string text => exact ⟨_, _, chars_string text, rfl⟩
  | array items => exact ⟨_, _, chars_array items, rfl⟩
  | object members => exact ⟨_, _, chars_object members, rfl⟩

theorem chars_opensWith {value : Value} (stored : value.HasStoredNumber) :
    ∃ first rest, value.chars = first :: rest ∧ value.OpensWith first :=
  chars_opensWith_of_noFloat stored.isNoFloat

theorem chars_eq_cons_of_noFloat {value : Value} (noFloat : value.IsNoFloat) :
    ∃ first rest, value.chars = first :: rest ∧ StartsItem first := by
  rcases chars_opensWith_of_noFloat noFloat with ⟨first, rest, equal, opens⟩
  exact ⟨first, rest, equal, opens.startsItem⟩

theorem chars_eq_cons {value : Value} (stored : value.HasStoredNumber) :
    ∃ first rest, value.chars = first :: rest ∧ StartsItem first :=
  chars_eq_cons_of_noFloat stored.isNoFloat

end Value

end SchemaScaffold.Json
