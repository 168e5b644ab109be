import SchemaScaffold.Proofs.Json.Numbers
import SchemaScaffold.Proofs.Json.Strings

/-! The compact form of a value ends where the value ends. So no other value has
this form, whatever stands behind the two. -/

namespace SchemaScaffold.Json

namespace Reader

/-- A text is read in one way only. -/
theorem Reads.unique {α : Type} {reader : Reader α} {text rest rest' : List Char} {value value' : α}
    (reads : reader.Reads text value rest) (reads' : reader.Reads text value' rest') :
    value = value' ∧ rest = rest' := by
  rcases reads 0 with ⟨_, read⟩
  rcases reads' 0 with ⟨_, read'⟩
  rw [read] at read'
  cases read'
  exact ⟨rfl, rfl⟩

end Reader

open Reader

variable {rest rest' : List Char}

/-! ## Strings and numbers -/

theorem literalChars_append {text text' : List Char}
    (equal : literalChars text ++ rest = literalChars text' ++ rest') :
    text = text' ∧ rest = rest' := by
  have bodies : text.flatMap escapedChar ++ '"' :: rest
      = text'.flatMap escapedChar ++ '"' :: rest' := by
    simpa [literalChars] using equal
  have read : (stringBody (text.length + text'.length + 1)).Reads _ text rest :=
    reads_stringBody (by omega)
  have read' : (stringBody (text.length + text'.length + 1)).Reads _ text' rest' :=
    reads_stringBody (by omega)
  rw [bodies] at read
  exact read.unique read'

theorem stringLiteral_injective {text other : String}
    (equal : stringLiteral text = stringLiteral other) : text = other := by
  have literals : literalChars text.toList ++ [] = literalChars other.toList ++ [] :=
    congrArg (· ++ []) (String.ofList_injective equal)
  exact String.toList_inj.mp (literalChars_append literals).1

theorem toDigits_append {number number' : Nat} (delimited : Delimited rest)
    (delimited' : Delimited rest')
    (equal : Nat.toDigits 10 number ++ rest = Nat.toDigits 10 number' ++ rest') :
    number = number' ∧ rest = rest' := by
  have written (value : Nat) : ∀ c ∈ Nat.toDigits 10 value, isDigit c = true :=
    fun _ => isDigit_of_mem_toDigits
  have read := reads_digits (written number) delimited
  have read' := reads_digits (written number') delimited'
  rw [equal] at read
  obtain ⟨-, same⟩ := read.unique read'
  rw [same, List.append_cancel_right_eq] at equal
  have values := congrArg (Nat.ofDigitChars 10 · 0) equal
  simp only [Nat.ofDigitChars_ten_toDigits] at values
  exact ⟨values, same⟩

theorem numeral_append {value value' : Int} (delimited : Delimited rest)
    (delimited' : Delimited rest') (equal : numeral value ++ rest = numeral value' ++ rest') :
    value = value' ∧ rest = rest' := by
  -- Digits are no sign.
  have apart (number : Nat) {others : List Char} (text : List Char) :
      Nat.toDigits 10 number ++ others ≠ '-' :: text := by
    rcases toDigits_eq_cons number with ⟨first, behind, digits, isDigit⟩
    rw [digits, List.cons_append]
    intro same
    exact ne_of_isDigit isDigit rfl (List.cons.inj same).1
  cases value with
  | ofNat number =>
      cases value' with
      | ofNat number' =>
          obtain ⟨same, rests⟩ := toDigits_append delimited delimited' equal
          exact ⟨congrArg Int.ofNat same, rests⟩
      | negSucc number' => exact absurd equal (apart number _)
  | negSucc number =>
      cases value' with
      | ofNat number' => exact absurd equal.symm (apart number' _)
      | negSucc number' =>
          obtain ⟨same, rests⟩ :=
            toDigits_append delimited delimited' (List.cons.inj equal).2
          exact ⟨congrArg Int.negSucc (Nat.succ.inj same), rests⟩

/-! ## Lists -/

/-- A list is not closed where an item follows. -/
theorem closing_ne_listed {closing : Char} (closes : closing = ']' ∨ closing = '\x7d')
    {text behind behind' : List Char} {texts : List (List Char)} {isFirst : Bool}
    (opens : ∃ c others, text = c :: others ∧ StartsItem c) :
    closing :: behind ≠ listed isFirst (text :: texts) ++ behind' := by
  rcases opens with ⟨c, others, rfl, _, _, notListEnd, notObjectEnd⟩
  intro same
  have first : closing = if isFirst then c else ',' := by
    cases isFirst <;> exact (List.cons.inj same).1
  cases isFirst with
  | false => rcases closes with rfl | rfl <;> cases first
  | true =>
      rcases closes with rfl | rfl
      · exact notListEnd first.symm
      · exact notObjectEnd first.symm

/-- Items that are known by their texts are known by the text of their list. -/
theorem listed_append {α : Type} {print : α → List Char} {closing : Char}
    (closes : closing = ']' ∨ closing = '\x7d') {items items' : List α} {isFirst : Bool}
    (starts : ∀ item ∈ items, ∃ c others, print item = c :: others ∧ StartsItem c)
    (starts' : ∀ item ∈ items', ∃ c others, print item = c :: others ∧ StartsItem c)
    (each : ∀ item ∈ items, ∀ item' ∈ items', ∀ rest rest', Delimited rest → Delimited rest' →
      print item ++ rest = print item' ++ rest' → item = item' ∧ rest = rest')
    (equal : listed isFirst (items.map print) ++ closing :: rest
      = listed isFirst (items'.map print) ++ closing :: rest') :
    items = items' ∧ rest = rest' := by
  have delimited (texts : List (List Char)) (behind : List Char) :
      Delimited (listed false texts ++ closing :: behind) := by
    apply Delimited.listed
    rcases closes with rfl | rfl
    · exact delimited_listEnd behind
    · exact delimited_objectEnd behind
  induction items generalizing items' isFirst with
  | nil =>
      cases items' with
      | nil => exact ⟨rfl, (List.cons.inj equal).2⟩
      | cons item' others' =>
          exact absurd equal (closing_ne_listed closes (starts' item' (List.mem_cons_self ..)))
  | cons item others induction =>
      cases items' with
      | nil =>
          exact absurd equal.symm (closing_ne_listed closes (starts item (List.mem_cons_self ..)))
      | cons item' others' =>
          rw [List.forall_mem_cons] at starts starts' each
          have texts : print item ++ (listed false (others.map print) ++ closing :: rest)
              = print item' ++ (listed false (others'.map print) ++ closing :: rest') := by
            cases isFirst <;> simpa [listed] using equal
          obtain ⟨same, later⟩ := each.1 item' (List.mem_cons_self ..) _ _
            (delimited _ rest) (delimited _ rest') texts
          obtain ⟨sameOthers, rests⟩ := induction starts.2 starts'.2
            (fun item isItem item' isItem' =>
              each.2 item isItem item' (List.mem_cons_of_mem _ isItem'))
            later
          exact ⟨by rw [same, sameOthers], rests⟩

/-! ## Values -/

namespace Value

/-- Values of one kind, whatever they hold. -/
inductive SameKind : Value → Value → Prop
  | null : SameKind .null .null
  | bool (flag flag' : Bool) : SameKind (.bool flag) (.bool flag')
  | number (number number' : Number) : SameKind (.number number) (.number number')
  | string (text text' : String) : SameKind (.string text) (.string text')
  | array (items items' : List Value) : SameKind (.array items) (.array items')
  | object (members members' : List (String × Value)) : SameKind (.object members) (.object members')

/-- Values that open with one character are of one kind. -/
theorem OpensWith.sameKind {value value' : Value} {c : Char} (opens : value.OpensWith c)
    (opens' : value'.OpensWith c) : SameKind value value' := by
  cases value <;> cases value'
  case null.null => exact .null
  case bool.bool => exact .bool _ _
  case number.number => exact .number _ _
  case string.string => exact .string _ _
  case array.array => exact .array _ _
  case object.object => exact .object _ _
  all_goals grind [OpensWith, → ne_first_of_isDigit]

/-- Lists whose items are known by their texts. -/
theorem array_append {items items' : List Value} (noFloat : HasNoFloat (.array items))
    (noFloat' : HasNoFloat (.array items'))
    (each : ∀ item ∈ items, ∀ item' ∈ items', ∀ rest rest', Delimited rest → Delimited rest' →
      item.chars ++ rest = item'.chars ++ rest' → item = item' ∧ rest = rest')
    (equal : chars (.array items) ++ rest = chars (.array items') ++ rest') :
    items = items' ∧ rest = rest' := by
  have lists : listed true (items.map chars) ++ ']' :: rest
      = listed true (items'.map chars) ++ ']' :: rest' := by
    simpa [chars_array] using equal
  exact listed_append (.inl rfl)
    (fun item isItem => chars_eq_cons_of_noFloat (noFloat.item isItem).here)
    (fun item isItem => chars_eq_cons_of_noFloat (noFloat'.item isItem).here) each lists

/-- A key ends where its literal ends, and the value of a member stands behind it. -/
theorem member_append {member member' : String × Value}
    (known : member.2.chars ++ rest = member'.2.chars ++ rest' →
      member.2 = member'.2 ∧ rest = rest')
    (equal : memberChars member ++ rest = memberChars member' ++ rest') :
    member = member' ∧ rest = rest' := by
  rw [memberChars, memberChars, List.append_assoc, List.append_assoc] at equal
  obtain ⟨sameKey, values⟩ := literalChars_append equal
  obtain ⟨sameValue, rests⟩ := known (List.cons.inj values).2
  exact ⟨Prod.ext (String.toList_inj.mp sameKey) sameValue, rests⟩

/-- Objects whose members are known by their texts. -/
theorem object_append {members members' : List (String × Value)}
    (each : ∀ member ∈ members, ∀ member' ∈ members', ∀ rest rest', Delimited rest →
      Delimited rest' → memberChars member ++ rest = memberChars member' ++ rest' →
      member = member' ∧ rest = rest')
    (equal : chars (.object members) ++ rest = chars (.object members') ++ rest') :
    members = members' ∧ rest = rest' := by
  have lists : listed true (members.map memberChars) ++ '\x7d' :: rest
      = listed true (members'.map memberChars) ++ '\x7d' :: rest' := by
    simpa [chars_object] using equal
  have opens (member : String × Value) :
      ∃ first others, memberChars member = first :: others ∧ StartsItem first :=
    ⟨'"', _, rfl, by decide⟩
  exact listed_append (.inr rfl) (fun member _ => opens member) (fun member _ => opens member)
    each lists

/-- Up to what stands behind it, a value is known by its compact form. -/
theorem chars_append {value value' : Value} (noFloat : value.HasNoFloat)
    (noFloat' : value'.HasNoFloat) (delimited : Delimited rest) (delimited' : Delimited rest')
    (equal : value.chars ++ rest = value'.chars ++ rest') : value = value' ∧ rest = rest' := by
  induction value using induction_on_children generalizing value' rest rest' with
  | step value induction =>
      have kind : SameKind value value' := by
        rcases chars_opensWith_of_noFloat noFloat.here with ⟨first, others, printed, opens⟩
        rcases chars_opensWith_of_noFloat noFloat'.here with ⟨first', others', printed', opens'⟩
        rw [printed, printed'] at equal
        rw [← (List.cons.inj equal).1] at opens'
        exact opens.sameKind opens'
      cases kind with
      | null => exact ⟨rfl, List.append_cancel_left equal⟩
      | bool flag flag' =>
          cases flag <;> cases flag' <;> simp_all [chars_true, chars_false]
      | number number number' =>
          cases number with
          | float value => exact False.elim noFloat.here
          | integer value =>
              cases number' with
              | float value' => exact False.elim noFloat'.here
              | integer value' =>
                  rw [chars_integer, chars_integer] at equal
                  obtain ⟨rfl, rests⟩ := numeral_append delimited delimited' equal
                  exact ⟨rfl, rests⟩
      | string text text' =>
          have literals : literalChars text.toList ++ rest = literalChars text'.toList ++ rest' := by
            simpa [chars_string, literalChars] using equal
          obtain ⟨same, rests⟩ := literalChars_append literals
          exact ⟨by rw [String.toList_inj.mp same], rests⟩
      | array items items' =>
          obtain ⟨rfl, rests⟩ := array_append noFloat noFloat'
            (fun item isItem item' isItem' _ _ =>
              induction item isItem (noFloat.item isItem) (noFloat'.item isItem'))
            equal
          exact ⟨rfl, rests⟩
      | object members members' =>
          obtain ⟨rfl, rests⟩ := object_append
            (fun member isMember member' isMember' _ _ delimited delimited' =>
              member_append (induction member.2 (List.mem_map_of_mem isMember)
                (noFloat.member isMember) (noFloat'.member isMember') delimited delimited'))
            equal
          exact ⟨rfl, rests⟩

theorem compact_injective {value value' : Value} (noFloat : value.HasNoFloat)
    (noFloat' : value'.HasNoFloat) (equal : value.compact = value'.compact) : value = value' := by
  have texts : value.chars ++ [] = value'.chars ++ [] := by rw [chars, chars, equal]
  exact (chars_append noFloat noFloat' delimited_nil delimited_nil texts).1

end Value

end SchemaScaffold.Json
