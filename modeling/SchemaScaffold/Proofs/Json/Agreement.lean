import SchemaScaffold.Json.Shape.OfText
import SchemaScaffold.Json.Shape.OfValue
import SchemaScaffold.Proofs.Json.Values

/-! Reading the compact form of a value and converting the value itself come to
the same: both give the same contents of a shape, or both fail. Which fault they
report, and where, is not compared. -/

namespace SchemaScaffold.Json

/-! ## Shapes and values that are compared -/

mutual

/-- A choice is left out: only in a text it may also be written as an object. -/
def Shape.HasNoChoice : Shape → Prop
  | .choice _ => False
  | .nullable inner => inner.HasNoChoice
  | .list item => item.HasNoChoice
  | .record _ members => members.HasNoChoice
  | _ => True

def Members.HasNoChoice : Members → Prop
  | .nil => True
  | .required _ shape rest => shape.HasNoChoice ∧ rest.HasNoChoice
  | .optional _ shape rest => shape.HasNoChoice ∧ rest.HasNoChoice

/-- What is taken whole from a value has its members in order, as values that
are read have. -/
def Shape.TakesSorted : Shape → Value → Prop
  | .anything, value => value.Sorted
  | .nullable inner, value => inner.TakesSorted value
  | .list item, value => ∀ child ∈ value.children, item.TakesSorted child
  | .record _ members, value => ∀ child ∈ value.children, members.TakesSorted child
  | _, _ => True

def Members.TakesSorted : Members → Value → Prop
  | .nil, _ => True
  | .required _ shape rest, value => shape.TakesSorted value ∧ rest.TakesSorted value
  | .optional _ shape rest, value => shape.TakesSorted value ∧ rest.TakesSorted value

end

mutual

theorem Shape.takesSorted_of_sorted : (shape : Shape) → ∀ {value : Value}, value.Sorted →
    shape.TakesSorted value
  | .text, _, _ => trivial
  | .flag, _, _ => trivial
  | .count, _, _ => trivial
  | .choice _, _, _ => trivial
  | .anything, _, sorted => sorted
  | .nullable inner, _, sorted => inner.takesSorted_of_sorted sorted
  | .list item, _, sorted => fun _ inside => item.takesSorted_of_sorted (sorted.child inside)
  | .record _ members, _, sorted => fun _ inside =>
      members.takesSorted_of_sorted (sorted.child inside)

theorem Members.takesSorted_of_sorted : (members : Members) → ∀ {value : Value}, value.Sorted →
    members.TakesSorted value
  | .nil, _, _ => trivial
  | .required _ shape rest, _, sorted =>
      ⟨shape.takesSorted_of_sorted sorted, rest.takesSorted_of_sorted sorted⟩
  | .optional _ shape rest, _, sorted =>
      ⟨shape.takesSorted_of_sorted sorted, rest.takesSorted_of_sorted sorted⟩

end

/-- A value whose written form can be read within the given limits. -/
structure Value.Readable (limit depth : Nat) (value : Value) : Prop where
  distinct : value.Distinct
  integral : value.Integral
  shallow : value.nesting ≤ depth
  long : value.chars.length < limit

namespace Value.Readable

variable {limit depth : Nat}

theorem item {items : List Value} {item : Value}
    (readable : Readable limit (depth + 1) (.array items)) (isItem : item ∈ items) :
    Readable limit depth item where
  distinct := readable.distinct.item isItem
  integral := readable.integral.item isItem
  shallow := Nat.le_trans (nesting_le_of_item isItem) (Nat.le_of_succ_le_succ readable.shallow)
  long := Nat.lt_trans (length_item_lt isItem) readable.long

theorem entry {entries : List (String × Value)} {entry : String × Value}
    (readable : Readable limit (depth + 1) (.object entries)) (isEntry : entry ∈ entries) :
    Readable limit depth entry.2 where
  distinct := readable.distinct.member isEntry
  integral := readable.integral.member isEntry
  shallow :=
    Nat.le_trans (nesting_le_of_member isEntry) (Nat.le_of_succ_le_succ readable.shallow)
  long := by
    have shorter := length_entry_lt isEntry
    have long := readable.long
    omega

end Value.Readable

/-! ## Results without their faults -/

@[simp] theorem toOption_bind (result : Except ε α) (next : α → Except ε β) :
    (result >>= next).toOption = result.toOption.bind fun value => (next value).toOption := by
  cases result <;> rfl

theorem toOption_bind_pure (result : Except ε α) (change : α → β) :
    (result >>= fun value => pure (change value)).toOption = result.toOption.map change := by
  cases result <;> rfl

theorem toOption_convertAll (convert : Value → Except Reason α) (values : List Value) :
    (convertAll convert values).toOption = values.mapM fun value => (convert value).toOption := by
  induction values with
  | nil => rfl
  | cons value others induction =>
      rw [convertAll, toOption_bind, List.mapM_cons]
      congr
      funext head
      rw [toOption_bind, induction]
      rfl

namespace Reader

open Value

variable {α σ : Type} {text rest : List Char} {limit depth : Nat} {isFirst : Bool}

/-! ## Scalars -/

/-- However far a mismatched value is read, it ends in a fault. -/
theorem refuses_mismatch (expected : String) :
    (mismatch limit expected : Reader α).Refuses text := by
  apply refuses_bind
  intro next text
  split
  · exact refuses_bind fun _ _ => refuses_bind fun _ _ => refuses_fail _
  · exact refuses_bind fun _ _ => refuses_bind fun _ _ => refuses_fail _
  · exact refuses_bind fun _ _ => refuses_bind fun _ _ => refuses_fail _
  · exact refuses_bind fun _ _ => refuses_bind fun _ _ => refuses_fail _
  · exact refuses_bind fun _ _ => refuses_bind fun _ _ => refuses_fail _
  · exact refuses_fail _
  · exact refuses_fail _
  · split
    · exact refuses_bind fun _ _ => refuses_fail _
    · exact refuses_failAhead _
  · exact refuses_failAhead _

theorem answers_text {value : Value} (readable : value.Readable limit depth) :
    (Reader.text limit).Answers (value.chars ++ rest) rest
      (Shape.text.ofValue value).toOption := by
  rcases chars_opensWith readable.integral.here with ⟨first, others, equal, opens⟩
  cases value with
  | string text =>
      have long := Nat.lt_trans (length_text_lt text) readable.long
      rw [chars_string, List.cons_append, List.append_assoc, Shape.ofValue]
      apply Reads.bind (reads_peekToken (c := '"') rfl)
      exact reads_advance.bind (reads_string long)
  | _ =>
      have notQuote : first ≠ '"' := opens.ne (by simp [OpensWith, isDigit])
      rw [equal, Shape.ofValue]
      · apply Reads.bind_refuses (reads_peekToken opens.startsItem.1)
        simp only
        exact refuses_mismatch _
      · simp

theorem answers_flag {value : Value} (readable : value.Readable limit depth) :
    (Reader.flag limit).Answers (value.chars ++ rest) rest
      (Shape.flag.ofValue value).toOption := by
  rcases chars_opensWith readable.integral.here with ⟨first, others, equal, opens⟩
  cases value with
  | bool value =>
      cases value with
      | true =>
          rw [chars_true, Shape.ofValue]
          apply Reads.bind (reads_peekToken (c := 't') rfl)
          exact reads_advance.bind ((reads_word ['r', 'u', 'e']).bind (reads_pure _))
      | false =>
          rw [chars_false, Shape.ofValue]
          apply Reads.bind (reads_peekToken (c := 'f') rfl)
          exact reads_advance.bind ((reads_word ['a', 'l', 's', 'e']).bind (reads_pure _))
  | _ =>
      have notTrue : first ≠ 't' := opens.ne (by simp [OpensWith, isDigit])
      have notFalse : first ≠ 'f' := opens.ne (by simp [OpensWith, isDigit])
      rw [equal, Shape.ofValue]
      · apply Reads.bind_refuses (reads_peekToken opens.startsItem.1)
        simp only
        exact refuses_mismatch _
      · simp

theorem answers_count {value : Value} (readable : value.Readable limit depth)
    (delimited : Delimited rest) :
    (Reader.count limit).Answers (value.chars ++ rest) rest
      (Shape.count.ofValue value).toOption := by
  rcases chars_opensWith readable.integral.here with ⟨first, others, equal, opens⟩
  cases value with
  | number number =>
      cases number with
      | float value => exact False.elim readable.integral.here
      | integer value =>
          have stored : IsStoredInteger value := readable.integral.here
          rw [chars_integer]
          cases value with
          | ofNat digits =>
              have read := reads_natural stored delimited
              rcases toDigits_eq_cons digits with ⟨first, others, equal, isDigit⟩
              have notMinus := (ne_first_of_isDigit isDigit).2.2.2.1
              rw [numeral, Shape.ofValue]
              simp only [equal, List.cons_append] at read ⊢
              apply Reads.bind (reads_peekToken (startsItem_of_isDigit isDigit).1)
              simp only [isDigit, if_true]
              exact read.bind (reads_pure digits)
          | negSucc digits =>
              rw [numeral, Shape.ofValue]
              · apply Reads.bind_refuses (reads_peekToken (c := '-') rfl)
                apply reads_advance.bind_refuses
                exact (reads_negative stored delimited).bind_refuses (refuses_fail _)
              · simp
  | _ =>
      have notMinus : first ≠ '-' := opens.ne (by simp [OpensWith])
      have notDigit : isDigit first = false := by
        cases digit : isDigit first with
        | false => rfl
        | true =>
            obtain ⟨_, _, _, _, _, _, _⟩ := ne_first_of_isDigit digit
            simp_all [OpensWith]
      rw [equal, Shape.ofValue]
      · apply Reads.bind_refuses (reads_peekToken opens.startsItem.1)
        simp only [notDigit]
        exact refuses_mismatch _
      · simp
      · simp

/-! ## Null -/

theorem answers_nullable {value : Value} {shape : Shape} {readOne : Reader shape.Denote}
    (readable : value.Readable limit depth)
    (inner : readOne.Answers (value.chars ++ rest) rest (shape.ofValue value).toOption) :
    (nullable readOne).Answers (value.chars ++ rest) rest
      ((Shape.nullable shape).ofValue value).toOption := by
  rcases chars_opensWith readable.integral.here with ⟨first, others, equal, opens⟩
  cases value with
  | null =>
      rw [chars_null, Shape.ofValue]
      apply Reads.bind (reads_peekToken (c := 'n') rfl)
      exact reads_advance.bind ((reads_word ['u', 'l', 'l']).bind (reads_pure none))
  | _ =>
      have notNull : first ≠ 'n' := opens.ne (by simp [OpensWith, isDigit])
      rw [Shape.ofValue, toOption_bind]
      · rw [equal] at inner ⊢
        apply Reads.bind_answers (reads_peekToken opens.startsItem.1)
        split
        · next isNull => exact absurd (Option.some.inj isNull) notNull
        · exact inner.bind fun value _ => reads_pure (some value)
      · simp

/-! ## Lists -/

theorem answers_listOf {value : Value} {item : Shape}
    {readOne : (depth : Nat) → Reader item.Denote} (readable : value.Readable limit depth)
    (inner : ∀ depth' child, child.Readable limit depth' → child ∈ value.children →
      ∀ rest, Delimited rest →
        (readOne depth').Answers (child.chars ++ rest) rest (item.ofValue child).toOption) :
    (listOf limit depth readOne).Answers (value.chars ++ rest) rest
      ((Shape.list item).ofValue value).toOption := by
  rcases chars_opensWith readable.integral.here with ⟨first, others, equal, opens⟩
  cases value with
  | array items =>
      cases depth with
      | zero => exact absurd readable.shallow (by simp [nesting])
      | succ depth =>
          have stored : ∀ child ∈ items, child.HasStoredNumber :=
            fun child isItem => (readable.item isItem).integral.here
          have counted := count_items_lt stored
          have long := readable.long
          have read : (Reader.items (readOne depth) true limit).Answers
              (listed true (items.map chars) ++ ']' :: rest) (']' :: rest)
              (items.mapM fun child => (item.ofValue child).toOption) :=
            answers_items stored
              (fun child isItem => inner depth child (readable.item isItem) isItem) (by omega)
          rw [chars_array, List.cons_append, List.append_assoc, Shape.ofValue, toOption_convertAll]
          apply Reads.bind_answers (reads_peekToken (c := '[') rfl)
          apply reads_advance.bind_answers
          rw [← Option.bind_fun_some (List.mapM _ items)]
          exact Answers.bind read fun values _ => reads_endList.bind_answers (reads_pure values)
  | _ =>
      have notList : first ≠ '[' := opens.ne (by simp [OpensWith, isDigit])
      rw [equal, Shape.ofValue]
      · apply Reads.bind_refuses (reads_peekToken opens.startsItem.1)
        simp only
        exact refuses_mismatch _
      · simp

/-! ## Closing a record

The contents of a record may be at fault as a whole. They answer with a fault as
a value then, and closing the record turns it into a refusal. -/

/-- What closing the contents with this ending comes to. -/
def Closes (contents : Reader (Except Reason α)) (ending : Reader Unit) (text rest : List Char) :
    Option α → Prop
  | some value => ∃ middle, contents.Reads text (.ok value) middle ∧ ending.Reads middle () rest
  | none =>
      contents.Refuses text ∨ (∃ reason middle, contents.Reads text (.error reason) middle) ∨
        ∃ value middle, contents.Reads text (.ok value) middle ∧ ending.Refuses middle

theorem Closes.answers {contents : Reader (Except Reason α)} {ending : Reader Unit}
    {afterEnd : Cursor → Cursor} {expected : Option α}
    (closes : Closes contents ending text rest expected) :
    (closing ending afterEnd contents).Answers text rest expected := by
  cases expected with
  | some value =>
      rcases closes with ⟨middle, read, ended⟩
      exact read.bind (ended.bind (reads_pure value))
  | none =>
      rcases closes with refused | ⟨reason, middle, read⟩ | ⟨value, middle, read, unended⟩
      · exact refused.bind
      · exact read.bind_refuses fun _ => ⟨_, rfl⟩
      · exact read.bind_refuses unended.bind

theorem Closes.after {β : Type} {first : Reader β} {next : β → Reader (Except Reason α)}
    {ending : Reader Unit} {value : β} {middle : List Char} {expected : Option α}
    (read : first.Reads text value middle)
    (closes : Closes (next value) ending middle rest expected) :
    Closes (first >>= next) ending text rest expected := by
  cases expected with
  | some result =>
      rcases closes with ⟨last, contents, ended⟩
      exact ⟨last, read.bind contents, ended⟩
  | none =>
      rcases closes with refused | ⟨reason, last, contents⟩ | ⟨result, last, contents, unended⟩
      · exact .inl (read.bind_refuses refused)
      · exact .inr (.inl ⟨reason, last, read.bind contents⟩)
      · exact .inr (.inr ⟨result, last, read.bind contents, unended⟩)

theorem Closes.bind {β : Type} {first : Reader β} {next : β → Reader (Except Reason α)}
    {ending : Reader Unit} {middle : List Char} {read : Option β} {result : β → Option α}
    (answers : first.Answers text middle read)
    (closes : ∀ value, read = some value →
      Closes (next value) ending middle rest (result value)) :
    Closes (first >>= next) ending text rest (read.bind result) := by
  cases read with
  | some value => exact (closes value rfl).after answers
  | none => exact .inl (Refuses.bind answers)

theorem Closes.map {β : Type} {contents : Reader (Except Reason α)} {ending : Reader Unit}
    {expected : Option α} (closes : Closes contents ending text rest expected)
    (change : α → β) :
    Closes (contents >>= fun result => pure (result.map change)) ending text rest
      (expected.map change) := by
  cases expected with
  | some value =>
      rcases closes with ⟨middle, read, ended⟩
      exact ⟨middle, read.bind (reads_pure _), ended⟩
  | none =>
      rcases closes with refused | ⟨reason, middle, read⟩ | ⟨value, middle, read, unended⟩
      · exact .inl refused.bind
      · exact .inr (.inl ⟨reason, middle, read.bind (reads_pure _)⟩)
      · exact .inr (.inr ⟨change value, middle, read.bind (reads_pure _), unended⟩)

theorem closes_pure {ending : Reader Unit} (result : Except Reason α)
    (ended : ending.Reads text () rest) :
    Closes (pure result) ending text rest result.toOption := by
  cases result with
  | ok value => exact ⟨text, reads_pure _, ended⟩
  | error reason => exact .inr (.inl ⟨reason, text, reads_pure _⟩)

/-! ## Records that are written as lists -/

/-- A member that still has an item in the list. -/
theorem closes_item {β γ : Type} {readOne : Reader β} {others : Reader (Except Reason γ)}
    {otherwise : Reader (Except Reason α)} (join : β → γ → α) {value : Value}
    {values : List Value} {here : Option β} {later : Option γ}
    (stored : value.HasStoredNumber)
    (answers : ∀ rest, Delimited rest → readOne.Answers (value.chars ++ rest) rest here)
    (closes : Closes others endList (listed false (values.map chars) ++ ']' :: rest) rest later) :
    Closes
      (hasItem isFirst >>= fun more =>
        if more then
          readOne >>= fun head => others >>= fun tail => pure (tail.map (join head))
        else otherwise)
      endList (listed isFirst ((value :: values).map chars) ++ ']' :: rest) rest
      (here.bind fun head => later.map (join head)) := by
  rcases chars_eq_cons stored with ⟨first, others', equal, starts⟩
  rw [listed_chars equal]
  apply Closes.after (reads_hasItem starts)
  rw [if_pos rfl, ← List.cons_append, ← equal]
  refine Closes.bind (answers _ ((delimited_listEnd rest).listed _)) fun head _ => ?_
  exact closes.map (join head)

/-- A list with more items than there are members is not closed. -/
theorem closes_surplus {value : Value} {values : List Value} (stored : value.HasStoredNumber)
    (result : α) :
    Closes (pure (.ok result)) endList
      (listed isFirst ((value :: values).map chars) ++ ']' :: rest) rest none := by
  rcases chars_eq_cons stored with ⟨first, others, equal, starts⟩
  refine .inr (.inr ⟨result, _, reads_pure _, ?_⟩)
  cases isFirst with
  | true =>
      have notListEnd := starts.2.2.1
      have notComma := starts.2.1
      simp only [List.map_cons, listed, if_true, equal, List.cons_append]
      apply (reads_peekToken starts.1).bind_refuses
      simp only
      exact refuses_failAhead _
  | false =>
      simp only [List.map_cons, listed, equal]
      exact refuses_endList starts

/-! ## Records that are written as objects -/

/-- Reading the value of a key, if the key is known, does what absorbing the
value does. -/
def Follows (value : Value) (filled : σ) (read? : Option (Reader (Except Reason σ)))
    (absorbed : Except Reason σ) : Prop :=
  match read? with
  | none => absorbed = .ok filled
  | some readValue => ∀ gap rest, IsBlankText gap → Delimited rest →
      readValue.Answers (':' :: (gap ++ (value.chars ++ rest))) rest
        (absorbed.toOption.map Except.ok)

theorem skipsBlanks_skipValue {levels : Nat} (positive : 0 < levels) :
    (skipValue limit levels).SkipsBlanks := by
  cases levels with
  | zero => cases positive
  | succ levels => exact skipsBlanks_peekToken.bind

/-- An empty slot is filled with what its member reads. -/
theorem follows_intoSlot {β : Type} {key : String} {readOne : Reader α} {value : Value}
    {others : β} {converted : Except Reason α} (skips : readOne.SkipsBlanks)
    (answers : ∀ rest, Delimited rest →
      readOne.Answers (value.chars ++ rest) rest converted.toOption) :
    Follows value (none, others)
      (some do
        let slot ← intoSlot key none readOne
        pure (slot.map fun slot => (slot, others)))
      (do
        let contents ← converted
        pure (some contents, others)) := by
  intro gap rest blank delimited
  have read := skips.answers blank (answers rest delimited)
  cases converted with
  | error reason => exact (Reads.bind_refuses reads_colon (Refuses.bind read)).bind
  | ok contents =>
      have filled : (intoSlot key none readOne).Reads (':' :: (gap ++ (value.chars ++ rest)))
          (.ok (some contents)) rest :=
        reads_colon.bind (Reads.bind read (reads_pure _))
      exact filled.bind (reads_pure _)

theorem Follows.behind {β : Type} {value : Value} {slot : α} {others : β}
    {read? : Option (Reader (Except Reason β))} {absorbed : Except Reason β}
    (follows : Follows value others read? absorbed) :
    Follows value (slot, others)
      (read?.map fun readValue => do
        let others ← readValue
        pure (others.map fun others => (slot, others)))
      (do
        let others ← absorbed
        pure (slot, others)) := by
  cases read? with
  | none =>
      rw [show absorbed = .ok others from follows]
      rfl
  | some readValue =>
      intro gap rest blank delimited
      have read := follows gap rest blank delimited
      cases absorbed with
      | error reason => exact Refuses.bind read
      | ok others' => exact Reads.bind read (reads_pure _)

/-- One member in front of others: if the others are read into whatever it fills, all
of them are read together. -/
theorem answers_slots_cons {readInto : (key : String) → σ → Option (Reader (Except Reason σ))}
    {absorb : (key : String) → Value → σ → Except Reason σ} (spacing : Spacing) {key : String}
    {value : Value} {others : List (String × Value)} {filled : σ} {count : Nat}
    (here : Follows value filled (readInto key filled) (absorb key value filled))
    (integral : value.Integral) (long : key.toList.length + value.chars.length < limit)
    (later : ∀ filled', absorb key value filled = .ok filled' →
      (slots limit readInto false count filled').Answers
        (listed false (others.map spacing.memberChars) ++ (spacing.beforeEnd ++ '\x7d' :: rest))
        ('\x7d' :: rest) ((absorbAll absorb others filled').toOption.map Except.ok)) :
    (slots limit readInto isFirst (count + 1) filled).Answers
      (listed isFirst (((key, value) :: others).map spacing.memberChars)
        ++ (spacing.beforeEnd ++ '\x7d' :: rest))
      ('\x7d' :: rest) ((absorbAll absorb ((key, value) :: others) filled).toOption.map
        Except.ok) := by
  have delimited := ((delimited_objectEnd rest).behind_blanks spacing.blankEnd).listed
    (others.map spacing.memberChars)
  rw [listed_spacedMembers, absorbAll, toOption_bind]
  apply (reads_nextKey?_behind spacing.blankKey (by omega)).bind_answers
  cases known : readInto key filled with
  | none =>
      simp only [Follows, known] at here ⊢
      -- The value of an unknown key is passed over, however it is nested.
      have deep : value.nesting < value.chars.length := nesting_lt_length integral
      have skips : (skipValue limit limit).SkipsBlanks := skipsBlanks_skipValue (by omega)
      have skipped : (skipValue limit limit).Reads (value.chars ++ _) () _ :=
        reads_skipValue integral (by omega) (by omega) delimited
      apply reads_colon.bind_answers
      apply (skips.reads spacing.blankValue skipped).bind_answers
      simp only [here]
      exact later filled here
  | some readValue =>
      simp only [Follows, known] at here ⊢
      have read := here _ _ spacing.blankValue delimited
      cases absorbed : absorb key value filled with
      | error reason =>
          simp only [absorbed] at read
          exact Refuses.bind read
      | ok filled' =>
          simp only [absorbed] at read
          exact Reads.bind_answers read (later filled' absorbed)

/-- Reading the members of an object fills the slots as going through them
does, as long as the slot of every key to come is still empty. -/
theorem answers_slots {readInto : (key : String) → σ → Option (Reader (Except Reason σ))}
    {absorb : (key : String) → Value → σ → Except Reason σ} {vacant : σ → String → Prop}
    (spacing : Spacing) {entries : List (String × Value)} {filled : σ} {count : Nat}
    (into : ∀ entry ∈ entries, ∀ filled, vacant filled entry.1 →
      Follows entry.2 filled (readInto entry.1 filled) (absorb entry.1 entry.2 filled))
    (keeps : ∀ entry ∈ entries, ∀ filled filled' other,
      absorb entry.1 entry.2 filled = .ok filled' → other ≠ entry.1 → vacant filled other →
        vacant filled' other)
    (distinct : (entries.map Prod.fst).Nodup) (empty : ∀ entry ∈ entries, vacant filled entry.1)
    (integral : ∀ entry ∈ entries, entry.2.Integral)
    (long : ∀ entry ∈ entries, entry.1.toList.length + entry.2.chars.length < limit)
    (enough : entries.length < count) :
    (slots limit readInto isFirst count filled).Answers
      (listed isFirst (entries.map spacing.memberChars) ++ (spacing.beforeEnd ++ '\x7d' :: rest))
      ('\x7d' :: rest) ((absorbAll absorb entries filled).toOption.map Except.ok) := by
  induction entries generalizing isFirst filled count with
  | nil =>
      cases count with
      | zero => cases enough
      | succ count =>
          exact Reads.bind (reads_nextKey?_last spacing) (reads_pure (Except.ok filled))
  | cons entry others induction =>
      cases count with
      | zero => cases enough
      | succ count =>
          have isEntry := List.mem_cons_self (a := entry) (l := others)
          have inOthers : ∀ {other}, other ∈ others → other ∈ entry :: others :=
            List.mem_cons_of_mem _
          have apart := List.nodup_cons.mp distinct
          have fresh : ∀ other ∈ others, other.1 ≠ entry.1 := fun other isOther equal =>
            apart.1 (equal ▸ List.mem_map_of_mem isOther)
          apply answers_slots_cons spacing (into entry isEntry filled (empty entry isEntry))
            (integral entry isEntry) (long entry isEntry)
          intro filled' absorbed
          apply induction
          · exact fun other isOther => into other (inOthers isOther)
          · exact fun other isOther => keeps other (inOthers isOther)
          · exact apart.2
          · exact fun other isOther => keeps entry isEntry filled filled' other.1 absorbed
              (fresh other isOther) (empty other (inOthers isOther))
          · exact fun other isOther => integral other (inOthers isOther)
          · exact fun other isOther => long other (inOthers isOther)
          · exact Nat.lt_of_succ_lt_succ enough

/-- The slots are completed where the object ends. -/
theorem closes_slots {readAll : Reader (Except Reason σ)} {absorbed : Except Reason σ}
    {complete : σ → Except Reason α}
    (answers : readAll.Answers text ('\x7d' :: rest) (absorbed.toOption.map Except.ok)) :
    Closes (readAll >>= fun filled => pure (filled.bind complete)) endObject text rest
      (absorbed >>= complete).toOption := by
  cases absorbed with
  | error reason => exact .inl (Refuses.bind answers)
  | ok filled => exact (closes_pure (complete filled) reads_endObject).after answers

end Reader

/-! ## Empty slots -/

namespace Members

/-- The slot that a key is read into, if it has one, is still empty. -/
def Vacant : (members : Members) → members.Slots → (key : String) → Prop
  | .nil, _, _ => True
  | .required name _ rest, (slot, others), key =>
      (key = name → slot = none) ∧ rest.Vacant others key
  | .optional name _ rest, (slot, others), key =>
      (key = name → slot = none) ∧ rest.Vacant others key

theorem vacant_emptySlots : (members : Members) → (key : String) →
    members.Vacant members.emptySlots key
  | .nil, _ => trivial
  | .required _ _ rest, key => ⟨fun _ => rfl, rest.vacant_emptySlots key⟩
  | .optional _ _ rest, key => ⟨fun _ => rfl, rest.vacant_emptySlots key⟩

/-- A value goes into the slot of its member, or into the slots behind it. -/
theorem fill_eq_ok {β γ : Type} {isName : Bool} {here : Except Reason β}
    {behind : Except Reason γ} {slot : Option β} {others : γ} {filled : Option β × γ} :
    ((if isName then do
        let converted ← here
        pure (some converted, others)
      else do
        let others ← behind
        pure (slot, others)) = Except.ok filled) ↔
      (isName = true ∧ ∃ converted, here = .ok converted ∧ filled = (some converted, others)) ∨
        (isName = false ∧ ∃ others', behind = .ok others' ∧ filled = (slot, others')) := by
  cases isName with
  | true => cases here <;> simp [bind, Except.bind, pure, Except.pure, eq_comm]
  | false => cases behind <;> simp [bind, Except.bind, pure, Except.pure, eq_comm]

/-- Filling the slot of one key leaves those of other keys empty. -/
theorem Vacant.absorb {key other : String} {value : Value} (different : other ≠ key) :
    {members : Members} → {filled filled' : members.Slots} →
    members.absorb key value filled = .ok filled' → members.Vacant filled other →
    members.Vacant filled' other
  | .nil, _, _, _, _ => trivial
  | .required name shape rest, (slot, others), filled', absorbed, vacant => by
      rw [Members.absorb] at absorbed
      rcases fill_eq_ok.mp absorbed with ⟨isName, _, _, rfl⟩ | ⟨_, _, behind, rfl⟩
      · exact ⟨fun equal => absurd (equal.trans (eq_of_beq isName).symm) different, vacant.2⟩
      · exact ⟨vacant.1, Vacant.absorb different behind vacant.2⟩
  | .optional name shape rest, (slot, others), filled', absorbed, vacant => by
      rw [Members.absorb] at absorbed
      rcases fill_eq_ok.mp absorbed with ⟨isName, _, _, rfl⟩ | ⟨_, _, behind, rfl⟩
      · exact ⟨fun equal => absurd (equal.trans (eq_of_beq isName).symm) different, vacant.2⟩
      · exact ⟨vacant.1, Vacant.absorb different behind vacant.2⟩

end Members

/-! ## Shapes -/

open Reader

theorem Shape.skipsBlanks_read (limit depth : Nat) :
    (shape : Shape) → (shape.read limit depth).SkipsBlanks
  | .text => skipsBlanks_peekToken.bind
  | .flag => skipsBlanks_peekToken.bind
  | .count => skipsBlanks_peekToken.bind
  | .anything => by cases depth <;> exact skipsBlanks_peekToken.bind
  | .nullable _ => skipsBlanks_peekToken.bind
  | .list _ => skipsBlanks_peekToken.bind
  | .choice _ => skipsBlanks_peekToken.bind
  | .record _ _ => skipsBlanks_peekToken.bind

/-- Reading the value from its written form agrees with converting it. -/
def Shape.Agrees (limit depth : Nat) (value : Value) (shape : Shape) : Prop :=
  ∀ rest, Delimited rest →
    (shape.read limit depth).Answers (value.chars ++ rest) rest (shape.ofValue value).toOption

/-- Of the shapes of all members. -/
def Members.All (holds : Shape → Prop) : Members → Prop
  | .nil => True
  | .required _ shape rest => holds shape ∧ rest.All holds
  | .optional _ shape rest => holds shape ∧ rest.All holds

/-- The value of a key goes into its slot if the member agrees about it. -/
theorem Members.follows_readInto {limit depth : Nat} {key : String} {value : Value} :
    (members : Members) → members.All (Shape.Agrees limit depth value) →
    {filled : members.Slots} → members.Vacant filled key →
    Follows value filled (members.readInto limit depth key filled)
      (members.absorb key value filled)
  | .nil, _, (), _ => rfl
  | .required name shape others, agrees, (slot, filled), vacant => by
      rw [Members.readInto, Members.absorb]
      cases isName : key == name with
      | true =>
          rw [vacant.1 (eq_of_beq isName)]
          exact follows_intoSlot (shape.skipsBlanks_read limit depth) agrees.1
      | false => exact (others.follows_readInto agrees.2 vacant.2).behind
  | .optional name shape others, agrees, (slot, filled), vacant => by
      rw [Members.readInto, Members.absorb]
      cases isName : key == name with
      | true =>
          rw [vacant.1 (eq_of_beq isName)]
          exact follows_intoSlot (shape.skipsBlanks_read limit depth) agrees.1
      | false => exact (others.follows_readInto agrees.2 vacant.2).behind

/-- An object whose members agree about their values, with any white space between
them. -/
theorem Shape.answers_object {limit depth : Nat} {rest : List Char} {name : String}
    {members : Members} {entries : List (String × Value)} (spacing : Spacing)
    (agrees : ∀ entry ∈ entries, members.All (Shape.Agrees limit depth entry.2))
    (distinct : (entries.map Prod.fst).Nodup)
    (integral : ∀ entry ∈ entries, entry.2.Integral)
    (long : ∀ entry ∈ entries, entry.1.toList.length + entry.2.chars.length < limit)
    (enough : entries.length < limit) :
    ((Shape.record name members).read limit (depth + 1)).Answers
      ('\x7b' :: (listed true (entries.map spacing.memberChars)
        ++ (spacing.beforeEnd ++ '\x7d' :: rest))) rest
      ((Shape.record name members).ofValue (.object entries)).toOption := by
  have read : (slots limit (fun key filled => members.readInto limit depth key filled) true limit
        members.emptySlots).Answers
      (listed true (entries.map spacing.memberChars) ++ (spacing.beforeEnd ++ '\x7d' :: rest))
      ('\x7d' :: rest)
      ((absorbAll (fun key value filled => members.absorb key value filled) entries
        members.emptySlots).toOption.map Except.ok) := answers_slots spacing
    (fun entry isEntry _ => members.follows_readInto (agrees entry isEntry))
    (fun _ _ _ _ _ absorbed different => Members.Vacant.absorb different absorbed)
    distinct (fun entry _ => members.vacant_emptySlots entry.1) integral long enough
  rw [Shape.ofValue]
  apply Reads.bind_answers (reads_peekToken (c := '\x7b') rfl)
  apply reads_advance.bind_answers
  apply Closes.answers
  exact closes_slots read

/-- A record whose members agree about the items of a list and about the values of an
object. Any other value is refused on both sides. -/
theorem Shape.answers_record {limit depth : Nat} {rest : List Char} {value : Value}
    {name : String} {members : Members} (readable : value.Readable limit depth)
    (closes : ∀ depth' items, value = .array items →
      (∀ item ∈ items, item.Readable limit depth') →
      Closes (members.readItems limit (Shape.expectedItems name members.size) depth' 0) endList
        (listed true (items.map Value.chars) ++ ']' :: rest) rest
        (members.ofItems (Shape.expectedItems name members.size) items.length 0 items).toOption)
    (agrees : ∀ depth' entries, value = .object entries → ∀ entry ∈ entries,
      entry.2.Readable limit depth' → members.All (Shape.Agrees limit depth' entry.2)) :
    ((Shape.record name members).read limit depth).Answers (value.chars ++ rest) rest
      ((Shape.record name members).ofValue value).toOption := by
  rcases Value.chars_opensWith readable.integral.here with ⟨first, others, equal, opens⟩
  cases value with
  | array items =>
      cases depth with
      | zero => exact absurd readable.shallow (by simp [Value.nesting])
      | succ depth =>
          rw [Value.chars_array, List.cons_append, List.append_assoc, Shape.ofValue]
          apply Reads.bind_answers (reads_peekToken (c := '[') rfl)
          apply reads_advance.bind_answers
          apply Closes.answers
          exact closes depth items rfl fun item isItem => readable.item isItem
  | object entries =>
      cases depth with
      | zero => exact absurd readable.shallow (by simp [Value.nesting])
      | succ depth =>
          have count := Value.count_entries_lt entries
          have long := readable.long
          rw [Value.chars_object, List.cons_append, List.append_assoc]
          apply Shape.answers_object .none
          · exact fun entry isEntry =>
              agrees depth entries rfl entry isEntry (readable.entry isEntry)
          · exact readable.distinct.here
          · exact fun entry isEntry => (readable.entry isEntry).integral
          · intro entry isEntry
            have shorter := Value.length_entry_lt isEntry
            omega
          · omega
  | _ =>
      have notList : first ≠ '[' := opens.ne (by simp [Value.OpensWith, isDigit])
      have notObject : first ≠ '\x7b' := opens.ne (by simp [Value.OpensWith, isDigit])
      rw [equal, Shape.ofValue]
      · apply Reads.bind_refuses (reads_peekToken opens.startsItem.1)
        simp only
        exact refuses_mismatch _
      · simp
      · simp

mutual

/-- Reading agrees with converting, for every shape. -/
theorem Shape.answers_read {limit depth : Nat} {value : Value} {rest : List Char} :
    (shape : Shape) → shape.HasNoChoice → value.Readable limit depth →
    shape.TakesSorted value → Delimited rest →
    (shape.read limit depth).Answers (value.chars ++ rest) rest (shape.ofValue value).toOption
  | .text, _, readable, _, _ => answers_text readable
  | .flag, _, readable, _, _ => answers_flag readable
  | .count, _, readable, _, delimited => answers_count readable delimited
  | .anything, _, readable, sorted, delimited => by
      rw [Shape.ofValue]
      exact reads_value sorted readable.integral readable.shallow readable.long delimited
  | .nullable inner, noChoice, readable, sorted, delimited =>
      answers_nullable readable (inner.answers_read noChoice readable sorted delimited)
  | .list item, noChoice, readable, sorted, _ =>
      answers_listOf readable fun _ child childReadable inside _ delimited =>
        item.answers_read noChoice childReadable (sorted child inside) delimited
  | .choice _, noChoice, _, _, _ => False.elim noChoice
  | .record name members, noChoice, readable, sorted, _ => by
      apply Shape.answers_record readable
      · rintro depth items rfl readableItems
        exact members.closes_readItems 0 noChoice readableItems sorted
      · rintro depth entries rfl entry isEntry readableEntry
        exact members.answers_read noChoice readableEntry
          (sorted _ (List.mem_map_of_mem isEntry))

theorem Members.closes_readItems {limit depth length : Nat} {expected : String}
    {rest : List Char} :
    (members : Members) → (index : Nat) → members.HasNoChoice → {values : List Value} →
    (∀ value ∈ values, value.Readable limit depth) →
    (∀ value ∈ values, members.TakesSorted value) →
    Closes (members.readItems limit expected depth index) endList
      (listed (index == 0) (values.map Value.chars) ++ ']' :: rest) rest
      (members.ofItems expected length index values).toOption
  | .nil, _, _, [], _, _ => by
      rw [Members.ofItems]
      exact closes_pure (.ok ()) reads_endList
  | .nil, _, _, value :: _, readable, _ =>
      closes_surplus (readable value (List.mem_cons_self ..)).integral.here ()
  | .required _ shape others, _, noChoice, [], _, _ =>
      .inr (.inl ⟨_, _, Reads.bind reads_hasItem_end (reads_pure _)⟩)
  | .optional _ shape others, index, noChoice, [], _, _ => by
      have closes : Closes (others.readItems limit expected depth (index + 1)) endList
          (']' :: rest) rest (others.ofItems expected length (index + 1) []).toOption :=
        others.closes_readItems (index + 1) noChoice.2 (fun _ isValue => nomatch isValue)
          (fun _ isValue => nomatch isValue)
      rw [Members.ofItems, toOption_bind_pure, Members.readItems]
      exact Closes.after reads_hasItem_end (closes.map _)
  | .required _ shape others, index, noChoice, value :: values, readable, sorted => by
      have isValue := List.mem_cons_self (a := value) (l := values)
      rw [Members.ofItems, toOption_bind, Members.readItems]
      simp only [toOption_bind_pure]
      exact closes_item Prod.mk (readable value isValue).integral.here
        (fun rest delimited => shape.answers_read noChoice.1 (readable value isValue)
          (sorted value isValue).1 delimited)
        (others.closes_readItems (index + 1) noChoice.2
          (fun other isOther => readable other (List.mem_cons_of_mem _ isOther))
          fun other isOther => (sorted other (List.mem_cons_of_mem _ isOther)).2)
  | .optional _ shape others, index, noChoice, value :: values, readable, sorted => by
      have isValue := List.mem_cons_self (a := value) (l := values)
      rw [Members.ofItems, toOption_bind, Members.readItems]
      simp only [toOption_bind_pure]
      exact closes_item (fun head tail => (some head, tail))
        (readable value isValue).integral.here
        (fun rest delimited => shape.answers_read noChoice.1 (readable value isValue)
          (sorted value isValue).1 delimited)
        (others.closes_readItems (index + 1) noChoice.2
          (fun other isOther => readable other (List.mem_cons_of_mem _ isOther))
          fun other isOther => (sorted other (List.mem_cons_of_mem _ isOther)).2)

theorem Members.answers_read {limit depth : Nat} {value : Value} :
    (members : Members) → members.HasNoChoice → value.Readable limit depth →
    members.TakesSorted value → members.All (Shape.Agrees limit depth value)
  | .nil, _, _, _ => trivial
  | .required _ shape rest, noChoice, readable, sorted =>
      ⟨fun _ delimited => shape.answers_read noChoice.1 readable sorted.1 delimited,
        rest.answers_read noChoice.2 readable sorted.2⟩
  | .optional _ shape rest, noChoice, readable, sorted =>
      ⟨fun _ delimited => shape.answers_read noChoice.1 readable sorted.1 delimited,
        rest.answers_read noChoice.2 readable sorted.2⟩

end

/-! ## Whole texts -/

theorem Shape.toOption_ofText {shape : Shape} {text : String} {expected : Option shape.Denote}
    (answers : (shape.read (text.toList.length + 1) Reader.deepest).Answers text.toList []
      expected) :
    (shape.ofText text).toOption = expected := by
  cases expected with
  | some contents =>
      have read : shape.ofText text = .ok contents := Reader.run_of_reads answers
      rw [read]
      rfl
  | none =>
      have refused : ∃ fault, shape.ofText text = .error fault := Reader.run_of_refuses answers
      rcases refused with ⟨fault, failed⟩
      rw [failed]
      rfl

end SchemaScaffold.Json
