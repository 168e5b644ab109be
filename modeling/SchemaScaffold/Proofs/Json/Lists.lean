import SchemaScaffold.Proofs.Json.Strings
import SchemaScaffold.Proofs.Json.Written

/-! Reading what stands between brackets: the items of a list, and the keys of an
object with their values. -/

namespace SchemaScaffold.Json.Reader

variable {α : Type} {c : Char} {rest tail : List Char} {limit : Nat} {isFirst : Bool}

/-! ## Items -/

theorem reads_hasItem_end : (hasItem isFirst).Reads (']' :: rest) false (']' :: rest) :=
  (reads_peekToken rfl).bind (reads_pure false)

theorem reads_hasItem (starts : StartsItem c) :
    (hasItem isFirst).Reads ((if isFirst then c :: rest else ',' :: c :: rest)) true
      (c :: rest) := by
  rcases starts with ⟨notBlank, notComma, notListEnd, _⟩
  cases isFirst with
  | true =>
      apply (reads_peekToken notBlank).bind
      simp only [if_true]
      exact reads_pure true
  | false =>
      apply (reads_peekToken (c := ',') rfl).bind
      apply reads_advance.bind
      apply (reads_peekToken notBlank).bind
      simp only
      exact reads_pure true

theorem reads_endList : endList.Reads (']' :: rest) () rest :=
  (reads_peekToken rfl).bind reads_advance

/-- The list is not closed where an item still follows. -/
theorem refuses_endList (starts : StartsItem c) : endList.Refuses (',' :: c :: rest) := by
  apply (reads_peekToken rfl).bind_refuses
  apply reads_advance.bind_refuses
  apply (reads_peekToken starts.1).bind_refuses
  split <;> exact refuses_failAhead _

/-- The text of an item in front of further items. -/
theorem listed_chars {value : Value} {values : List Value} {first : Char} {others : List Char}
    (equal : value.chars = first :: others) :
    listed isFirst ((value :: values).map Value.chars) ++ tail
      = if isFirst then first :: (others ++ (listed false (values.map Value.chars) ++ tail))
        else ',' :: first :: (others ++ (listed false (values.map Value.chars) ++ tail)) := by
  cases isFirst <;> simp [listed, equal]

/-- If every item is answered as expected, so is the whole list. -/
theorem answers_items {readOne : Reader α} {expected : Value → Option α} {values : List Value}
    (stored : ∀ value ∈ values, value.HasStoredNumber)
    (answers : ∀ value ∈ values, ∀ rest, Delimited rest →
      readOne.Answers (value.chars ++ rest) rest (expected value))
    (long : values.length < limit) :
    (items readOne isFirst limit).Answers
      (listed isFirst (values.map Value.chars) ++ ']' :: rest) (']' :: rest)
      (values.mapM expected) := by
  induction values generalizing isFirst limit with
  | nil =>
      cases limit with
      | zero => cases long
      | succ limit => exact reads_hasItem_end.bind_answers (reads_pure [])
  | cons value others induction =>
      cases limit with
      | zero => cases long
      | succ limit =>
          have inOthers : ∀ {other}, other ∈ others → other ∈ value :: others :=
            List.mem_cons_of_mem _
          have isValue := List.mem_cons_self (a := value) (l := others)
          rcases Value.chars_eq_cons (stored value isValue) with ⟨first, others', equal, starts⟩
          rw [listed_chars equal, List.mapM_cons]
          apply (reads_hasItem starts).bind_answers
          rw [← List.cons_append, ← equal]
          have here := answers value isValue (listed false (others.map Value.chars) ++ ']' :: rest)
            ((delimited_listEnd rest).listed _)
          refine here.bind fun head _ => ?_
          have later := @induction limit false
            (fun other isOther => stored other (inOthers isOther))
            (fun other isOther => answers other (inOthers isOther))
            (Nat.lt_of_succ_lt_succ long)
          exact later.bind fun tail _ => reads_pure (head :: tail)

/-! ## Members -/

theorem reads_nextKey?_end :
    (nextKey? limit isFirst).Reads ('\x7d' :: rest) none ('\x7d' :: rest) :=
  (reads_peekToken rfl).bind (reads_pure none)

theorem reads_nextKey?_behind {gap : List Char} (blank : IsBlankText gap) {key : String}
    (long : key.toList.length < limit) :
    (nextKey? limit isFirst).Reads
      (if isFirst then gap ++ (literalChars key.toList ++ rest)
        else ',' :: (gap ++ (literalChars key.toList ++ rest)))
      (some key) rest := by
  have key? : ∀ rest, ((advance >>= fun _ => string limit >>= fun key => pure (some key)) :
      Reader (Option String)).Reads (literalChars key.toList ++ rest) (some key) rest := by
    intro rest
    have body : literalChars key.toList ++ rest
        = '"' :: (key.toList.flatMap escapedChar ++ '"' :: rest) := by
      simp [literalChars]
    rw [body]
    exact reads_advance.bind ((reads_string long).bind (reads_pure _))
  cases isFirst with
  | true =>
      apply skipsBlanks_peekToken.bind.reads blank
      exact (reads_peekToken (c := '"') rfl).bind (key? rest)
  | false =>
      apply (reads_peekToken (c := ',') rfl).bind
      apply reads_advance.bind
      apply skipsBlanks_peekToken.bind.reads blank
      exact (reads_peekToken (c := '"') rfl).bind (key? rest)

/-- The keys end before the closing bracket, with or without white space between. -/
theorem reads_nextKey?_last (spacing : Spacing) :
    (nextKey? limit isFirst).Reads (spacing.beforeEnd ++ '\x7d' :: rest) none ('\x7d' :: rest) :=
  skipsBlanks_peekToken.bind.reads spacing.blankEnd reads_nextKey?_end

theorem reads_colon : colon.Reads (':' :: rest) () rest :=
  (reads_peekToken rfl).bind reads_advance

theorem reads_endObject : endObject.Reads ('\x7d' :: rest) () rest :=
  (reads_peekToken rfl).bind reads_advance

theorem memberChars_append (entry : String × Value) :
    Value.memberChars entry ++ tail
      = '"' :: (entry.1.toList.flatMap escapedChar ++ '"' :: ':' :: (entry.2.chars ++ tail)) := by
  simp [Value.memberChars, literalChars]

/-- The text of a member in front of further members. -/
theorem listed_memberTexts (spacing : Spacing) (member : WrittenMember)
    (others : List WrittenMember) :
    listed isFirst ((member :: others).map spacing.memberText) ++ tail
      = if isFirst then spacing.beforeKey ++ (literalChars member.key.toList ++ ':' ::
            (spacing.beforeValue
              ++ (member.text ++ (listed false (others.map spacing.memberText) ++ tail))))
        else ',' :: (spacing.beforeKey ++ (literalChars member.key.toList ++ ':' ::
            (spacing.beforeValue
              ++ (member.text ++ (listed false (others.map spacing.memberText) ++ tail))))) := by
  cases isFirst <;> simp [listed, Spacing.memberText]

theorem listed_spacedMembers (spacing : Spacing) (key : String) (value : Value)
    (others : List (String × Value)) :
    listed isFirst (((key, value) :: others).map spacing.memberChars) ++ tail
      = (if isFirst then spacing.beforeKey ++ (literalChars key.toList ++ ':' ::
            (spacing.beforeValue
              ++ (value.chars ++ (listed false (others.map spacing.memberChars) ++ tail))))
        else ',' :: (spacing.beforeKey ++ (literalChars key.toList ++ ':' ::
            (spacing.beforeValue
              ++ (value.chars ++ (listed false (others.map spacing.memberChars) ++ tail)))))) := by
  rw [← spacing.memberTexts_compact, ← spacing.memberTexts_compact, List.map_cons,
    listed_memberTexts]
  rfl

/-- Members are read if their values are, whatever the values are written as. -/
theorem reads_members {readOne : Reader Value} {textLimit : Nat} (spacing : Spacing)
    {written : List WrittenMember}
    (keys : ∀ member ∈ written, member.key.toList.length < textLimit)
    (reads : ∀ member ∈ written, ∀ rest, Delimited rest →
      readOne.Reads (spacing.beforeValue ++ (member.text ++ rest)) member.value rest)
    (long : written.length < limit) :
    (members textLimit readOne isFirst limit).Reads
      (listed isFirst (written.map spacing.memberText) ++ (spacing.beforeEnd ++ '\x7d' :: rest))
      (written.map WrittenMember.entry) ('\x7d' :: rest) := by
  induction written generalizing isFirst limit with
  | nil =>
      cases limit with
      | zero => cases long
      | succ limit => exact (reads_nextKey?_last spacing).bind (reads_pure [])
  | cons member others induction =>
      cases limit with
      | zero => cases long
      | succ limit =>
          have inOthers : ∀ {other}, other ∈ others → other ∈ member :: others :=
            List.mem_cons_of_mem _
          have isMember := List.mem_cons_self (a := member) (l := others)
          have ended : Delimited (spacing.beforeEnd ++ '\x7d' :: rest) :=
            (delimited_objectEnd rest).behind_blanks spacing.blankEnd
          rw [listed_memberTexts]
          apply (reads_nextKey?_behind spacing.blankKey (keys _ isMember)).bind
          apply reads_colon.bind
          apply (reads _ isMember _ (ended.listed _)).bind
          have later := @induction limit false
            (fun other isOther => keys other (inOthers isOther))
            (fun other isOther => reads other (inOthers isOther))
            (Nat.lt_of_succ_lt_succ long)
          exact later.bind (reads_pure _)

/-! ## Passing over -/

theorem reads_skipItems {skipOne : Reader Unit} {value : Value} {others : List Value}
    (skips : ∀ other ∈ value :: others, ∀ rest, Delimited rest →
      skipOne.Reads (other.chars ++ rest) () rest)
    (long : (value :: others).length ≤ limit) :
    (skipItems skipOne limit).Reads
      (value.chars ++ (listed false (others.map Value.chars) ++ ']' :: rest)) () rest := by
  induction limit generalizing value others with
  | zero => cases long
  | succ limit induction =>
      apply (skips value (List.mem_cons_self ..) _ ((delimited_listEnd rest).listed _)).bind
      cases others with
      | nil => exact (reads_peekToken rfl).bind reads_advance
      | cons next others =>
          have text : listed false ((next :: others).map Value.chars) ++ ']' :: rest
              = ',' :: (next.chars ++ (listed false (others.map Value.chars) ++ ']' :: rest)) := by
            simp [listed]
          rw [text]
          apply (reads_peekToken rfl).bind
          apply reads_advance.bind
          exact induction (fun other isOther => skips other (List.mem_cons_of_mem _ isOther))
            (Nat.le_of_succ_le_succ long)

theorem reads_skipMembers {skipOne : Reader Unit} {textLimit : Nat} {entry : String × Value}
    {others : List (String × Value)}
    (keys : ∀ other ∈ entry :: others, other.1.toList.length < textLimit)
    (skips : ∀ other ∈ entry :: others, ∀ rest, Delimited rest →
      skipOne.Reads (other.2.chars ++ rest) () rest)
    (long : (entry :: others).length ≤ limit) :
    (skipMembers textLimit skipOne limit).Reads
      (Value.memberChars entry ++ (listed false (others.map Value.memberChars) ++ '\x7d' :: rest))
      () rest := by
  induction limit generalizing entry others with
  | zero => cases long
  | succ limit induction =>
      rw [memberChars_append]
      apply (reads_peekToken rfl).bind
      apply reads_advance.bind
      apply (reads_skipString (keys entry (List.mem_cons_self ..))).bind
      apply (reads_peekToken rfl).bind
      apply reads_advance.bind
      apply (skips entry (List.mem_cons_self ..) _ ((delimited_objectEnd rest).listed _)).bind
      cases others with
      | nil => exact (reads_peekToken rfl).bind reads_advance
      | cons next others =>
          have text : listed false ((next :: others).map Value.memberChars) ++ '\x7d' :: rest
              = ',' :: (Value.memberChars next
                ++ (listed false (others.map Value.memberChars) ++ '\x7d' :: rest)) := by
            simp [listed]
          rw [text]
          apply (reads_peekToken rfl).bind
          apply reads_advance.bind
          exact induction (fun other isOther => keys other (List.mem_cons_of_mem _ isOther))
            (fun other isOther => skips other (List.mem_cons_of_mem _ isOther))
            (Nat.le_of_succ_le_succ long)

end SchemaScaffold.Json.Reader
