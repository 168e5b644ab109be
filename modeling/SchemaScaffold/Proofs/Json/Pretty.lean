import SchemaScaffold.Proofs.Json.Agreement

/-! Records of scalars in the pretty form, which has a line for every member.
Reading agrees with converting here too, and a choice may be among the members,
as a scalar writes it by its name only. -/

namespace SchemaScaffold.Json

namespace Value

/-- A value without brackets. -/
def IsScalar : Value → Prop
  | .array _ => False
  | .object _ => False
  | _ => True

variable {value : Value} {entry : String × Value} {entries : List (String × Value)}

theorem IsScalar.prettyAt (scalar : value.IsScalar) (level : Nat) :
    value.prettyAt level = value.compact := by
  cases value with
  | bool value => cases value <;> rw [Value.prettyAt, compact]
  | array items => cases scalar
  | object members => cases scalar
  | _ => rw [Value.prettyAt, compact]

theorem IsScalar.everywhere {holds : Value → Prop} (scalar : value.IsScalar)
    (here : holds value) : Everywhere holds value := by
  refine .intro here fun child inside => ?_
  cases value with
  | array items => cases scalar
  | object members => cases scalar
  | _ => cases inside

theorem IsScalar.keys_eq (scalar : value.IsScalar) : value.keys = [] := by
  cases value with
  | object members => cases scalar
  | _ => rfl

theorem IsScalar.nesting_eq (scalar : value.IsScalar) : value.nesting = 0 := by
  cases value with
  | array items => cases scalar
  | object members => cases scalar
  | _ => rfl

theorem IsScalar.sorted (scalar : value.IsScalar) : value.Sorted :=
  scalar.everywhere (by simp [scalar.keys_eq])

theorem IsScalar.readable {limit depth : Nat} (scalar : value.IsScalar)
    (stored : value.HasStoredNumber) (long : value.chars.length < limit) :
    value.Readable limit depth where
  distinct := scalar.sorted.distinct
  integral := scalar.everywhere stored
  shallow := scalar.nesting_eq ▸ Nat.zero_le depth
  long := long

end Value

/-! ## Lines -/

/-- A line of its own for every member, one level in. -/
def Spacing.lines : Spacing where
  beforeKey := ['\n', ' ', ' ']
  beforeValue := [' ']
  beforeEnd := ['\n']
  blankKey := by simp [Reader.IsBlankText, Cursor.isBlank]
  blankValue := by simp [Reader.IsBlankText, Cursor.isBlank]
  blankEnd := by simp [Reader.IsBlankText, Cursor.isBlank]

theorem toList_prettyMembers {entries : List (String × Value)}
    (scalars : ∀ entry ∈ entries, entry.2.IsScalar) :
    (prettyMembers 1 entries).toList = listed false (entries.map Spacing.lines.memberChars) := by
  induction entries with
  | nil => rfl
  | cons entry others induction =>
      have indented : (indentation 1).toList = [' ', ' '] := rfl
      have inOthers := induction fun other isOther =>
        scalars other (List.mem_cons_of_mem _ isOther)
      rw [prettyMembers, (scalars entry (List.mem_cons_self ..)).prettyAt]
      simp [indented, inOthers, listed, Spacing.memberChars, Spacing.lines, stringLiteral,
        Value.chars]

theorem toList_pretty {entry : String × Value} {others : List (String × Value)}
    (scalars : ∀ member ∈ entry :: others, member.2.IsScalar) :
    (Value.object (entry :: others)).pretty.toList
      = '\x7b' :: (listed true ((entry :: others).map Spacing.lines.memberChars)
        ++ (Spacing.lines.beforeEnd ++ ['\x7d'])) := by
  have indented : (indentation 1).toList = [' ', ' '] := rfl
  have atStart : indentation 0 = "" := rfl
  have inOthers := toList_prettyMembers fun other isOther =>
    scalars other (List.mem_cons_of_mem _ isOther)
  rw [Value.pretty, Value.prettyAt, (scalars entry (List.mem_cons_self ..)).prettyAt]
  simp [indented, atStart, inOthers, listed, Spacing.memberChars, Spacing.lines, stringLiteral,
    Value.chars]

/-! ## Choices -/

namespace Reader

open Value

theorem answers_choice {value : Value} {limit depth : Nat} {rest : List Char}
    {names : List String} (scalar : value.IsScalar) (readable : value.Readable limit depth) :
    (Reader.choice limit depth names).Answers (value.chars ++ rest) rest
      ((Shape.choice names).ofValue value).toOption := by
  rcases chars_opensWith readable.integral.here with ⟨first, others, equal, opens⟩
  cases value with
  | string text =>
      have long := Nat.lt_trans (length_text_lt text) readable.long
      rw [chars_string, List.cons_append, List.append_assoc, Shape.ofValue]
      apply Reads.bind_answers (reads_peekToken (c := '"') rfl)
      apply reads_advance.bind_answers
      apply (reads_string long).bind_answers
      rw [oneOf]
      cases names.contains text with
      | true => exact reads_pure text
      | false => exact refuses_fail _
  | array items => cases scalar
  | object members => cases scalar
  | _ =>
      have notQuote : first ≠ '"' := opens.ne (by simp [OpensWith, isDigit])
      have notObject : first ≠ '\x7b' := opens.ne (by simp [OpensWith, isDigit])
      rw [equal, Shape.ofValue]
      · apply Reads.bind_refuses (reads_peekToken opens.startsItem.1)
        simp only
        exact refuses_failAhead _
      · simp

end Reader

/-- No choice is inside the shape, though it may be one. -/
def Shape.HasNoInnerChoice : Shape → Prop
  | .choice _ => True
  | shape => shape.HasNoChoice

theorem Shape.agrees_of_scalar {limit depth : Nat} {value : Value} (scalar : value.IsScalar)
    (readable : value.Readable limit depth) {shape : Shape} (plain : shape.HasNoInnerChoice) :
    shape.Agrees limit depth value := by
  intro rest delimited
  cases shape with
  | choice names => exact Reader.answers_choice scalar readable
  | _ => exact answers_read _ plain readable (takesSorted_of_sorted _ scalar.sorted) delimited

theorem Members.All.mono {holds weaker : Shape → Prop}
    (implies : ∀ shape, holds shape → weaker shape) :
    {members : Members} → members.All holds → members.All weaker
  | .nil, _ => trivial
  | .required _ shape _, all => ⟨implies shape all.1, all.2.mono implies⟩
  | .optional _ shape _, all => ⟨implies shape all.1, all.2.mono implies⟩

/-- The lines of a record of scalars carry what the scalars carry. -/
theorem Shape.ofText_pretty {name : String} {members : Members} {entry : String × Value}
    {others : List (String × Value)} (plain : members.All HasNoInnerChoice)
    (scalars : ∀ member ∈ entry :: others, member.2.IsScalar)
    (stored : ∀ member ∈ entry :: others, member.2.HasStoredNumber)
    (distinct : ((entry :: others).map Prod.fst).Nodup) :
    ((Shape.record name members).ofText (Value.object (entry :: others)).pretty).toOption
      = ((Shape.record name members).ofValue (.object (entry :: others))).toOption := by
  apply toOption_ofText
  have longer : (listed true ((entry :: others).map Spacing.lines.memberChars)).length
      < (Value.object (entry :: others)).pretty.toList.length + 1 := by
    rw [toList_pretty scalars, List.length_cons, List.length_append]
    omega
  have short : ∀ member ∈ entry :: others, member.1.toList.length + member.2.chars.length
      < (Value.object (entry :: others)).pretty.toList.length + 1 :=
    fun _ isMember => Nat.lt_trans (Spacing.lines.length_entry_lt isMember) longer
  have enough : (entry :: others).length
      < (Value.object (entry :: others)).pretty.toList.length + 1 :=
    Nat.lt_of_le_of_lt (Spacing.lines.count_entries_le _) longer
  rw [toList_pretty scalars] at short enough ⊢
  apply answers_object Spacing.lines
  · intro member isMember
    have scalar := scalars member isMember
    have long := Nat.lt_of_le_of_lt (Nat.le_add_left _ _) (short member isMember)
    exact plain.mono fun shape =>
      agrees_of_scalar scalar (scalar.readable (stored member isMember) long)
  · exact distinct
  · exact fun member isMember => (scalars member isMember).everywhere (stored member isMember)
  · exact short
  · exact enough

end SchemaScaffold.Json
