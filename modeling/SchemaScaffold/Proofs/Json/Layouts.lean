import SchemaScaffold.Proofs.Json.Results
import SchemaScaffold.Proofs.Json.Values
import Mathlib.Data.List.Induction

/-! Objects that are laid out in any way: what matters is that each value's text is
read, white space may stand around the parts. What is read is told by what each key
has, as of several members with one key the last one wins. -/

namespace SchemaScaffold.Json

/-! ## Texts that stand for themselves -/

/-- Nothing in the text has to be escaped between quotes. -/
def IsVerbatim (text : String) : Prop :=
  ∀ c ∈ text.toList, c ≠ '"' ∧ c ≠ '\\' ∧ 0x20 ≤ c.toNat

instance (text : String) : Decidable (IsVerbatim text) :=
  decidable_of_iff
    (text.toList.all fun c => decide (c ≠ '"' ∧ c ≠ '\\' ∧ 0x20 ≤ c.toNat))
    (by simp [IsVerbatim])

theorem escapedChar_of_verbatim {c : Char} (notQuote : c ≠ '"') (notEscape : c ≠ '\\')
    (printed : 0x20 ≤ c.toNat) : escapedChar c = [c] := by
  have short {other : Char} (control : other.toNat < 0x20) : c ≠ other :=
    fun same => Nat.not_lt.mpr printed (same ▸ control)
  simp [escapedChar, notQuote, notEscape, Nat.not_lt.mpr printed, @short '\x08', @short '\x0c',
    @short '\n', @short '\r', @short '\t']

theorem literalChars_of_verbatim {text : String} (verbatim : IsVerbatim text) :
    literalChars text.toList = '"' :: (text.toList ++ ['"']) := by
  have kept : ∀ c ∈ text.toList, escapedChar c = [c] := fun c isChar =>
    escapedChar_of_verbatim (verbatim c isChar).1 (verbatim c isChar).2.1 (verbatim c isChar).2.2
  rw [literalChars, List.flatMap_def, List.map_congr_left kept, ← List.flatMap_def,
    List.flatMap_singleton']
  rfl

theorem chars_string_of_verbatim {text : String} (verbatim : IsVerbatim text) :
    (Value.string text).chars = '"' :: (text.toList ++ ['"']) := by
  rw [← literalChars_of_verbatim verbatim, Value.chars, Value.compact, stringLiteral,
    String.toList_ofList]

/-! ## Written values -/

namespace Value

/-- The text is read as the value, however much may follow it. -/
def WrittenAs (depth : Nat) (value : Value) (text : List Char) : Prop :=
  ∀ (limit : Nat) (rest : List Char), text.length < limit → Delimited rest →
    (Reader.value limit depth).Reads (text ++ rest) value rest

theorem skipsBlanks_value (limit depth : Nat) : (Reader.value limit depth).SkipsBlanks := by
  cases depth <;> exact Reader.skipsBlanks_peekToken.bind

theorem writtenAs_chars {depth : Nat} {value : Value} (sorted : value.Sorted)
    (integral : value.Integral) (shallow : value.nesting ≤ depth) :
    WrittenAs depth value value.chars :=
  fun _ _ long delimited => Reader.reads_value sorted integral shallow long delimited

theorem writtenAs_string (depth : Nat) (text : String) :
    WrittenAs depth (.string text) (chars (.string text)) :=
  writtenAs_chars (Everywhere.string_iff.mpr .nil) (Everywhere.string_iff.mpr trivial)
    (Nat.zero_le depth)

theorem writtenAs_compact (depth : Nat) (key text : String) :
    (WrittenMember.compact (key, .string text)).value.WrittenAs depth
      (WrittenMember.compact (key, .string text)).text := by
  simp only [WrittenMember.compact]
  exact writtenAs_string depth text

end Value

namespace Spacing

/-- The text of an object. -/
def objectText (spacing : Spacing) (members : List WrittenMember) : List Char :=
  '\x7b' :: (listed true (members.map spacing.memberText) ++ (spacing.beforeEnd ++ ['\x7d']))

variable {members : List WrittenMember}

theorem length_objectText (spacing : Spacing) (members : List WrittenMember) :
    (listed true (members.map spacing.memberText)).length
      < (spacing.objectText members).length := by
  simp only [objectText, List.length_cons, List.length_append]
  omega

/-- An object is written by the texts of its members' values. -/
theorem writtenAs_objectText (spacing : Spacing) {depth : Nat}
    (each : ∀ member ∈ members, member.value.WrittenAs depth member.text) :
    (Value.ofMembers (members.map WrittenMember.entry)).WrittenAs (depth + 1)
      (spacing.objectText members) := by
  intro limit rest long delimited
  have longer := spacing.length_objectText members
  have keys : ∀ member ∈ members, member.key.toList.length < limit := by
    intro member isMember
    have shorter := spacing.length_member_lt isMember
    omega
  have values : ∀ member ∈ members, ∀ rest, Delimited rest →
      (Reader.value limit depth).Reads (spacing.beforeValue ++ (member.text ++ rest))
        member.value rest := by
    intro member isMember rest delimited
    have shorter := spacing.length_member_lt isMember
    exact (Value.skipsBlanks_value limit depth).reads spacing.blankValue
      (each member isMember limit rest (by omega) delimited)
  have count := spacing.count_members_le members
  rw [objectText, List.cons_append, List.append_assoc, List.append_assoc]
  apply (Reader.reads_peekToken (c := '\x7b') rfl).bind
  apply Reader.reads_advance.bind
  apply (Reader.reads_members spacing keys values (by omega)).bind
  exact Reader.reads_endObject.bind (Reader.reads_pure _)

end Spacing

/-- White space may stand behind the value of a whole text. -/
theorem Value.ofText_of_writtenAs {value : Value} {text : String} {front gap : List Char}
    (written : value.WrittenAs Reader.deepest front) (blank : Reader.IsBlankText gap)
    (equal : text.toList = front ++ gap) : Value.ofText text = .ok value := by
  have delimited : Delimited gap := by
    rw [← List.append_nil gap]
    exact delimited_nil.behind_blanks blank
  apply Reader.run_of_reads_blank blank
  rw [equal]
  exact written _ gap (by rw [List.length_append]; omega) delimited

/-! ## Repeated keys -/

/-- The last of what is listed for a key. -/
def lastFor? (key : String) (entries : List (String × α)) : Option α :=
  (entries.filter fun entry => entry.1 == key).getLast?.map Prod.snd

theorem lastFor?_concat (key other : String) (value : α) (entries : List (String × α)) :
    lastFor? key (entries ++ [(other, value)])
      = if other = key then some value else lastFor? key entries := by
  rw [lastFor?, List.filter_append]
  by_cases same : other = key <;> simp [same, lastFor?]

namespace Value

theorem member?_cons (key other : String) (value : Value) (rest : List (String × Value)) :
    member? (.object ((other, value) :: rest)) key
      = if other = key then some value else member? (.object rest) key := by
  by_cases same : other = key <;> simp [member?, same]

/-- What is put in its place is found there, and everything else is where it was. -/
theorem member?_insertMember (key other : String) (value : Value)
    (members : List (String × Value)) :
    member? (.object (insertMember other value members)) key
      = if other = key then some value else member? (.object members) key := by
  induction members with
  | nil => exact member?_cons key other value []
  | cons head rest induction =>
      rcases head with ⟨current, held⟩
      rw [insertMember]
      split
      · rw [member?_cons]
      · split
        · next same =>
            rw [member?_cons, member?_cons, same]
            split <;> rfl
        · next different =>
            rw [member?_cons, induction, member?_cons]
            by_cases isKey : current = key
            · rw [if_pos isKey, if_pos isKey, if_neg fun same => different (same.trans isKey.symm)]
            · rw [if_neg isKey, if_neg isKey]

theorem member?_ofMembers (key : String) (entries : List (String × Value)) :
    (ofMembers entries).member? key = lastFor? key entries := by
  induction entries using List.reverseRecOn with
  | nil => rfl
  | append_singleton entries entry induction =>
      have inserted : ofMembers (entries ++ [entry])
          = .object (insertMember entry.1 entry.2 (sortMembers entries)) := by
        rw [ofMembers, sortMembers, List.foldl_append]
        rfl
      rw [inserted, member?_insertMember, lastFor?_concat, ← induction, ofMembers]

/-- An object with what is listed for each key, and nothing else. -/
structure IsObjectOf (value : Value) (entries : List (String × Value)) : Prop where
  /-- Each key has one place. -/
  isObject : ∃ members, value = .object members ∧ (members.map Prod.fst).Pairwise (· < ·)
  member?_eq : ∀ key, value.member? key = lastFor? key entries

theorem isObjectOf_ofMembers (entries : List (String × Value)) :
    (ofMembers entries).IsObjectOf entries where
  isObject := ⟨_, rfl, ordered_sortMembers entries⟩
  member?_eq key := member?_ofMembers key entries

end Value

end SchemaScaffold.Json
