import SchemaScaffold.Json.Shape.OfText
import SchemaScaffold.Proofs.Json.Contents

/-! What reading can give, whatever the text is: the integers fit, the members of
every object are in order, and no more brackets are nested than were allowed to
be open. -/

namespace SchemaScaffold.Json

namespace Reader

/-- Whatever is read satisfies `holds`. -/
def Yields (reader : Reader α) (holds : α → Prop) : Prop :=
  ∀ cursor value cursor', reader cursor = .ok (value, cursor') → holds value

variable {α β : Type} {reader : Reader α} {next : α → Reader β} {first : α → Prop}
  {holds : β → Prop}

/-! ## Sequences -/

theorem Yields.bind (before : reader.Yields first)
    (after : ∀ value, first value → (next value).Yields holds) :
    (reader >>= next).Yields holds := by
  intro cursor result cursor'' read
  change (reader cursor >>= fun pair => next pair.1 pair.2) = _ at read
  cases outcome : reader cursor with
  | error fault =>
      rw [outcome] at read
      cases read
  | ok pair =>
      rw [outcome] at read
      exact after pair.1 (before cursor pair.1 pair.2 outcome) pair.2 result cursor'' read

/-- Only the last part of a sequence decides what is read. -/
theorem yields_bind (after : ∀ value, (next value).Yields holds) :
    (reader >>= next).Yields holds :=
  have anything : reader.Yields fun _ => True := fun _ _ _ _ => trivial
  anything.bind fun value _ => after value

/-- A first step that may be left out. -/
theorem yields_perhaps {condition : Prop} [Decidable condition] {step : Reader Unit}
    {next : Unit → Reader β} (after : (next ()).Yields holds) :
    (if condition then step >>= next else next ()).Yields holds := by
  split
  · exact yields_bind fun _ => after
  · exact after

theorem yields_pure {value : α} (satisfied : first value) : Yields (pure value) first := by
  intro cursor result cursor' read
  cases read
  exact satisfied

theorem yields_fail (reason : Reason) : (fail reason : Reader α).Yields first :=
  fun _ _ _ read => nomatch read

theorem yields_failAhead (reason : Reason) : (failAhead reason : Reader α).Yields first :=
  fun _ _ _ read => nomatch read

end Reader

/-! ## Numbers -/

/-- An integer that fits, or any float. -/
def Number.IsRead : Number → Prop
  | .integer value => Value.IsStoredInteger value
  | .float _ => True

namespace Reader

theorem appendFitting_lt {number : Nat} (fits : number < Nat.pow 2 64) (run : List Nat) :
    (appendFitting number run).1 < Nat.pow 2 64 := by
  induction run generalizing number with
  | nil => exact fits
  | cons digit rest induction =>
      rw [appendFitting]
      split
      · next stillFits => exact induction stillFits
      · exact fits

theorem isRead_integerNumber (negative : Bool) {value : Nat} (fits : value < Nat.pow 2 64) :
    (integerNumber negative value).IsRead := by
  have fits' : (value : Int) < 18446744073709551616 := Int.ofNat_lt.mpr fits
  rw [integerNumber]
  split
  · split
    · trivial
    · next inRange =>
        have bounded : ¬ 9223372036854775808 < value := fun greater => inRange (.inr greater)
        change -9223372036854775808 ≤ -(value : Int) ∧ -(value : Int) < 18446744073709551616
        omega
  · change -9223372036854775808 ≤ (value : Int) ∧ (value : Int) < 18446744073709551616
    omega

theorem yields_finish (negative : Bool) (significand : Nat) (exponent : Int) :
    (finish negative significand exponent).Yields Number.IsRead := by
  rw [finish]
  split
  · exact yields_pure trivial
  · exact yields_fail _

theorem yields_exponentPart (negative : Bool) (significand : Nat) (exponent : Int) :
    (exponentPart negative significand exponent).Yields Number.IsRead := by
  refine yields_bind fun sign => yields_perhaps ?_
  refine yields_bind fun start => yields_bind fun next => ?_
  split
  · exact yields_fail _
  · split
    · exact yields_failAhead _
    · refine yields_bind fun run => ?_
      split
      · dsimp only
        split
        · exact fun _ _ _ read => nomatch read
        · exact yields_pure trivial
      · exact yields_finish _ _ _

theorem yields_afterFraction (negative : Bool) (significand : Nat) (exponent : Int) :
    (afterFraction negative significand exponent).Yields Number.IsRead := by
  refine yields_bind fun next => ?_
  split
  · exact yields_bind fun _ => yields_exponentPart _ _ _
  · exact yields_bind fun _ => yields_exponentPart _ _ _
  · exact yields_finish _ _ _

theorem yields_fractionPart (negative : Bool) (significand : Nat) (exponent : Int) :
    (fractionPart negative significand exponent).Yields Number.IsRead := by
  refine yields_bind fun run => ?_
  split
  · refine yields_bind fun next => ?_
    split
    · exact yields_fail _
    · exact yields_failAhead _
  · exact yields_afterFraction _ _ _

theorem yields_afterInteger (negative : Bool) {significand : Nat}
    (fits : significand < Nat.pow 2 64) (left : List Nat) :
    (afterInteger negative significand left).Yields Number.IsRead := by
  refine yields_bind fun next => ?_
  split
  · exact yields_bind fun _ => yields_fractionPart _ _ _
  · exact yields_bind fun _ => yields_exponentPart _ _ _
  · exact yields_bind fun _ => yields_exponentPart _ _ _
  · split
    · exact yields_pure (isRead_integerNumber negative fits)
    · exact yields_finish _ _ _

theorem yields_number (negative : Bool) : (number negative).Yields Number.IsRead := by
  have zeroFits : 0 < Nat.pow 2 64 := by decide
  refine yields_bind fun next => ?_
  split
  · exact yields_fail _
  · refine yields_bind fun _ => yields_bind fun next => ?_
    split
    · split
      · exact yields_failAhead _
      · exact yields_afterInteger negative zeroFits []
    · exact yields_afterInteger negative zeroFits []
  · split
    · exact yields_bind fun run => yields_afterInteger negative (appendFitting_lt zeroFits run) _
    · exact yields_failAhead _

end Reader

/-! ## Members in order -/

theorem mem_insertMember {key : String} {value : Value} {entry : String × Value}
    {members : List (String × Value)} (isEntry : entry ∈ insertMember key value members) :
    entry = (key, value) ∨ entry ∈ members := by
  induction members with
  | nil => exact .inl (List.mem_singleton.mp isEntry)
  | cons head rest induction =>
      rcases head with ⟨other, current⟩
      rw [insertMember] at isEntry
      split at isEntry
      · exact List.mem_cons.mp isEntry
      · split at isEntry
        · rcases List.mem_cons.mp isEntry with equal | later
          · exact .inl equal
          · exact .inr (List.mem_cons_of_mem _ later)
        · rcases List.mem_cons.mp isEntry with equal | later
          · exact .inr (List.mem_cons.mpr (.inl equal))
          · exact (induction later).imp_right (List.mem_cons_of_mem _)

theorem ordered_insertMember {key : String} {value : Value} {members : List (String × Value)}
    (ordered : (members.map Prod.fst).Pairwise (· < ·)) :
    ((insertMember key value members).map Prod.fst).Pairwise (· < ·) := by
  induction members with
  | nil => exact List.pairwise_singleton _ _
  | cons head rest induction =>
      rcases head with ⟨other, current⟩
      rcases List.pairwise_cons.mp ordered with ⟨least, orderedRest⟩
      rw [insertMember]
      split
      · next smaller =>
          refine List.pairwise_cons.mpr ⟨fun greater isGreater => ?_, ordered⟩
          rcases List.mem_cons.mp isGreater with rfl | later
          · exact smaller
          · exact String.lt_trans smaller (least greater later)
      · next notSmaller =>
          split
          · next equal =>
              rw [equal]
              exact ordered
          · next different =>
              refine List.pairwise_cons.mpr ⟨fun greater isGreater => ?_, induction orderedRest⟩
              rcases List.mem_map.mp isGreater with ⟨entry, isEntry, rfl⟩
              rcases mem_insertMember isEntry with rfl | inRest
              · exact Decidable.byContradiction fun notGreater => different
                  (String.le_antisymm (String.not_lt.mp notGreater) (String.not_lt.mp notSmaller))
              · exact least entry.1 (List.mem_map_of_mem inRest)

private theorem sorts_foldl (members : List (String × Value)) {sorted : List (String × Value)}
    (ordered : (sorted.map Prod.fst).Pairwise (· < ·)) :
    let result := members.foldl (fun sorted (key, value) => insertMember key value sorted) sorted
    (result.map Prod.fst).Pairwise (· < ·) ∧
      ∀ entry ∈ result, entry ∈ sorted ∨ entry ∈ members := by
  induction members generalizing sorted with
  | nil => exact ⟨ordered, fun _ isEntry => .inl isEntry⟩
  | cons head rest induction =>
      rcases head with ⟨key, value⟩
      have later := @induction (insertMember key value sorted) (ordered_insertMember ordered)
      refine ⟨later.1, fun entry isEntry => ?_⟩
      rcases later.2 entry isEntry with inserted | inRest
      · rcases mem_insertMember inserted with rfl | before
        · exact .inr (List.mem_cons_self ..)
        · exact .inl before
      · exact .inr (List.mem_cons_of_mem _ inRest)

theorem ordered_sortMembers (members : List (String × Value)) :
    ((sortMembers members).map Prod.fst).Pairwise (· < ·) :=
  (sorts_foldl members List.Pairwise.nil).1

theorem mem_of_mem_sortMembers {members : List (String × Value)} {entry : String × Value}
    (isEntry : entry ∈ sortMembers members) : entry ∈ members := by
  rcases (sorts_foldl members List.Pairwise.nil).2 entry isEntry with none | isMember
  · cases none
  · exact isMember

/-! ## Values -/

namespace Value

def HasReadNumber : Value → Prop
  | .number read => read.IsRead
  | _ => True

/-- The members of an object are in order, and an integer fits. -/
def IsReadHere (value : Value) : Prop := value.keys.Pairwise (· < ·) ∧ value.HasReadNumber

/-- A value as reading gives it with so many brackets left to be opened. -/
def IsRead (depth : Nat) : Value → Prop := Bounded IsReadHere depth

theorem isRead_scalar {depth : Nat} {value : Value}
    (leaf : value.children = [] ∧ value.keys = [] ∧ value.nesting = 0)
    (fits : value.HasReadNumber) : value.IsRead depth :=
  .scalar leaf.1 leaf.2.2 ⟨by simp [leaf.2.1], fits⟩

theorem IsRead.sorted {depth : Nat} {value : Value} (isRead : value.IsRead depth) :
    value.Sorted :=
  isRead.everywhere.mono fun _ here => here.1

end Value

namespace Reader

variable {α : Type} {readOne : Reader α} {holds : α → Prop} {limit depth : Nat}

theorem yields_items (inside : readOne.Yields holds) (isFirst : Bool) (limit : Nat) :
    (items readOne isFirst limit).Yields fun values => ∀ value ∈ values, holds value := by
  induction limit generalizing isFirst with
  | zero => exact yields_fail _
  | succ limit induction =>
      refine yields_bind fun more => ?_
      split
      · refine inside.bind fun head holdsHead => (induction false).bind fun tail holdsTail => ?_
        exact yields_pure (List.forall_mem_cons.mpr ⟨holdsHead, holdsTail⟩)
      · exact yields_pure (List.forall_mem_nil _)

theorem yields_members (inside : readOne.Yields holds) (textLimit : Nat) (isFirst : Bool)
    (limit : Nat) :
    (members textLimit readOne isFirst limit).Yields fun entries =>
      ∀ entry ∈ entries, holds entry.2 := by
  induction limit generalizing isFirst with
  | zero => exact yields_fail _
  | succ limit induction =>
      refine yields_bind fun key? => ?_
      split
      · exact yields_pure (List.forall_mem_nil _)
      · refine yields_bind fun _ => inside.bind fun value holdsValue =>
          (induction false).bind fun rest holdsRest => ?_
        exact yields_pure (List.forall_mem_cons.mpr ⟨holdsValue, holdsRest⟩)

/-- Nothing is read inside brackets that may not be opened. -/
theorem yields_nested {inner : Option (Reader α)}
    (inside : ∀ readOne ∈ inner, readOne.Yields holds) : (nested inner).Yields holds := by
  cases inner with
  | none => exact yields_failAhead _
  | some readOne => exact yields_bind fun _ => inside readOne rfl

theorem yields_valueWith {inner : Option (Reader Value)}
    (inside : ∀ readOne ∈ inner, ∃ below, depth = below + 1 ∧
      readOne.Yields (Value.IsRead below)) :
    (valueWith limit inner).Yields (Value.IsRead depth) := by
  refine yields_bind fun next => ?_
  split
  · exact yields_failAhead _
  · exact yields_bind fun _ => yields_bind fun _ =>
      yields_pure (Value.isRead_scalar ⟨rfl, rfl, rfl⟩ trivial)
  · exact yields_bind fun _ => yields_bind fun _ =>
      yields_pure (Value.isRead_scalar ⟨rfl, rfl, rfl⟩ trivial)
  · exact yields_bind fun _ => yields_bind fun _ =>
      yields_pure (Value.isRead_scalar ⟨rfl, rfl, rfl⟩ trivial)
  · exact yields_bind fun _ => (yields_number true).bind fun number isRead =>
      yields_pure (Value.isRead_scalar ⟨rfl, rfl, rfl⟩ isRead)
  · exact yields_bind fun _ => yields_bind fun _ =>
      yields_pure (Value.isRead_scalar ⟨rfl, rfl, rfl⟩ trivial)
  · refine yields_nested fun readAll isMapped => ?_
    rcases Option.map_eq_some_iff.mp isMapped with ⟨readOne, isInner, rfl⟩
    rcases inside readOne isInner with ⟨below, rfl, yields⟩
    exact (yields_items yields true limit).bind fun items areRead =>
      yields_bind fun _ => yields_pure (.array ⟨.nil, trivial⟩ areRead)
  · refine yields_nested fun readAll isMapped => ?_
    rcases Option.map_eq_some_iff.mp isMapped with ⟨readOne, isInner, rfl⟩
    rcases inside readOne isInner with ⟨below, rfl, yields⟩
    refine (yields_members yields limit true limit).bind fun entries areRead =>
      yields_bind fun _ => yields_pure (.object ⟨ordered_sortMembers entries, trivial⟩ ?_)
    exact fun entry isEntry => areRead entry (mem_of_mem_sortMembers isEntry)
  · split
    · exact (yields_number false).bind fun number isRead =>
        yields_pure (Value.isRead_scalar ⟨rfl, rfl, rfl⟩ isRead)
    · exact yields_failAhead _

theorem yields_value (limit depth : Nat) : (value limit depth).Yields (Value.IsRead depth) := by
  induction depth with
  | zero => exact yields_valueWith fun _ isInner => nomatch isInner
  | succ depth induction =>
      refine yields_valueWith fun readOne isInner => ⟨depth, rfl, ?_⟩
      rw [← Option.some.inj isInner]
      exact induction

/-! ## Null -/

end Reader

/-- The next character that is no white space. -/
def Cursor.token? (cursor : Cursor) : Option Char := cursor.skipBlanks.rest.head?

theorem Cursor.dropBlanks_dropBlanks (text : List Char) (consumed : Nat) :
    dropBlanks (dropBlanks text consumed).rest (dropBlanks text consumed).consumed
      = dropBlanks text consumed := by
  induction text generalizing consumed with
  | nil => rfl
  | cons c rest induction =>
      rw [dropBlanks]
      split
      · exact induction _
      · next notBlank => rw [dropBlanks, if_neg notBlank]

theorem Cursor.token?_skipBlanks (cursor : Cursor) : cursor.skipBlanks.token? = cursor.token? :=
  congrArg (fun skipped : Cursor => skipped.rest.head?)
    (dropBlanks_dropBlanks cursor.rest cursor.consumed)

namespace Reader

variable {α β : Type}

/-- What is read fits the character that it starts with. -/
def YieldsAt (reader : Reader α) (holds : Option Char → α → Prop) : Prop :=
  ∀ cursor value cursor', reader cursor = .ok (value, cursor') → holds cursor.token? value

theorem YieldsAt.bind {reader : Reader α} {next : α → Reader β} {first : Option Char → α → Prop}
    {holds : Option Char → β → Prop} (before : reader.YieldsAt first)
    (after : ∀ token value, first token value → (next value).Yields (holds token)) :
    (reader >>= next).YieldsAt holds := by
  intro cursor result cursor'' read
  change (reader cursor >>= fun pair => next pair.1 pair.2) = _ at read
  cases outcome : reader cursor with
  | error fault =>
      rw [outcome] at read
      cases read
  | ok pair =>
      rw [outcome] at read
      exact after _ _ (before cursor pair.1 pair.2 outcome) pair.2 result cursor'' read

theorem Yields.and {reader : Reader α} {holds : α → Prop} {holdsAt : Option Char → α → Prop}
    (yields : reader.Yields holds) (yieldsAt : reader.YieldsAt holdsAt) :
    reader.YieldsAt fun token value => holds value ∧ holdsAt token value :=
  fun cursor value cursor' read =>
    ⟨yields cursor value cursor' read, yieldsAt cursor value cursor' read⟩

theorem yieldsAt_bind_peekToken {next : Option Char → Reader β} {holds : Option Char → β → Prop}
    (after : ∀ token, (next token).Yields (holds token)) :
    (peekToken >>= next).YieldsAt holds :=
  fun cursor value cursor' read => after cursor.token? cursor.skipBlanks value cursor' read

theorem yields_bind_peekToken {next : Option Char → Reader β} {holds : β → Prop}
    (after : ∀ token, (next token).YieldsAt fun found value => found = token → holds value) :
    (peekToken >>= next).Yields holds :=
  fun cursor value cursor' read =>
    after cursor.token? cursor.skipBlanks value cursor' read cursor.token?_skipBlanks

theorem yieldsAt_valueWith (limit : Nat) (inner : Option (Reader Value)) :
    (valueWith limit inner).YieldsAt fun token value => value = .null → token = some 'n' := by
  refine yieldsAt_bind_peekToken fun token => ?_
  split
  · exact yields_failAhead _
  · exact yields_bind fun _ => yields_bind fun _ => yields_pure fun _ => rfl
  · exact yields_bind fun _ => yields_bind fun _ => yields_pure nofun
  · exact yields_bind fun _ => yields_bind fun _ => yields_pure nofun
  · exact yields_bind fun _ => yields_bind fun _ => yields_pure nofun
  · exact yields_bind fun _ => yields_bind fun _ => yields_pure nofun
  · refine yields_nested fun readAll isMapped => ?_
    rcases Option.map_eq_some_iff.mp isMapped with ⟨readOne, _, rfl⟩
    exact yields_bind fun _ => yields_bind fun _ => yields_pure nofun
  · refine yields_nested fun readAll isMapped => ?_
    rcases Option.map_eq_some_iff.mp isMapped with ⟨readOne, _, rfl⟩
    exact yields_bind fun _ => yields_bind fun _ => yields_pure nofun
  · split
    · exact yields_bind fun _ => yields_pure nofun
    · exact yields_failAhead _

/-- A null is taken by the option, so what is inside an option is not null. -/
theorem yields_nullable {readOne : Reader α} {holds isNull : α → Prop}
    (yields : readOne.Yields holds)
    (atNull : readOne.YieldsAt fun token value => isNull value → token = some 'n') :
    (nullable readOne).Yields fun contents =>
      ∀ value ∈ contents, holds value ∧ ¬ isNull value := by
  refine yields_bind_peekToken fun token => ?_
  split
  · have isNone : Yields (do
        advance
        word ['u', 'l', 'l']
        pure none : Reader (Option α)) (· = none) :=
      yields_bind fun _ => yields_bind fun _ => yields_pure rfl
    intro cursor contents cursor' read _ value isInside
    rw [isNone cursor contents cursor' read] at isInside
    cases isInside
  · next notNull =>
      refine (yields.and atNull).bind fun found value both => yields_pure ?_
      intro sameToken _ isSome
      rw [← Option.some.inj isSome]
      exact ⟨both.1, fun isNull => notNull (sameToken ▸ both.2 isNull)⟩

end Reader

end SchemaScaffold.Json
