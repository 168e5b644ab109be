import SchemaScaffold.Proofs.Json.Agreement
import SchemaScaffold.Proofs.Json.Matching
import SchemaScaffold.Proofs.Json.Results

/-! What reading a text of a known shape can give. Nothing is said here about how
it was written. -/

namespace SchemaScaffold.Json

/-! ## Contents -/

/-- A null among the contents of a shape. -/
def Shape.IsNull : (shape : Shape) → shape.Denote → Prop
  | .anything, value => value = .null
  | .nullable _, contents => contents = none
  | _, _ => False

mutual

/-- Contents that can be read with so many brackets left to be opened. -/
def Shape.IsRead (depth : Nat) : (shape : Shape) → shape.Denote → Prop
  | .text, _ => True
  | .flag, _ => True
  | .count, count => count < Nat.pow 2 64
  | .anything, value => value.IsRead depth
  | .nullable inner, contents =>
      ∀ value ∈ contents, inner.IsRead depth value ∧ ¬ inner.IsNull value
  | .list item, values => ∀ value ∈ values, item.IsRead (depth - 1) value
  | .choice names, name => name ∈ names
  | .record _ members, contents => members.IsRead (depth - 1) contents

def Members.IsRead (depth : Nat) : (members : Members) → members.Denote → Prop
  | .nil, () => True
  | .required _ shape rest, (head, tail) => shape.IsRead depth head ∧ rest.IsRead depth tail
  | .optional _ shape rest, (head, tail) =>
      (∀ value ∈ head, shape.IsRead depth value) ∧ rest.IsRead depth tail

end

namespace Members

/-- The slots that have been filled hold what can be read. -/
def SlotsRead (depth : Nat) : (members : Members) → members.Slots → Prop
  | .nil, () => True
  | .required _ shape rest, (slot, others) =>
      (∀ value ∈ slot, shape.IsRead depth value) ∧ rest.SlotsRead depth others
  | .optional _ shape rest, (slot, others) =>
      (∀ value ∈ slot, shape.IsRead depth value) ∧ rest.SlotsRead depth others

theorem slotsRead_emptySlots (depth : Nat) : (members : Members) →
    members.SlotsRead depth members.emptySlots
  | .nil => trivial
  | .required _ _ rest => ⟨nofun, rest.slotsRead_emptySlots depth⟩
  | .optional _ _ rest => ⟨nofun, rest.slotsRead_emptySlots depth⟩

theorem isRead_complete {depth : Nat} : (members : Members) → {filled : members.Slots} →
    {contents : members.Denote} → members.SlotsRead depth filled →
    members.complete filled = .ok contents → members.IsRead depth contents
  | .nil, (), (), _, _ => trivial
  | .required _ _ rest, (slot, others), (head, tail), ⟨here, behind⟩, completed => by
      rcases complete_required.mp completed with ⟨rfl, completedRest⟩
      exact ⟨here head rfl, rest.isRead_complete behind completedRest⟩
  | .optional _ _ rest, (slot, others), (head, tail), ⟨here, behind⟩, completed => by
      rcases complete_optional.mp completed with ⟨rfl, completedRest⟩
      exact ⟨here, rest.isRead_complete behind completedRest⟩

end Members

namespace Reader

variable {α σ : Type} {holds : α → Prop} {limit depth : Nat}

/-! ## Scalars, lists and records -/

theorem yields_mismatch (limit : Nat) (expected : String) :
    (mismatch limit expected : Reader α).Yields holds := by
  intro cursor value cursor' read
  have refuses : (mismatch limit expected : Reader α).Refuses cursor.rest :=
    refuses_mismatch expected
  rcases refuses cursor.consumed with ⟨fault, refused⟩
  rw [show cursor = ⟨cursor.rest, cursor.consumed⟩ from rfl, refused] at read
  cases read

theorem yields_countOfNumber {number : Number} (isRead : number.IsRead) :
    (countOfNumber number).Yields fun count => count < Nat.pow 2 64 := by
  rw [countOfNumber.eq_def]
  split
  · exact yields_pure (Int.ofNat_lt.mp isRead.2)
  · exact yields_fail _
  · exact yields_fail _

theorem yields_count (limit : Nat) :
    (Reader.count limit).Yields fun count => count < Nat.pow 2 64 := by
  refine yields_bind fun token => ?_
  split
  · exact yields_failAhead _
  · exact yields_bind fun _ => (yields_number true).bind fun _ isRead => yields_countOfNumber isRead
  · split
    · exact (yields_number false).bind fun _ isRead => yields_countOfNumber isRead
    · exact yields_mismatch _ _

theorem yields_within {inner : (depth : Nat) → Reader α}
    (inside : ∀ below, depth = below + 1 → (inner below).Yields holds) :
    (within depth inner).Yields holds := by
  cases depth with
  | zero => exact yields_failAhead _
  | succ below =>
      rw [within]
      refine yields_nested fun readOne isInner => ?_
      rw [← Option.some.inj isInner]
      exact inside below rfl

theorem yields_oneOf (names : List String) (name : String) :
    (oneOf names name).Yields fun name => name ∈ names := by
  rw [oneOf]
  split
  · next isName => exact yields_pure (List.contains_iff_mem.mp isName)
  · exact yields_fail _

theorem yields_choice (limit depth : Nat) (names : List String) :
    (Reader.choice limit depth names).Yields fun name => name ∈ names := by
  refine yields_bind fun token => ?_
  split
  · exact yields_failAhead _
  · exact yields_bind fun _ => yields_bind fun name => yields_oneOf names name
  · refine yields_within fun _ _ => yields_bind fun key? => ?_
    split
    · exact yields_failAhead _
    · refine (yields_oneOf names _).bind fun name isName => yields_bind fun _ =>
        yields_bind fun _ => yields_bind fun next => ?_
      split
      · exact yields_bind fun _ => yields_pure isName
      · exact yields_fail _
      · exact yields_fail _
  · exact yields_failAhead _

theorem yields_listOf {readOne : (depth : Nat) → Reader α}
    (inside : ∀ below, depth = below + 1 → (readOne below).Yields holds) :
    (listOf limit depth readOne).Yields fun values => ∀ value ∈ values, holds value := by
  refine yields_bind fun token => ?_
  split
  · exact yields_failAhead _
  · exact yields_within fun below isBelow =>
      (yields_items (inside below isBelow) true limit).bind fun values holdsAll =>
        yields_bind fun _ => yields_pure holdsAll
  · exact yields_mismatch _ _

/-- Whatever is read satisfies `holds`, unless a fault is what was read. -/
def YieldsOk (reader : Reader (Except Reason α)) (holds : α → Prop) : Prop :=
  reader.Yields fun result => ∀ value, result = .ok value → holds value

theorem yieldsOk_pure {result : Except Reason α}
    (satisfied : ∀ value, result = .ok value → holds value) : YieldsOk (pure result) holds :=
  yields_pure satisfied

/-- What follows may still find fault with what was read. -/
theorem YieldsOk.bind_check {β : Type} {reader : Reader (Except Reason β)} {first : β → Prop}
    {check : β → Except Reason α} (before : YieldsOk reader first)
    (after : ∀ value result, first value → check value = .ok result → holds result) :
    YieldsOk (reader >>= fun result => pure (result.bind check)) holds := by
  refine Yields.bind before fun result satisfied => yieldsOk_pure ?_
  cases result with
  | error reason => exact nofun
  | ok value => exact fun result checked => after value result (satisfied value rfl) checked

theorem YieldsOk.bind_map {β : Type} {reader : Reader (Except Reason β)} {first : β → Prop}
    {change : β → α} (before : YieldsOk reader first)
    (after : ∀ value, first value → holds (change value)) :
    YieldsOk (reader >>= fun result => pure (result.map change)) holds := by
  refine Yields.bind before fun result satisfied => yieldsOk_pure ?_
  cases result with
  | error reason => exact nofun
  | ok value => exact fun _ equal => Except.ok.inj equal ▸ after value (satisfied value rfl)

theorem yields_closing {contents : Reader (Except Reason α)} {ending : Reader Unit}
    {afterEnd : Cursor → Cursor} (inside : YieldsOk contents holds) :
    (closing ending afterEnd contents).Yields holds := by
  refine Yields.bind inside fun result satisfied => ?_
  cases result with
  | error reason => exact fun _ _ _ read => nomatch read
  | ok value => exact yields_bind fun _ => yields_pure (satisfied value rfl)

/-- Every known key leaves the slots filled as required. -/
theorem yieldsOk_slots {holds : σ → Prop} {textLimit : Nat}
    {readInto : (key : String) → σ → Option (Reader (Except Reason σ))}
    (keeps : ∀ key filled, holds filled → ∀ readValue ∈ readInto key filled,
      YieldsOk readValue holds)
    (isFirst : Bool) (limit : Nat) {filled : σ} (satisfied : holds filled) :
    YieldsOk (slots textLimit readInto isFirst limit filled) holds := by
  induction limit generalizing isFirst filled with
  | zero => exact yields_fail _
  | succ limit induction =>
      refine yields_bind fun key? => ?_
      split
      · exact yieldsOk_pure fun _ equal => Except.ok.inj equal ▸ satisfied
      · split
        · exact yields_bind fun _ => yields_bind fun _ => induction false satisfied
        · next isKnown =>
            refine Yields.bind (keeps _ filled satisfied _ isKnown) fun result filledOk => ?_
            split
            · exact induction false (filledOk _ rfl)
            · exact yieldsOk_pure nofun

theorem yieldsOk_intoSlot {key : String} {slot : Option α} {readOne : Reader α}
    (yields : readOne.Yields holds) :
    YieldsOk (intoSlot key slot readOne) fun slot => ∀ value ∈ slot, holds value := by
  cases slot with
  | some _ => exact yieldsOk_pure nofun
  | none =>
      refine yields_bind fun _ => yields.bind fun value satisfied => yieldsOk_pure ?_
      intro _ equal _ isValue
      rw [← Except.ok.inj equal] at isValue
      exact Option.some.inj isValue ▸ satisfied

end Reader

/-! ## Shapes -/

open Reader

/-- Only where a null is written, a null is read. -/
theorem Shape.yieldsAt_read (limit depth : Nat) : (shape : Shape) →
    (shape.read limit depth).YieldsAt fun token contents =>
      shape.IsNull contents → token = some 'n'
  | .anything => by
      cases depth <;> exact yieldsAt_valueWith limit _
  | .nullable inner => by
      refine yieldsAt_bind_peekToken fun token => ?_
      split
      · exact fun _ _ _ _ _ => rfl
      · exact yields_bind fun _ => yields_pure nofun
  | .text => fun _ _ _ _ isNull => isNull.elim
  | .flag => fun _ _ _ _ isNull => isNull.elim
  | .count => fun _ _ _ _ isNull => isNull.elim
  | .list _ => fun _ _ _ _ isNull => isNull.elim
  | .choice _ => fun _ _ _ _ isNull => isNull.elim
  | .record _ _ => fun _ _ _ _ isNull => isNull.elim

mutual

/-- What is read is within the limits of its shape. -/
theorem Shape.yields_read (limit depth : Nat) : (shape : Shape) →
    (shape.read limit depth).Yields (shape.IsRead depth)
  | .text => fun _ _ _ _ => trivial
  | .flag => fun _ _ _ _ => trivial
  | .count => yields_count limit
  | .anything => yields_value limit depth
  | .nullable inner =>
      yields_nullable (inner.yields_read limit depth) (inner.yieldsAt_read limit depth)
  | .list item => yields_listOf fun below isBelow => by
      rw [isBelow]
      exact item.yields_read limit below
  | .choice names => yields_choice limit depth names
  | .record name members => by
      refine yields_bind fun token => ?_
      split
      · exact yields_failAhead _
      · refine yields_within fun below isBelow => yields_closing ?_
        subst isBelow
        exact members.yieldsOk_readItems limit below 0
      · refine yields_within fun below isBelow => yields_closing ?_
        subst isBelow
        have filled : YieldsOk (slots limit
            (fun key filled => members.readInto limit below key filled) true limit
            members.emptySlots) (members.SlotsRead below) :=
          yieldsOk_slots (fun _ _ readSoFar => members.yieldsOk_readInto limit below readSoFar)
            true limit (members.slotsRead_emptySlots below)
        exact filled.bind_check fun _ _ areRead completed =>
          members.isRead_complete areRead completed
      · exact yields_mismatch _ _

theorem Members.yieldsOk_readItems (limit depth : Nat) {expected : String} :
    (members : Members) → (index : Nat) →
    YieldsOk (members.readItems limit expected depth index) (members.IsRead depth)
  | .nil, _ => yieldsOk_pure fun _ _ => trivial
  | .required _ shape rest, index => by
      refine yields_bind fun more => ?_
      split
      · exact (shape.yields_read limit depth).bind fun head isRead =>
          (rest.yieldsOk_readItems limit depth (index + 1)).bind_map fun tail areRead =>
            ⟨isRead, areRead⟩
      · exact yieldsOk_pure nofun
  | .optional _ shape rest, index => by
      refine yields_bind fun more => ?_
      split
      · refine (shape.yields_read limit depth).bind fun head isRead =>
          (rest.yieldsOk_readItems limit depth (index + 1)).bind_map fun tail areRead =>
            ⟨fun value isHead => ?_, areRead⟩
        exact Option.some.inj isHead ▸ isRead
      · exact (rest.yieldsOk_readItems limit depth (index + 1)).bind_map fun tail areRead =>
          ⟨nofun, areRead⟩

theorem Members.yieldsOk_readInto (limit depth : Nat) {key : String} : (members : Members) →
    {filled : members.Slots} → members.SlotsRead depth filled →
    ∀ readValue ∈ members.readInto limit depth key filled,
      YieldsOk readValue (members.SlotsRead depth)
  | .nil, (), _, _, isKnown => nomatch isKnown
  | .required name shape rest, (slot, others), ⟨here, behind⟩, readValue, isKnown => by
      rw [Members.readInto] at isKnown
      split at isKnown
      · rw [← Option.some.inj isKnown]
        exact (yieldsOk_intoSlot (shape.yields_read limit depth)).bind_map fun _ isRead =>
          ⟨isRead, behind⟩
      · rcases Option.map_eq_some_iff.mp isKnown with ⟨readBehind, isBehind, rfl⟩
        exact (rest.yieldsOk_readInto limit depth behind readBehind isBehind).bind_map
          fun _ areRead => ⟨here, areRead⟩
  | .optional name shape rest, (slot, others), ⟨here, behind⟩, readValue, isKnown => by
      rw [Members.readInto] at isKnown
      split at isKnown
      · rw [← Option.some.inj isKnown]
        exact (yieldsOk_intoSlot (shape.yields_read limit depth)).bind_map fun _ isRead =>
          ⟨isRead, behind⟩
      · rcases Option.map_eq_some_iff.mp isKnown with ⟨readBehind, isBehind, rfl⟩
        exact (rest.yieldsOk_readInto limit depth behind readBehind isBehind).bind_map
          fun _ areRead => ⟨here, areRead⟩

end

/-! ## Whole texts -/

theorem Reader.Yields.run {α : Type} {reader : (limit : Nat) → Reader α} {holds : α → Prop}
    (yields : ∀ limit, (reader limit).Yields holds) {text : String} {value : α}
    (read : Reader.run reader text = .ok value) : holds value := by
  rcases bind_eq_ok.mp read with ⟨⟨result, cursor⟩, readValue, ended⟩
  rcases bind_eq_ok.mp ended with ⟨_, _, equal⟩
  rw [← pure_eq_ok.mp equal]
  exact yields _ _ _ _ readValue

theorem Shape.isRead_ofText {shape : Shape} {text : String} {contents : shape.Denote}
    (read : shape.ofText text = .ok contents) : shape.IsRead Reader.deepest contents :=
  Reader.Yields.run (fun limit => shape.yields_read limit Reader.deepest) read

end SchemaScaffold.Json
