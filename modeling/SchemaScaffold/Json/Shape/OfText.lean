import SchemaScaffold.Json.Read
import SchemaScaffold.Json.Shape
import SchemaScaffold.Json.Skip

/-! Reading a text of a known shape. The first fault in the order of the text is
reported. A record may also be at fault as a whole, because a member is
missing or occurs twice; this is reported behind it. -/

namespace SchemaScaffold.Json

namespace Reader

/-- Report the value that stands where another was expected. A scalar is read to
its end first, and its own faults come before the mismatch. -/
def mismatch (limit : Nat) (expected : String) : Reader α := do
  match ← peek with
  | some 'n' =>
      advance
      word ['u', 'l', 'l']
      fail (.wrongType .null expected)
  | some 't' =>
      advance
      word ['r', 'u', 'e']
      fail (.wrongType (.bool true) expected)
  | some 'f' =>
      advance
      word ['a', 'l', 's', 'e']
      fail (.wrongType (.bool false) expected)
  | some '-' =>
      advance
      let value ← number true
      fail (.wrongType (.number value) expected)
  | some '"' =>
      advance
      let value ← string limit
      fail (.wrongType (.text value) expected)
  | some '[' => fail (.wrongType .sequence expected)
  | some '\x7b' => fail (.wrongType .map expected)
  | some c =>
      if isDigit c then
        let value ← number false
        fail (.wrongType (.number value) expected)
      else
        failAhead .expectedValue
  | none => failAhead .expectedValue

def text (limit : Nat) : Reader String := do
  match ← peekToken with
  | none => failAhead .endOfValue
  | some '"' =>
      advance
      string limit
  | some _ => mismatch limit Shape.text.expected

def flag (limit : Nat) : Reader Bool := do
  match ← peekToken with
  | none => failAhead .endOfValue
  | some 't' =>
      advance
      word ['r', 'u', 'e']
      pure true
  | some 'f' =>
      advance
      word ['a', 'l', 's', 'e']
      pure false
  | some _ => mismatch limit Shape.flag.expected

def countOfNumber : Number → Reader Nat
  | .integer (.ofNat value) => pure value
  | .integer value => fail (.wrongValue (.number (.integer value)) Shape.count.expected)
  | .float value => fail (.wrongType (.number (.float value)) Shape.count.expected)

def count (limit : Nat) : Reader Nat := do
  match ← peekToken with
  | none => failAhead .endOfValue
  | some '-' =>
      advance
      countOfNumber (← number true)
  | some c =>
      if isDigit c then countOfNumber (← number false)
      else mismatch limit Shape.count.expected

def nullable (readOne : Reader α) : Reader (Option α) := do
  match ← peekToken with
  | some 'n' =>
      advance
      word ['u', 'l', 'l']
      pure none
  | _ =>
      let value ← readOne
      pure (some value)

/-- Step into a pair of brackets. -/
def within (depth : Nat) (inner : (depth : Nat) → Reader α) : Reader α :=
  match depth with
  | 0 => nested none
  | depth + 1 => nested (some (inner depth))

def listOf (limit depth : Nat) (readOne : (depth : Nat) → Reader α) : Reader (List α) := do
  match ← peekToken with
  | none => failAhead .endOfValue
  | some '[' => within depth fun depth => do
      let values ← items (readOne depth) true limit
      endList
      pure values
  | some _ => mismatch limit (Shape.list .anything).expected

/-- Accept one of a few names. -/
def oneOf (names : List String) (name : String) : Reader String :=
  if names.contains name then pure name else fail (.unknownChoice name names)

def null (limit : Nat) : Reader Unit := do
  match ← peekToken with
  | none => failAhead .endOfValue
  | some 'n' =>
      advance
      word ['u', 'l', 'l']
  | some _ => mismatch limit "unit"

/-- A choice is written as its name, or as an object with the name as its only
key and null as its value. -/
def choice (limit depth : Nat) (names : List String) : Reader String := do
  match ← peekToken with
  | none => failAhead .endOfValue
  | some '"' =>
      advance
      let name ← string limit
      oneOf names name
  | some '\x7b' => within depth fun _ => do
      match ← nextKey? limit true with
      | none => failAhead .expectedValue
      | some key =>
          let name ← oneOf names key
          colon
          null limit
          match ← peekToken with
          | some '\x7d' =>
              advance
              pure name
          | some _ => fail .expectedValue
          | none => fail .endOfObject
  | some _ => failAhead .expectedValue

/-! ## Records -/

/-- How far an attempt to close a list gets. -/
def afterListEnd (cursor : Cursor) : Cursor :=
  let cursor := cursor.skipBlanks
  match cursor.rest with
  | ']' :: _ => cursor.advance
  | ',' :: _ => cursor.advance.skipBlanks
  | _ => cursor

/-- How far an attempt to close an object gets. -/
def afterObjectEnd (cursor : Cursor) : Cursor :=
  let cursor := cursor.skipBlanks
  match cursor.rest with
  | '\x7d' :: _ => cursor.advance
  | _ => cursor

/-- Close a record after its contents. A fault of the record as a whole is
placed as far as closing it gets. -/
def closing (ending : Reader Unit) (afterEnd : Cursor → Cursor)
    (contents : Reader (Except Reason α)) : Reader α := do
  match ← contents with
  | .ok result =>
      ending
      pure result
  | .error reason => fun cursor => .error ⟨reason, (afterEnd cursor).consumed⟩

/-- The members of an object. `readInto` reads the value of a known key into its
slot; the value of an unknown key is passed over. -/
def slots (textLimit : Nat)
    (readInto : (key : String) → σ → Option (Reader (Except Reason σ)))
    (isFirst : Bool) : (limit : Nat) → σ → Reader (Except Reason σ)
  | 0, _ => fail .endOfObject
  | limit + 1, filled => do
      match ← nextKey? textLimit isFirst with
      | none => pure (.ok filled)
      | some key =>
          match readInto key filled with
          | none =>
              colon
              skipValue textLimit textLimit
              slots textLimit readInto false limit filled
          | some readValue =>
              match ← readValue with
              | .ok filled => slots textLimit readInto false limit filled
              | .error reason => pure (.error reason)

/-- The value of one member, for a slot that must still be empty. -/
def intoSlot (key : String) (slot : Option α) (readOne : Reader α) :
    Reader (Except Reason (Option α)) :=
  match slot with
  | some _ => pure (.error (.repeatedMember key))
  | none => do
      colon
      let value ← readOne
      pure (.ok (some value))

end Reader

open Reader

mutual

def Shape.read (limit : Nat) : (shape : Shape) → (depth : Nat) → Reader shape.Denote
  | .text, _ => Reader.text limit
  | .flag, _ => Reader.flag limit
  | .count, _ => Reader.count limit
  | .anything, depth => Reader.value limit depth
  | .nullable inner, depth => Reader.nullable (inner.read limit depth)
  | .list item, depth => listOf limit depth fun depth => item.read limit depth
  | .choice names, depth => Reader.choice limit depth names
  | .record name members, depth => do
      match ← peekToken with
      | none => failAhead .endOfValue
      | some '[' => within depth fun depth => do
          closing endList afterListEnd
            (members.readItems limit (Shape.expectedItems name members.size) depth 0)
      | some '\x7b' => within depth fun depth => do
          closing endObject afterObjectEnd do
            let filled ← slots limit (fun key filled => members.readInto limit depth key filled)
              true limit members.emptySlots
            pure (filled.bind members.complete)
      | some _ => mismatch limit (Shape.record name members).expected

/-- The members of a record that is written as a list, from the given one on. -/
def Members.readItems (limit : Nat) (expected : String) :
    (members : Members) → (depth index : Nat) → Reader (Except Reason members.Denote)
  | .nil, _, _ => pure (.ok ())
  | .required _ shape rest, depth, index => do
      if ← hasItem (index == 0) then
        let value ← shape.read limit depth
        let values ← rest.readItems limit expected depth (index + 1)
        pure (values.map fun values => (value, values))
      else
        pure (.error (.wrongLength index expected))
  | .optional _ shape rest, depth, index => do
      if ← hasItem (index == 0) then
        let value ← shape.read limit depth
        let values ← rest.readItems limit expected depth (index + 1)
        pure (values.map fun values => (some value, values))
      else
        let values ← rest.readItems limit expected depth (index + 1)
        pure (values.map fun values => (none, values))

/-- How the value of a key is read into its slot, if a member has this key. -/
def Members.readInto (limit : Nat) : (members : Members) → (depth : Nat) → (key : String) →
    members.Slots → Option (Reader (Except Reason members.Slots))
  | .nil, _, _, () => none
  | .required name shape rest, depth, key, (slot, others) =>
      if key == name then
        some do
          let slot ← intoSlot key slot (shape.read limit depth)
          pure (slot.map fun slot => (slot, others))
      else
        (rest.readInto limit depth key others).map fun readValue => do
          let others ← readValue
          pure (others.map fun others => (slot, others))
  | .optional name shape rest, depth, key, (slot, others) =>
      if key == name then
        some do
          let slot ← intoSlot key slot (shape.read limit depth)
          pure (slot.map fun slot => (slot, others))
      else
        (rest.readInto limit depth key others).map fun readValue => do
          let others ← readValue
          pure (others.map fun others => (slot, others))

end

/-- What a text of this shape carries. -/
def Shape.ofText (shape : Shape) (text : String) : Except Fault shape.Denote :=
  Reader.run (fun limit => shape.read limit Reader.deepest) text

end SchemaScaffold.Json
