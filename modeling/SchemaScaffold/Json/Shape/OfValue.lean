import SchemaScaffold.Json.Shape

/-! Converting a decoded value of a known shape. The members of an object are
taken in the order of their keys, and the first mismatch is reported. -/

namespace SchemaScaffold.Json

def Shape.wrong (shape : Shape) (value : Value) : Except Reason α :=
  .error (.wrongType (.ofValue value) shape.expected)

/-- Go through the members of an object. -/
def absorbAll (absorb : (key : String) → Value → σ → Except Reason σ) :
    List (String × Value) → σ → Except Reason σ
  | [], filled => .ok filled
  | (key, value) :: rest, filled => do
      let filled ← absorb key value filled
      absorbAll absorb rest filled

def convertAll (convert : Value → Except Reason α) : List Value → Except Reason (List α)
  | [] => .ok []
  | value :: rest => do
      let head ← convert value
      let tail ← convertAll convert rest
      pure (head :: tail)

mutual

def Shape.ofValue : (shape : Shape) → Value → Except Reason shape.Denote
  | .text, value =>
      match value with
      | .string text => .ok text
      | _ => Shape.wrong .text value
  | .flag, value =>
      match value with
      | .bool flag => .ok flag
      | _ => Shape.wrong .flag value
  | .count, value =>
      match value with
      | .number (.integer (.ofNat count)) => .ok count
      | .number (.integer _) => .error (.wrongValue (.ofValue value) Shape.count.expected)
      | _ => Shape.wrong .count value
  | .anything, value => .ok value
  | .nullable inner, value =>
      match value with
      | .null => .ok none
      | _ => do
          let converted ← inner.ofValue value
          pure (some converted)
  | .list item, value =>
      match value with
      | .array values => convertAll (fun value => item.ofValue value) values
      | _ => Shape.wrong (.list item) value
  | .choice names, value =>
      match value with
      | .string name => if names.contains name then .ok name else .error (.unknownChoice name names)
      | _ => Shape.wrong (.choice names) value
  | .record name members, value =>
      match value with
      | .array values =>
          members.ofItems (Shape.expectedItems name members.size) values.length 0 values
      | .object entries => do
          let filled ← absorbAll (fun key value filled => members.absorb key value filled)
            entries members.emptySlots
          members.complete filled
      | _ => Shape.wrong (.record name members) value

/-- The members of a record that is given as a list, from the given one on. -/
def Members.ofItems (expected : String) (length : Nat) :
    (members : Members) → (index : Nat) → List Value → Except Reason members.Denote
  | .nil, _, values =>
      match values with
      | [] => .ok ()
      | _ => .error (.wrongLength length "fewer elements in array")
  | .required _ shape rest, index, values =>
      match values with
      | [] => .error (.wrongLength index expected)
      | value :: others => do
          let head ← shape.ofValue value
          let tail ← rest.ofItems expected length (index + 1) others
          pure (head, tail)
  | .optional _ shape rest, index, values =>
      match values with
      | [] => do
          let tail ← rest.ofItems expected length (index + 1) []
          pure (none, tail)
      | value :: others => do
          let head ← shape.ofValue value
          let tail ← rest.ofItems expected length (index + 1) others
          pure (some head, tail)

/-- Put the value of a key into its slot. An unknown key changes nothing. -/
def Members.absorb : (members : Members) → (key : String) → Value → members.Slots →
    Except Reason members.Slots
  | .nil, _, _, () => .ok ()
  | .required name shape rest, key, value, (slot, others) =>
      if key == name then do
        let converted ← shape.ofValue value
        pure (some converted, others)
      else do
        let others ← rest.absorb key value others
        pure (slot, others)
  | .optional name shape rest, key, value, (slot, others) =>
      if key == name then do
        let converted ← shape.ofValue value
        pure (some converted, others)
      else do
        let others ← rest.absorb key value others
        pure (slot, others)

end

end SchemaScaffold.Json
