import SchemaScaffold.Json.Reason

/-! What a JSON document is expected to look like. A shape says which values are
accepted and denotes the type of what they carry, so that one description
serves for reading a text and for converting a decoded value. -/

namespace SchemaScaffold.Json

mutual

inductive Shape where
  | text
  | flag
  | count
  /-- Any value at all. -/
  | anything
  /-- The inner shape, or null. -/
  | nullable (inner : Shape)
  | list (item : Shape)
  /-- One of a few names. -/
  | choice (names : List String)
  /-- An object with these members among others, or the list of their values in
  order. -/
  | record (name : String) (members : Members)

inductive Members where
  | nil
  | required (key : String) (shape : Shape) (rest : Members)
  | optional (key : String) (shape : Shape) (rest : Members)

end

mutual

@[reducible] def Shape.Denote : Shape → Type
  | .text => String
  | .flag => Bool
  | .count => Nat
  | .anything => Value
  | .nullable inner => Option inner.Denote
  | .list item => List item.Denote
  | .choice _ => String
  | .record _ members => members.Denote

@[reducible] def Members.Denote : Members → Type
  | .nil => Unit
  | .required _ shape rest => shape.Denote × rest.Denote
  | .optional _ shape rest => Option shape.Denote × rest.Denote

end

/-- A missing member and a null are told apart. -/
example : (Shape.record "Point" (.required "x" .count (.optional "y" (.nullable .count) .nil))).Denote
    = (Nat × Option (Option Nat) × Unit) := rfl

namespace Members

def size : Members → Nat
  | .nil => 0
  | .required _ _ rest => rest.size + 1
  | .optional _ _ rest => rest.size + 1

/-! While the members of an object are read, each has a slot for its value. -/

@[reducible] def Slots : Members → Type
  | .nil => Unit
  | .required _ shape rest => Option shape.Denote × rest.Slots
  | .optional _ shape rest => Option shape.Denote × rest.Slots

def emptySlots : (members : Members) → members.Slots
  | .nil => ()
  | .required _ _ rest => (none, rest.emptySlots)
  | .optional _ _ rest => (none, rest.emptySlots)

/-- The contents of the slots, unless a required one is empty. The first such
member in the order of the shape is reported. -/
def complete : (members : Members) → members.Slots → Except Reason members.Denote
  | .nil, () => .ok ()
  | .required key _ _, (none, _) => .error (.missingMember key)
  | .required _ _ rest, (some value, others) => do
      let values ← rest.complete others
      pure (value, values)
  | .optional _ _ rest, (value, others) => do
      let values ← rest.complete others
      pure (value, values)

end Members

namespace Shape

/-- What a message calls a value of the shape. -/
def expected : Shape → String
  | .text => "a string"
  | .flag => "a boolean"
  | .count => "u64"
  | .anything => "any value"
  | .nullable inner => inner.expected
  | .list _ => "a sequence"
  | .choice _ => "variant identifier"
  | .record name _ => s!"struct {name}"

/-- What a message calls a list of all members of a record. -/
def expectedItems (name : String) (size : Nat) : String :=
  s!"struct {name} with {size} element" ++ (if size = 1 then "" else "s")

end Shape

end SchemaScaffold.Json
