import SchemaScaffold.Json.Reader

/-! Passing over a value that nobody asked for. It has to be well formed, but
the size of its numbers, the pairing of its surrogates and its depth do not
matter. -/

namespace SchemaScaffold.Json.Reader

def skipEscape : Reader Unit := do
  match ← peek with
  | none => fail .endOfString
  | some 'u' =>
      advance
      let _ ← hexUnit
  | some c => if (shortEscape? c).isSome then advance else failAhead .invalidEscape

/-- A string whose opening quote has been read. A control character is reported
where it stands. -/
def skipString : (limit : Nat) → Reader Unit
  | 0 => fail .endOfString
  | limit + 1 => do
      match ← peek with
      | none => fail .endOfString
      | some '"' => advance
      | some '\\' =>
          advance
          skipEscape
          skipString limit
      | some c =>
          if c.toNat < 0x20 then
            fail .controlCharacter
          else
            advance
            skipString limit

def skipExponent : Reader Unit := do
  match ← peek with
  | some '+' | some '-' => advance
  | _ => pure ()
  let run ← digits
  if run.isEmpty then failAhead .invalidNumber

def skipExponentIfAny : Reader Unit := do
  match ← peek with
  | some 'e' | some 'E' =>
      advance
      skipExponent
  | _ => pure ()

def skipFraction : Reader Unit := do
  match ← peek with
  | some '.' =>
      advance
      let run ← digits
      if run.isEmpty then failAhead .invalidNumber else skipExponentIfAny
  | _ => skipExponentIfAny

/-- A number whose minus sign, if it has one, has been read. -/
def skipNumber : Reader Unit := do
  match ← peek with
  | some '0' =>
      advance
      match ← peek with
      | some c => if isDigit c then failAhead .invalidNumber else skipFraction
      | none => skipFraction
  | _ =>
      let run ← digits
      if run.isEmpty then failAhead .invalidNumber else skipFraction

/-- The items of a list from the first one on, up to its closing bracket. -/
def skipItems (skipOne : Reader Unit) : (limit : Nat) → Reader Unit
  | 0 => fail .endOfList
  | limit + 1 => do
      skipOne
      match ← peekToken with
      | some ',' =>
          advance
          skipItems skipOne limit
      | some ']' => advance
      | some _ => failAhead .expectedListEnd
      | none => failAhead .endOfList

/-- The members of an object from the first key on, up to its closing bracket. -/
def skipMembers (textLimit : Nat) (skipOne : Reader Unit) : (limit : Nat) → Reader Unit
  | 0 => fail .endOfObject
  | limit + 1 => do
      match ← peekToken with
      | some '"' =>
          advance
          skipString textLimit
      | some _ => failAhead .keyNotString
      | none => failAhead .endOfObject
      match ← peekToken with
      | some ':' => advance
      | some _ => failAhead .expectedColon
      | none => failAhead .endOfObject
      skipOne
      match ← peekToken with
      | some ',' =>
          advance
          skipMembers textLimit skipOne limit
      | some '\x7d' => advance
      | some _ => failAhead .expectedObjectEnd
      | none => failAhead .endOfObject

/-- A whole value. Each level of nesting takes an opening bracket, so the length
of the text bounds them. -/
def skipValue (textLimit : Nat) : (levels : Nat) → Reader Unit
  | 0 => fail .endOfValue
  | levels + 1 => do
      match ← peekToken with
      | none => failAhead .endOfValue
      | some 'n' =>
          advance
          word ['u', 'l', 'l']
      | some 't' =>
          advance
          word ['r', 'u', 'e']
      | some 'f' =>
          advance
          word ['a', 'l', 's', 'e']
      | some '-' =>
          advance
          skipNumber
      | some '"' =>
          advance
          skipString textLimit
      | some '[' =>
          advance
          match ← peekToken with
          | some ']' => advance
          | none => failAhead .endOfList
          | some _ => skipItems (skipValue textLimit levels) textLimit
      | some '\x7b' =>
          advance
          match ← peekToken with
          | some '\x7d' => advance
          | none => failAhead .endOfObject
          | some _ => skipMembers textLimit (skipValue textLimit levels) textLimit
      | some c => if isDigit c then skipNumber else failAhead .expectedValue

end SchemaScaffold.Json.Reader
