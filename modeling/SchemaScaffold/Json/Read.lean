import SchemaScaffold.Json.Reader

/-! Reading whole values. At most 127 brackets may be open at a time. -/

namespace SchemaScaffold.Json.Reader

/-- The next item of a list, or the closing bracket, which is not consumed. -/
def hasItem (isFirst : Bool) : Reader Bool := do
  match ← peekToken with
  | none => failAhead .endOfList
  | some ']' => pure false
  | some c =>
      if isFirst then
        pure true
      else if c == ',' then
        advance
        match ← peekToken with
        | some ']' => failAhead .trailingComma
        | none => failAhead .endOfValue
        | some _ => pure true
      else
        failAhead .expectedListEnd

/-- All items of a list whose opening bracket has been read. -/
def items (readOne : Reader α) (isFirst : Bool) : (limit : Nat) → Reader (List α)
  | 0 => fail .endOfList
  | limit + 1 => do
      if ← hasItem isFirst then
        let head ← readOne
        let tail ← items readOne false limit
        pure (head :: tail)
      else
        pure []

/-- The closing bracket of a list. -/
def endList : Reader Unit := do
  match ← peekToken with
  | some ']' => advance
  | some ',' =>
      advance
      match ← peekToken with
      | some ']' => failAhead .trailingComma
      | _ => failAhead .trailingCharacters
  | some _ => failAhead .trailingCharacters
  | none => failAhead .endOfList

/-- The next key of an object, or none before the closing bracket, which is not
consumed. -/
def nextKey? (limit : Nat) (isFirst : Bool) : Reader (Option String) := do
  let keyAhead : Option Char → Reader (Option String)
    | some '"' => do
        advance
        let key ← string limit
        pure (some key)
    | some '\x7d' => failAhead .trailingComma
    | some _ => failAhead .keyNotString
    | none => failAhead .endOfValue
  match ← peekToken with
  | none => failAhead .endOfObject
  | some '\x7d' => pure none
  | some c =>
      if isFirst then
        keyAhead (some c)
      else if c == ',' then
        advance
        keyAhead (← peekToken)
      else
        failAhead .expectedObjectEnd

def colon : Reader Unit := do
  match ← peekToken with
  | some ':' => advance
  | some _ => failAhead .expectedColon
  | none => failAhead .endOfObject

/-- The closing bracket of an object. -/
def endObject : Reader Unit := do
  match ← peekToken with
  | some '\x7d' => advance
  | some ',' => failAhead .trailingComma
  | some _ => failAhead .trailingCharacters
  | none => failAhead .endOfObject

/-- All members of an object whose opening bracket has been read, in the order
of the text. -/
def members (textLimit : Nat) (readOne : Reader α) (isFirst : Bool) :
    (limit : Nat) → Reader (List (String × α))
  | 0 => fail .endOfObject
  | limit + 1 => do
      match ← nextKey? textLimit isFirst with
      | none => pure []
      | some key =>
          colon
          let value ← readOne
          let rest ← members textLimit readOne false limit
          pure ((key, value) :: rest)

/-- What is inside one more pair of brackets, unless too many are open. -/
def nested (inner : Option (Reader α)) : Reader α :=
  match inner with
  | none => failAhead .tooDeep
  | some inner => do
      advance
      inner

/-- A value whose items and members are read by `inner`, if it may have any. -/
def valueWith (limit : Nat) (inner : Option (Reader Value)) : Reader Value := do
  match ← peekToken with
  | none => failAhead .endOfValue
  | some 'n' =>
      advance
      word ['u', 'l', 'l']
      pure .null
  | some 't' =>
      advance
      word ['r', 'u', 'e']
      pure (.bool true)
  | some 'f' =>
      advance
      word ['a', 'l', 's', 'e']
      pure (.bool false)
  | some '-' =>
      advance
      let value ← number true
      pure (.number value)
  | some '"' =>
      advance
      let text ← string limit
      pure (.string text)
  | some '[' => nested <| inner.map fun readOne => do
      let values ← items readOne true limit
      endList
      pure (.array values)
  | some '\x7b' => nested <| inner.map fun readOne => do
      let values ← members limit readOne true limit
      endObject
      pure (.object (sortMembers values))
  | some c =>
      if isDigit c then
        let value ← number false
        pure (.number value)
      else
        failAhead .expectedValue

/-- A value with at most `depth` brackets open at a time. -/
def value (limit : Nat) : (depth : Nat) → Reader Value
  | 0 => valueWith limit none
  | depth + 1 => valueWith limit (some (value limit depth))

def deepest : Nat := 127

/-- Nothing but white space may follow. -/
def endText : Reader Unit := do
  match ← peekToken with
  | none => pure ()
  | some _ => failAhead .trailingCharacters

/-- Read a whole text. No loop turns more often than the text has characters. -/
def run (reader : (limit : Nat) → Reader α) (text : String) : Except Fault α := do
  let characters := text.toList
  let (result, cursor) ← reader (characters.length + 1) (Cursor.ofText characters)
  let _ ← endText cursor
  pure result

end Reader

/-- The value written by a text. -/
def Value.ofText (text : String) : Except Fault Value :=
  Reader.run (fun limit => Reader.value limit Reader.deepest) text

end SchemaScaffold.Json
