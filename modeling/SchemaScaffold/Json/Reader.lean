import SchemaScaffold.Json.Reason

/-! Reading a text from its start, one character after the other, while counting
the bytes that have been read. -/

namespace SchemaScaffold.Json

structure Cursor where
  rest : List Char
  consumed : Nat

abbrev Reader := StateT Cursor (Except Fault)

namespace Cursor

def ofText (text : List Char) : Cursor := ⟨text, 0⟩

def advance : Cursor → Cursor
  | ⟨[], consumed⟩ => ⟨[], consumed⟩
  | ⟨c :: rest, consumed⟩ => ⟨rest, consumed + c.utf8Size⟩

def isBlank (c : Char) : Bool := c == ' ' || c == '\n' || c == '\t' || c == '\r'

def dropBlanks : List Char → Nat → Cursor
  | [], consumed => ⟨[], consumed⟩
  | c :: rest, consumed =>
      if isBlank c then dropBlanks rest (consumed + 1) else ⟨c :: rest, consumed⟩

def skipBlanks (cursor : Cursor) : Cursor := dropBlanks cursor.rest cursor.consumed

/-- The bytes up to and including the next one. -/
def ahead (cursor : Cursor) : Nat :=
  if cursor.rest.isEmpty then cursor.consumed else cursor.consumed + 1

end Cursor

namespace Reader

/-- Fail where reading stopped. -/
def fail (reason : Reason) : Reader α := fun cursor => .error ⟨reason, cursor.consumed⟩

/-- Fail at the next byte, which was looked at. -/
def failAhead (reason : Reason) : Reader α := fun cursor => .error ⟨reason, cursor.ahead⟩

def peek : Reader (Option Char) := fun cursor => .ok (cursor.rest.head?, cursor)

def advance : Reader Unit := fun cursor => .ok ((), cursor.advance)

def skipBlanks : Reader Unit := fun cursor => .ok ((), cursor.skipBlanks)

/-- The next character that is no white space. It is not consumed. -/
def peekToken : Reader (Option Char) := do
  skipBlanks
  peek

/-- The rest of a word whose first letter has been read. -/
def word : List Char → Reader Unit
  | [] => pure ()
  | expected :: others => do
      match ← peek with
      | none => fail .endOfValue
      | some c =>
          if c == expected then
            advance
            word others
          else
            failAhead .expectedWord

/-! ## Strings -/

def hexValue? (c : Char) : Option Nat :=
  if '0' ≤ c ∧ c ≤ '9' then some (c.toNat - '0'.toNat)
  else if 'a' ≤ c ∧ c ≤ 'f' then some (c.toNat - 'a'.toNat + 10)
  else if 'A' ≤ c ∧ c ≤ 'F' then some (c.toNat - 'A'.toNat + 10)
  else none

/-- The number written by four hexadecimal digits. Four bytes are taken even if
they are no digits. -/
def hexUnit : Reader Nat := fun cursor =>
  let units (digits : List Char) : Option Nat :=
    digits.foldl (fun sum c => do pure (16 * (← sum) + (← hexValue? c))) (some 0)
  match cursor.rest with
  | a :: b :: c :: d :: rest =>
      match units [a, b, c, d] with
      | some unit => .ok (unit, ⟨rest, cursor.consumed + 4⟩)
      | none => .error ⟨.invalidEscape, cursor.consumed + 4⟩
  | short =>
      let bytes := short.foldl (fun bytes c => bytes + c.utf8Size) 0
      if bytes < 4 then .error ⟨.endOfString, cursor.consumed + bytes⟩
      else .error ⟨.invalidEscape, cursor.consumed + 4⟩

/-- A character that has to follow between the two halves of a pair. -/
def pairSign (sign : Char) : Reader Unit := do
  match ← peek with
  | none => fail .endOfString
  | some c => if c == sign then advance else failAhead .unfinishedSurrogates

/-- The character behind `\u`. One beyond the first 65536 is written as a pair
of surrogates. -/
def unicodeEscape : Reader Char := do
  let first ← hexUnit
  if 0xDC00 ≤ first ∧ first ≤ 0xDFFF then
    fail .loneSurrogate
  else if first < 0xD800 ∨ 0xDBFF < first then
    pure (Char.ofNat first)
  else
    pairSign '\\'
    pairSign 'u'
    let second ← hexUnit
    if second < 0xDC00 ∨ 0xDFFF < second then
      fail .loneSurrogate
    else
      pure (Char.ofNat (0x10000 + (first - 0xD800) * 0x400 + (second - 0xDC00)))

def shortEscape? : Char → Option Char
  | '"' => some '"'
  | '\\' => some '\\'
  | '/' => some '/'
  | 'b' => some '\x08'
  | 'f' => some '\x0c'
  | 'n' => some '\n'
  | 'r' => some '\r'
  | 't' => some '\t'
  | _ => none

/-- The character written by an escape whose backslash has been read. -/
def escape : Reader Char := do
  match ← peek with
  | none => fail .endOfString
  | some 'u' =>
      advance
      unicodeEscape
  | some c =>
      match shortEscape? c with
      | some written =>
          advance
          pure written
      | none => failAhead .invalidEscape

/-- The characters of a string whose opening quote has been read. Each of them
takes at least one character of the text, so a limit that has run out means
that nothing is left of it. -/
def stringBody : (limit : Nat) → Reader (List Char)
  | 0 => fail .endOfString
  | limit + 1 => do
      match ← peek with
      | none => fail .endOfString
      | some '"' =>
          advance
          pure []
      | some '\\' =>
          advance
          let head ← escape
          let tail ← stringBody limit
          pure (head :: tail)
      | some c =>
          if c.toNat < 0x20 then
            failAhead .controlCharacter
          else
            advance
            let tail ← stringBody limit
            pure (c :: tail)

def string (limit : Nat) : Reader String := do
  let characters ← stringBody limit
  pure (String.ofList characters)

/-! ## Numbers -/

def isDigit (c : Char) : Bool := '0' ≤ c && c ≤ '9'

def digitValue (c : Char) : Nat := c.toNat - '0'.toNat

/-- The decimal digits that come next. -/
def digits : Reader (List Nat) := fun cursor =>
  let run := cursor.rest.takeWhile isDigit
  .ok (run.map digitValue, ⟨cursor.rest.dropWhile isDigit, cursor.consumed + run.length⟩)

/-- Append digits to a number as long as it fits in 64 bits, and keep the digits
that are left over. -/
def appendFitting (number : Nat) : List Nat → Nat × List Nat
  | [] => (number, [])
  | digit :: rest =>
      if number * 10 + digit < Nat.pow 2 64 then appendFitting (number * 10 + digit) rest
      else (number, digit :: rest)

example : appendFitting 1 [2, 3] = (123, []) := by decide

def powerOfTen (exponent : Nat) : Float := Float.ofScientific 1 false exponent

/-- Divide by a power of ten. A float reaches powers up to 308. -/
def scaleDown (value : Float) (exponent : Nat) : Float :=
  if value == 0 then value
  else if exponent ≤ 308 then value / powerOfTen exponent
  else scaleDown (value / powerOfTen 308) (exponent - 308)
termination_by exponent

/-- The float for digits that fit in 64 bits and a power of ten, if it is
finite. -/
def scaled? (significand : Nat) (exponent : Int) : Option Float :=
  let value := significand.toUInt64.toFloat
  if exponent < 0 then
    some (scaleDown value (-exponent).toNat)
  else if significand = 0 then
    some value
  else if exponent ≤ 308 then
    let product := value * powerOfTen exponent.toNat
    if product.isInf then none else some product
  else
    none

def signed (negative : Bool) (value : Float) : Float := if negative then -value else value

def finish (negative : Bool) (significand : Nat) (exponent : Int) : Reader Number :=
  match scaled? significand exponent with
  | some value => pure (.float (signed negative value))
  | none => fail .numberOutOfRange

def greatestExponent : Nat := Nat.pow 2 31 - 1

/-- How many digits it takes until the written exponent is beyond all
exponents. -/
def digitsToOverflow (exponent count : Nat) : List Nat → Option Nat
  | [] => none
  | digit :: rest =>
      if exponent * 10 + digit > greatestExponent then some (count + 1)
      else digitsToOverflow (exponent * 10 + digit) (count + 1) rest

/-- The exponent of a number from its sign on. -/
def exponentPart (negative : Bool) (significand : Nat) (exponent : Int) : Reader Number := do
  let sign ← peek
  if sign == some '+' || sign == some '-' then advance
  let start : Nat ← fun cursor => .ok (cursor.consumed, cursor)
  match ← peek with
  | none => fail .endOfValue
  | some c =>
      if !isDigit c then
        failAhead .invalidNumber
      else
        let run ← digits
        let lowers := sign == some '-'
        match digitsToOverflow 0 0 run with
        | some count =>
            if significand != 0 && !lowers then
              fun _ => .error ⟨.numberOutOfRange, start + count⟩
            else
              pure (.float (signed negative 0))
        | none =>
            let written : Nat := run.foldl (fun sum digit => sum * 10 + digit) 0
            finish negative significand (if lowers then exponent - written else exponent + written)

/-- What follows the digits of a number that is no integer any more. -/
def afterFraction (negative : Bool) (significand : Nat) (exponent : Int) : Reader Number := do
  match ← peek with
  | some 'e' | some 'E' =>
      advance
      exponentPart negative significand exponent
  | _ => finish negative significand exponent

/-- The fraction of a number from the digit behind its point on. -/
def fractionPart (negative : Bool) (significand : Nat) (exponent : Int) : Reader Number := do
  let run ← digits
  if run.isEmpty then
    match ← peek with
    | none => fail .endOfValue
    | some _ => failAhead .invalidNumber
  else
    let (significand, left) := appendFitting significand run
    afterFraction negative significand (exponent - (run.length - left.length : Nat))

/-- An integer is kept as one if it fits in 64 bits. A negative zero is a
float. -/
def integerNumber (negative : Bool) (value : Nat) : Number :=
  if negative then
    if value = 0 ∨ Nat.pow 2 63 < value then .float (-value.toUInt64.toFloat)
    else .integer (-value)
  else
    .integer value

/-- What follows the leading digits of a number. `left` are the digits that did
not fit any more. -/
def afterInteger (negative : Bool) (significand : Nat) (left : List Nat) : Reader Number := do
  match ← peek with
  | some '.' =>
      advance
      fractionPart negative significand left.length
  | some 'e' | some 'E' =>
      advance
      exponentPart negative significand left.length
  | _ =>
      if left.isEmpty then pure (integerNumber negative significand)
      else finish negative significand left.length

/-- A number whose minus sign, if it has one, has been read. -/
def number (negative : Bool) : Reader Number := do
  match ← peek with
  | none => fail .endOfValue
  | some '0' =>
      advance
      match ← peek with
      | some c => if isDigit c then failAhead .invalidNumber else afterInteger negative 0 []
      | none => afterInteger negative 0 []
  | some c =>
      if isDigit c then
        let run ← digits
        let (significand, left) := appendFitting 0 run
        afterInteger negative significand left
      else
        failAhead .invalidNumber

end Reader

end SchemaScaffold.Json
