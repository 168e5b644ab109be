import SchemaScaffold.Json.Print
import SchemaScaffold.Text.Quoted

/-! Why a JSON text, or a value already decoded, is not what was expected. -/

namespace SchemaScaffold.Json

/-- What stands where something else was expected. -/
inductive Found where
  | null
  | bool (value : Bool)
  | number (number : Number)
  | text (value : String)
  | sequence
  | map

namespace Found

def ofValue : Value → Found
  | .null => .null
  | .bool value => .bool value
  | .number value => .number value
  | .string value => .text value
  | .array _ => .sequence
  | .object _ => .map

def describe : Found → String
  | null => "null"
  | bool value => s!"boolean `{value}`"
  | number (.integer value) => s!"integer `{value}`"
  | number (.float value) => s!"floating point `{floatText value}`"
  | text value => s!"string {Text.quoted value}"
  | sequence => "sequence"
  | map => "map"

end Found

inductive Reason where
  | endOfValue
  | endOfList
  | endOfObject
  | endOfString
  | expectedColon
  | expectedListEnd
  | expectedObjectEnd
  | expectedWord
  | expectedValue
  | invalidEscape
  | invalidNumber
  | numberOutOfRange
  | controlCharacter
  | keyNotString
  | loneSurrogate
  | unfinishedSurrogates
  | trailingComma
  | trailingCharacters
  | tooDeep
  | wrongType (found : Found) (expected : String)
  | wrongValue (found : Found) (expected : String)
  | wrongLength (length : Nat) (expected : String)
  | unknownChoice (name : String) (choices : List String)
  | missingMember (key : String)
  | repeatedMember (key : String)

namespace Reason

def choicesText (choices : List String) : String :=
  " or ".intercalate (choices.map fun choice => s!"`{choice}`")

def message : Reason → String
  | endOfValue => "EOF while parsing a value"
  | endOfList => "EOF while parsing a list"
  | endOfObject => "EOF while parsing an object"
  | endOfString => "EOF while parsing a string"
  | expectedColon => "expected `:`"
  | expectedListEnd => "expected `,` or `]`"
  | expectedObjectEnd => "expected `,` or `\x7d`"
  | expectedWord => "expected ident"
  | expectedValue => "expected value"
  | invalidEscape => "invalid escape"
  | invalidNumber => "invalid number"
  | numberOutOfRange => "number out of range"
  | controlCharacter => "control character (\\u0000-\\u001F) found while parsing a string"
  | keyNotString => "key must be a string"
  | loneSurrogate => "lone leading surrogate in hex escape"
  | unfinishedSurrogates => "unexpected end of hex escape"
  | trailingComma => "trailing comma"
  | trailingCharacters => "trailing characters"
  | tooDeep => "recursion limit exceeded"
  | wrongType found expected => s!"invalid type: {found.describe}, expected {expected}"
  | wrongValue found expected => s!"invalid value: {found.describe}, expected {expected}"
  | wrongLength length expected => s!"invalid length {length}, expected {expected}"
  | unknownChoice name choices => s!"unknown variant `{name}`, expected {choicesText choices}"
  | missingMember key => s!"missing field `{key}`"
  | repeatedMember key => s!"duplicate field `{key}`"

end Reason

/-! A fault in a text counts the bytes up to the place where it was noticed. -/

structure Fault where
  reason : Reason
  offset : Nat

/-! Places in a text as a reader counts them. -/

structure Position where
  /-- Starts at 1. -/
  line : Nat
  /-- Bytes since the last line feed. -/
  column : Nat
deriving DecidableEq

namespace Position

/-- The position reached from `start` after this many bytes of a text. -/
def after (start : Position) : (bytes : Nat) → List Char → Position
  | _, [] => start
  | 0, _ => start
  | bytes + 1, c :: rest =>
      if c == '\n' then
        after ⟨start.line + 1, 0⟩ bytes rest
      else
        after ⟨start.line, start.column + min c.utf8Size (bytes + 1)⟩
          (bytes + 1 - c.utf8Size) rest

def ofOffset (text : List Char) (offset : Nat) : Position :=
  after ⟨1, 0⟩ offset text

example : ofOffset ['a', '\n', 'é', 'b'] 4 = ⟨2, 2⟩ := by decide

end Position

def Fault.position (fault : Fault) (text : List Char) : Position :=
  Position.ofOffset text fault.offset

def Fault.message (fault : Fault) (text : List Char) : String :=
  let position := fault.position text
  s!"{fault.reason.message} at line {position.line} column {position.column}"

end SchemaScaffold.Json
