import SchemaScaffold.Decimal.Shortest
import SchemaScaffold.Json.Value

/-! The two written forms of a value: compact, on one line without spaces, and
pretty, with one member or item a line. -/

namespace SchemaScaffold.Json

def hexDigit (n : Nat) : Char := Nat.digitChar n

/-- Quotes, backslashes and controls are escaped, nothing else is. -/
def escapedChar (c : Char) : List Char :=
  if c == '"' then ['\\', '"']
  else if c == '\\' then ['\\', '\\']
  else if c == '\x08' then ['\\', 'b']
  else if c == '\x0c' then ['\\', 'f']
  else if c == '\n' then ['\\', 'n']
  else if c == '\r' then ['\\', 'r']
  else if c == '\t' then ['\\', 't']
  else if c.toNat < 0x20 then
    ['\\', 'u', '0', '0', hexDigit (c.toNat / 16), hexDigit (c.toNat % 16)]
  else [c]

def literalChars (text : List Char) : List Char :=
  '"' :: text.flatMap escapedChar ++ ['"']

/-- A text as a string literal. -/
def stringLiteral (text : String) : String := String.ofList (literalChars text.toList)

example : literalChars ['a', '"', '\x1f'] = ['"', 'a', '\\', '"', '\\', 'u', '0', '0', '1', 'f', '"'] := by
  decide

/-! Floats are written with the fewest digits that read back. -/

structure FloatStyle where
  /-- The exponents of the leading digit for which the point is put in its
  place. Outside them an exponent is written. -/
  leastPlain : Int
  greatestPlain : Int

def floatStyle : FloatStyle := ⟨-5, 15⟩

def signedText (exponent : Int) : String :=
  if exponent < 0 then s!"-{exponent.natAbs}" else s!"+{exponent.natAbs}"

/-- A positive decimal. One that has its point in place keeps at least one digit
behind it. -/
def decimalText (decimal : Decimal.Scientific) : String :=
  let digits := Nat.toDigits 10 decimal.digits
  let leading : Int := decimal.exponent + digits.length - 1
  if leading < floatStyle.leastPlain ∨ floatStyle.greatestPlain < leading then
    let fraction := digits.drop 1
    let point := if fraction.isEmpty then [] else ['.']
    String.ofList (digits.take 1 ++ point ++ fraction) ++ "e" ++ signedText leading
  else if leading < 0 then
    String.ofList (['0', '.'] ++ List.replicate (-leading - 1).toNat '0' ++ digits)
  else
    let whole := leading.toNat + 1
    let padded := digits ++ List.replicate (whole - digits.length) '0'
    let fraction := padded.drop whole
    String.ofList (padded.take whole ++ ['.'] ++ (if fraction.isEmpty then ['0'] else fraction))

def floatText (value : Float) : String :=
  let sign := if value.toBits.toNat < Nat.pow 2 63 then "" else "-"
  match Decimal.Dyadic.ofBits value.toBits with
  | none => sign ++ "0.0"
  | some number => sign ++ decimalText (Decimal.shortest number)

def Number.text : Number → String
  | .integer value => toString value
  | .float value => floatText value

mutual

def Value.compact : Value → String
  | .null => "null"
  | .bool true => "true"
  | .bool false => "false"
  | .number number => number.text
  | .string text => stringLiteral text
  | .array items => "[" ++ compactItems items ++ "]"
  | .object members => "\x7b" ++ compactMembers members ++ "\x7d"

def compactItems : List Value → String
  | [] => ""
  | [item] => item.compact
  | item :: rest => item.compact ++ "," ++ compactItems rest

def compactMembers : List (String × Value) → String
  | [] => ""
  | [(key, value)] => stringLiteral key ++ ":" ++ value.compact
  | (key, value) :: rest =>
      stringLiteral key ++ ":" ++ value.compact ++ "," ++ compactMembers rest

end

example : (Value.object [("a", .array [.null, .bool true])]).compact
    = "\x7b\"a\":[null,true]\x7d" := by decide +kernel

/-! In the pretty form every level is indented by two spaces, and what is empty
stays on its line. -/

def indentation (level : Nat) : String := String.ofList (List.replicate (2 * level) ' ')

mutual

def Value.prettyAt (level : Nat) : Value → String
  | .null => "null"
  | .bool true => "true"
  | .bool false => "false"
  | .number number => number.text
  | .string text => stringLiteral text
  | .array [] => "[]"
  | .array (item :: rest) =>
      "[\n" ++ indentation (level + 1) ++ item.prettyAt (level + 1)
        ++ prettyItems (level + 1) rest ++ "\n" ++ indentation level ++ "]"
  | .object [] => "\x7b\x7d"
  | .object ((key, value) :: rest) =>
      "\x7b\n" ++ indentation (level + 1) ++ stringLiteral key ++ ": "
        ++ value.prettyAt (level + 1) ++ prettyMembers (level + 1) rest
        ++ "\n" ++ indentation level ++ "\x7d"

def prettyItems (level : Nat) : List Value → String
  | [] => ""
  | item :: rest =>
      ",\n" ++ indentation level ++ item.prettyAt level ++ prettyItems level rest

def prettyMembers (level : Nat) : List (String × Value) → String
  | [] => ""
  | (key, value) :: rest =>
      ",\n" ++ indentation level ++ stringLiteral key ++ ": " ++ value.prettyAt level
        ++ prettyMembers level rest

end

def Value.pretty (value : Value) : String := value.prettyAt 0

end SchemaScaffold.Json
