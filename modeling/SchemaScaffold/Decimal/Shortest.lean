/-! The fewest decimal digits that identify a floating point number.

A positive finite number is `mantissa · 2 ^ exponent`. The reals nearest to it
form an interval that reaches half way to both neighbours. For each count of
digits there is one grid of decimals, and a decimal of this grid lies in the
interval only if one of the number's two neighbours on the grid does. So the
first grid with such a neighbour gives the shortest digits, and of two
neighbours the nearer one is taken. -/

namespace SchemaScaffold.Decimal

structure Dyadic where
  mantissa : Nat
  exponent : Int
  /-- Whether the next smaller number lies only half as far away as the next
  larger one. -/
  narrowBelow : Bool

namespace Dyadic

/-- The positive number behind the sign of a finite 64-bit float, none for
zero. -/
def ofBits (bits : UInt64) : Option Dyadic :=
  let fraction : Nat := bits.toNat % Nat.pow 2 52
  let biased : Nat := bits.toNat / Nat.pow 2 52 % Nat.pow 2 11
  if biased = 0 then
    if fraction = 0 then none else some ⟨fraction, -1074, false⟩
  else
    some ⟨fraction + Nat.pow 2 52, (biased : Int) - 1075, fraction == 0 && biased != 1⟩

example : (ofBits 0x3FF0000000000000).map (·.exponent) = some (-52) := by decide

/-! Four times the number, and the distances from there to the ends of its
interval, over one denominator. -/

def scale (number : Dyadic) : Nat × Nat :=
  if number.exponent ≥ 0 then (Nat.pow 2 number.exponent.toNat, 4)
  else (1, 4 * Nat.pow 2 (-number.exponent).toNat)

def center (number : Dyadic) : Nat := 4 * number.mantissa * number.scale.1

def denominator (number : Dyadic) : Nat := number.scale.2

def lowest (number : Dyadic) : Nat :=
  number.center - (if number.narrowBelow then 1 else 2) * number.scale.1

def highest (number : Dyadic) : Nat := number.center + 2 * number.scale.1

/-- Whether `numerator / denominator` is read back as the number. The ends of
the interval belong to it when the mantissa is even. -/
def admits (number : Dyadic) (numerator denominator : Nat) : Bool :=
  let low := number.lowest * denominator
  let high := number.highest * denominator
  let point := numerator * number.denominator
  if number.mantissa % 2 = 0 then low ≤ point && point ≤ high
  else low < point && point < high

end Dyadic

def digitCount (n : Nat) : Nat := (Nat.toDigits 10 n).length

/-- The power of ten right above a positive quotient. -/
def magnitude (numerator denominator : Nat) : Int :=
  if numerator ≥ denominator then
    digitCount (numerator / denominator)
  else
    1 - (digitCount ((denominator + numerator - 1) / numerator - 1) : Int)

example : magnitude 123 1 = 3 := by decide

example : magnitude 1 100 = -1 := by decide

/-- The number `digits · 10 ^ exponent`. -/
structure Scientific where
  digits : Nat
  exponent : Int

namespace Scientific

def numerator (decimal : Scientific) : Nat := decimal.digits * Nat.pow 10 decimal.exponent.toNat

def denominator (decimal : Scientific) : Nat := Nat.pow 10 (-decimal.exponent).toNat

def distance (decimal : Scientific) (number : Dyadic) : Nat :=
  let left := decimal.numerator * number.denominator
  let right := number.center * decimal.denominator
  max left right - min left right

/-- Final zeros go into the exponent. -/
def stripZeros (decimal : Scientific) : Nat → Scientific
  | 0 => decimal
  | limit + 1 =>
      if decimal.digits % 10 = 0 && decimal.digits != 0 then
        stripZeros ⟨decimal.digits / 10, decimal.exponent + 1⟩ limit
      else decimal

end Scientific

/-- The two decimals around a number on the grid with the given unit. -/
def neighbours (number : Dyadic) (unitExponent : Int) : Scientific × Scientific :=
  let numerator := number.center * Nat.pow 10 (-unitExponent).toNat
  let denominator := number.denominator * Nat.pow 10 unitExponent.toNat
  let floor := numerator / denominator
  (⟨floor, unitExponent⟩, ⟨floor + 1, unitExponent⟩)

/-- The decimal of this grid that is read back as the number, if there is
one. A tie goes to the even digits. -/
def onGrid (number : Dyadic) (unitExponent : Int) : Option Scientific :=
  let (below, above) := neighbours number unitExponent
  let admitted (decimal : Scientific) : Bool :=
    number.admits decimal.numerator decimal.denominator
  match admitted below, admitted above with
  | false, false => none
  | true, false => some below
  | false, true => some above
  | true, true =>
      let toBelow := below.distance number
      let toAbove := above.distance number
      if toBelow < toAbove then some below
      else if toAbove < toBelow then some above
      else if below.digits % 2 = 0 then some below else some above

/-- Seventeen digits identify every number. -/
def shortest (number : Dyadic) : Scientific :=
  let top := magnitude number.center number.denominator
  let candidates := (List.range 17).filterMap fun (count : Nat) =>
    onGrid number (top - 1 - (count : Int))
  match candidates.head? with
  | some decimal => decimal.stripZeros 20
  | none => ⟨number.mantissa, 0⟩

end SchemaScaffold.Decimal
