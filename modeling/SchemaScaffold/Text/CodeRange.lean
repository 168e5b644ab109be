/-! Character properties given by inclusive ranges of code points. -/

namespace SchemaScaffold.Text

/-- Whether a character's code lies in one of the ranges, both ends included. -/
def inRanges (ranges : List (Nat × Nat)) (c : Char) : Bool :=
  ranges.any fun (first, last) => first ≤ c.toNat && c.toNat ≤ last

example : inRanges [(0x30, 0x39), (0x61, 0x66)] 'c' = true := by decide

example : inRanges [(0x30, 0x39), (0x61, 0x66)] 'g' = false := by decide

end SchemaScaffold.Text
