import SchemaScaffold.Text.CodeRange

/-! White space in the sense of the Unicode property, and what is left of a
text once it is taken off the ends. -/

namespace SchemaScaffold.Text

def blankRanges : List (Nat × Nat) :=
  [(0x9, 0xD), (0x20, 0x20), (0x85, 0x85), (0xA0, 0xA0), (0x1680, 0x1680), (0x2000, 0x200A),
   (0x2028, 0x2029), (0x202F, 0x202F), (0x205F, 0x205F), (0x3000, 0x3000)]

def isBlank (c : Char) : Bool := inRanges blankRanges c

/-- The property has 25 members. -/
example : (blankRanges.map fun (first, last) => last + 1 - first).sum = 25 := by decide

/-- The zero-width space is no white space. -/
example : isBlank (Char.ofNat 0x200B) = false := by decide

def trimStart (text : List Char) : List Char := text.dropWhile isBlank

def trimEnd (text : List Char) : List Char := (text.reverse.dropWhile isBlank).reverse

def trim (text : List Char) : List Char := trimEnd (trimStart text)

example : trim [' ', 'a', ' ', 'b', '\t', '\n'] = ['a', ' ', 'b'] := by decide

end SchemaScaffold.Text
