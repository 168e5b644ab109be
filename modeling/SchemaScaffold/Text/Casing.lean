import SchemaScaffold.Text.CaseContext
import SchemaScaffold.Text.CaseTable

/-! Capital and small forms of characters and texts. A character may have a
form of several characters; one without a form of its own stays as it is. -/

namespace SchemaScaffold.Text

def mapped (expansions : List (Nat × List Nat)) (runs : List CaseRun) (c : Char) : List Char :=
  match expansions.find? fun (code, _) => code == c.toNat with
  | some (_, codes) => codes.map Char.ofNat
  | none =>
      match runs.find? fun run => run.covers c.toNat with
      | some run => [Char.ofNat (run.apply c.toNat)]
      | none => [c]

def upper (c : Char) : List Char := mapped upperExpansions upperRuns c

def lower (c : Char) : List Char := mapped lowerExpansions lowerRuns c

/-- The sharp s has a capital form of two letters. -/
example : upper 'ß' = ['S', 'S'] := by decide +kernel

example : lower 'É' = ['é'] := by decide +kernel

/-! Within a text only the capital sigma depends on its neighbours: it becomes
a final sigma when a letter comes before it and none comes after it, where
ignorable characters in between do not count. -/

def sigma : Char := 'Σ'

def finalSigma : Char := 'ς'

/-- Whether the first character that is not ignorable is a cased letter. -/
def meetsCased (characters : List Char) : Bool :=
  match characters.dropWhile isCaseIgnorable with
  | [] => false
  | c :: _ => isCased c

def endsWord (before after : List Char) : Bool :=
  meetsCased before && !meetsCased after

/-- `before` holds the characters already passed, the nearest first. -/
def lowerFrom (before : List Char) : List Char → List Char
  | [] => []
  | c :: rest =>
      (if c == sigma && endsWord before rest then [finalSigma] else lower c)
        ++ lowerFrom (c :: before) rest

def lowercase (text : String) : String := String.ofList (lowerFrom [] text.toList)

example : lowerFrom [] ['Α', 'Σ'] = ['α', 'ς'] := by decide +kernel

example : lowerFrom [] ['Σ', 'Α'] = ['σ', 'α'] := by decide +kernel

/-! The small forms of the 26 capital Latin letters alone. -/

def lowerLatin (c : Char) : Char :=
  if 'A' ≤ c ∧ c ≤ 'Z' then Char.ofNat (c.toNat + 32) else c

def lowercaseLatin (text : String) : String := String.ofList (text.toList.map lowerLatin)

end SchemaScaffold.Text
