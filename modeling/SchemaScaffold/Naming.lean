import SchemaScaffold.Text.Blank
import SchemaScaffold.Text.Casing
import SchemaScaffold.Text.Split

/-! Identifiers made from the labels that users write on their collections.
A label is a sequence of words between underscores and white space. Every
generated name is one of two compounds of these words, so two labels with the
same words share all their names. -/

namespace SchemaScaffold.Naming

def isSeparator (c : Char) : Bool := c == '_' || Text.isBlank c

/-- The words of a label, none of them empty. -/
def words (label : List Char) : List (List Char) :=
  (Text.splitWhere isSeparator label).filter fun word => !word.isEmpty

example : words ['a', '_', '_', 'b', 'c', ' '] = [['a'], ['b', 'c']] := by decide +kernel

/-- A capital first letter before a small remainder. -/
def capitalize : List Char → List Char
  | [] => []
  | head :: rest => Text.upper head ++ rest.flatMap Text.lower

def pascalChars (label : List Char) : List Char :=
  (words label).flatMap capitalize

def uncapitalize : List Char → List Char
  | [] => []
  | head :: rest => Text.lower head ++ rest

def camelChars (label : List Char) : List Char :=
  uncapitalize (pascalChars label)

/-- The capitalized compound of a label's words. -/
def pascal (label : String) : String := String.ofList (pascalChars label.toList)

/-- The compound that starts with a small letter. -/
def camel (label : String) : String := String.ofList (camelChars label.toList)

/-- Labels with the same capitalized compound also share the other one. -/
theorem camel_eq_of_pascal_eq {label other : String} (equal : pascal label = pascal other) :
    camel label = camel other := by
  rw [camel, camel, camelChars, camelChars, String.ofList_injective equal]

/-- Capitals inside a word are folded. -/
example : pascalChars ['o', 'r', 'd', 'e', 'r', '_', 'I', 'D'] = ['O', 'r', 'd', 'e', 'r', 'I', 'd'] := by
  decide +kernel

example : camelChars ['U', 'R', 'L'] = ['u', 'r', 'l'] := by decide +kernel

/-- The path segment under which a collection is served. The plural is a plain
`s`, whatever the word. -/
def routeSegment (label : String) : String := camel label ++ "s"

/-- The path under which a collection is served. -/
def routePath (label : String) : String := "/api/" ++ routeSegment label

end SchemaScaffold.Naming
