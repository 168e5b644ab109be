import SchemaScaffold.Text.Split

/-! The lines of a text. A line ends at a line feed, and a carriage return right
before that line feed belongs to the ending. What follows the last line feed is
a line only if it is not empty, and it keeps its carriage returns. -/

namespace SchemaScaffold.Text

def dropReturn (line : List Char) : List Char :=
  match line.reverse with
  | '\r' :: rest => rest.reverse
  | _ => line

/-- All pieces but the last were ended by a line feed. -/
def linesOfPieces : List (List Char) → List (List Char)
  | [] => []
  | [last] => if last.isEmpty then [] else [last]
  | piece :: piece' :: rest => dropReturn piece :: linesOfPieces (piece' :: rest)

def lines (text : List Char) : List (List Char) :=
  linesOfPieces (splitWhere (· == '\n') text)

example : lines ['a', '\r', '\n', '\n', 'b', '\r'] = [['a'], [], ['b', '\r']] := by decide

example : lines ['a', '\n'] = [['a']] := by decide

end SchemaScaffold.Text
