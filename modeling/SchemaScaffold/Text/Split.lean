/-! Cutting a list at the elements that satisfy a test, or around a part of it.
The cuts themselves are dropped and the pieces, which may be empty, are one more
than the cuts. -/

namespace SchemaScaffold.Text

def splitWhere (isCut : α → Bool) : List α → List (List α)
  | [] => [[]]
  | head :: rest =>
      if isCut head then
        [] :: splitWhere isCut rest
      else
        match splitWhere isCut rest with
        | [] => [[head]]
        | piece :: pieces => (head :: piece) :: pieces

example : splitWhere (· == 0) [1, 2, 0, 0, 3] = [[1, 2], [], [3]] := by decide

theorem splitWhere_ne_nil (isCut : α → Bool) (values : List α) :
    splitWhere isCut values ≠ [] := by
  cases values with
  | nil => simp [splitWhere]
  | cons head rest =>
      unfold splitWhere
      split
      · simp
      · split <;> simp

/-- The pieces of a text between two neighbouring cuts. -/
def pieces (isCut : Char → Bool) (text : String) : List String :=
  (splitWhere isCut text.toList).map String.ofList

/-- What stands in front of the first occurrence of a part, and what behind it. -/
def around? [BEq α] (part : List α) : List α → Option (List α × List α)
  | [] => if part.isEmpty then some ([], []) else none
  | head :: rest =>
      if part.isPrefixOf (head :: rest) then some ([], (head :: rest).drop part.length)
      else (around? part rest).map fun found => (head :: found.1, found.2)

example : around? [2, 3] [1, 2, 2, 3, 4] = some ([1, 2], [4]) := by decide

end SchemaScaffold.Text
