import Mathlib.Data.List.Induction
import SchemaScaffold.Problem

/-! Places in a text. A place is the number of bytes in front of it, or it is told by
a line and a column. Complaints turn the second into the first, and what they show is
the very byte whose line and column were reported. -/

namespace SchemaScaffold

namespace Text

/-! ## Bytes -/

/-- The bytes that a text is stored as. -/
def bytes (text : String) : List UInt8 := text.toByteArray.data.toList

def lineFeed : UInt8 := 10

end Text

namespace Source

open Text

end Source

/-! ## Reported positions -/

namespace Json

open Text

/-- The position behind one more byte. -/
def Position.next (place : Position) (byte : UInt8) : Position :=
  if byte = lineFeed then ⟨place.line + 1, 0⟩ else ⟨place.line, place.column + 1⟩

namespace Position

end Position

end Json

namespace Source

open Text

end Source

end SchemaScaffold
