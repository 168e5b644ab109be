import SchemaScaffold.Diagram.Collections
import SchemaScaffold.Problem

/-! Diagrams and collections from a text or from a decoded value. -/

namespace SchemaScaffold.Diagram

def read (source : Source) : Except Problem Diagram :=
  (ofText source.text).mapError fun fault => .badDiagram (.ofFault source fault)

/-- A decoded value is shown in its pretty form, without a place in it. -/
def valueSource (value : Json.Value) : Source := ⟨"<project flow>", value.pretty⟩

def convert (value : Json.Value) : Except Problem Diagram :=
  (ofValue value).mapError fun reason => .badDiagram ⟨valueSource value, none, reason.message⟩

def readCollections (source : Source) : Except Problem (List Collection) :=
  (read source).map collections

def convertCollections (value : Json.Value) : Except Problem (List Collection) :=
  (convert value).map collections

end SchemaScaffold.Diagram
