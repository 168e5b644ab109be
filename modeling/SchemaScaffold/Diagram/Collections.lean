import SchemaScaffold.Collection
import SchemaScaffold.Diagram

/-! The collections of a diagram: one for each node, in the same order and with
the same fields. -/

namespace SchemaScaffold

/-- Finds the label of the collection that the field at an index of a node
refers to. -/
abbrev Resolver := Diagram → Node → (index : Nat) → Option String

namespace Diagram

/-- The handle of the field at this index. -/
def handle (index : Nat) : String := "target-" ++ toString index

/-- The first edge that leads to a handle of a node. -/
def edgeTo? (diagram : Diagram) (node : Node) (handle : String) : Option Edge :=
  diagram.edges.find? fun edge => edge.target == node.id && edge.targetHandle == some handle

/-- Fields are bound to edges by their position. -/
def resolveByHandle : Resolver := fun diagram node index =>
  (diagram.edgeTo? node (handle index)).bind fun edge =>
    (diagram.node? edge.source).map Node.label

end Diagram

namespace DrawnField

/-- An empty text stands for a missing default. -/
def defaultValue? (field : DrawnField) : Option Json.Value :=
  match field.default with
  | some (.string "") => none
  | default => default

/-- The field, with the reference that was found for it if it is of a kind that
has one. -/
def toField (field : DrawnField) (reference : Option String) : Field :=
  { name := field.name
    typeTag := field.typeTag
    required := field.required.getD false
    unique := field.unique.getD false
    list := field.list.getD false
    default := field.defaultValue?
    reference := if FieldKind.ofTag field.typeTag == .ref then reference else none
    id := field.id }

end DrawnField

namespace Diagram

def collectionOf (diagram : Diagram) (resolver : Resolver) (node : Node) : Collection :=
  ⟨node.label, node.fields.mapIdx fun index field => field.toField (resolver diagram node index)⟩

def collectionsWith (diagram : Diagram) (resolver : Resolver) : List Collection :=
  diagram.nodes.map (diagram.collectionOf resolver)

def collections (diagram : Diagram) : List Collection :=
  diagram.collectionsWith resolveByHandle

end Diagram

end SchemaScaffold
