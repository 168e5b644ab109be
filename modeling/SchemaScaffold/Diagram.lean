import SchemaScaffold.Json.Shape.OfText
import SchemaScaffold.Json.Shape.OfValue

/-! The diagram in which a schema is drawn. Nodes are collections, and an edge
leads from the collection that is referred to, its source, to a field of the
one that refers to it, its target. Members that are not described here are
ignored, so that diagrams may carry more than generation needs. -/

namespace SchemaScaffold

structure DrawnField where
  name : String
  typeTag : String
  required : Option Bool
  unique : Option Bool
  default : Option Json.Value
  list : Option Bool
  id : Option String

structure Node where
  id : String
  label : String
  fields : List DrawnField

structure Edge where
  source : String
  target : String
  /-- Names the field of the target node. -/
  targetHandle : Option String

structure Diagram where
  nodes : List Node
  edges : List Edge

/-! ## Shapes -/

namespace DrawnField

@[reducible] def shape : Json.Shape :=
  .record "RawField" <|
    .required "name" .text <|
    .required "type" .text <|
    .optional "required" (.nullable .flag) <|
    .optional "unique" (.nullable .flag) <|
    .optional "default" (.nullable .anything) <|
    .optional "list" (.nullable .flag) <|
    .optional "id" (.nullable .text) .nil

/-- A null counts as a missing member. -/
def ofShape : shape.Denote → DrawnField
  | (name, typeTag, required, unique, default, list, id, ()) =>
      ⟨name, typeTag, required.join, unique.join, default.join, list.join, id.join⟩

/-- A member for a value that is present. -/
def optionalMember (key : String) (toValue : α → Json.Value) : Option α → List (String × Json.Value)
  | none => []
  | some value => [(key, toValue value)]

def toValue (field : DrawnField) : Json.Value :=
  .object <|
    [("name", .string field.name), ("type", .string field.typeTag)]
      ++ optionalMember "required" .bool field.required
      ++ optionalMember "unique" .bool field.unique
      ++ optionalMember "default" (fun value => value) field.default
      ++ optionalMember "list" .bool field.list
      ++ optionalMember "id" .string field.id

end DrawnField

namespace Node

@[reducible] def dataShape : Json.Shape :=
  .record "NodeData" <|
    .required "label" .text <|
    .required "fields" (.list DrawnField.shape) .nil

@[reducible] def shape : Json.Shape :=
  .record "Node" <|
    .required "id" .text <|
    .required "data" dataShape .nil

def ofShape : shape.Denote → Node
  | (id, (label, fields, ()), ()) => ⟨id, label, fields.map DrawnField.ofShape⟩

def toValue (node : Node) : Json.Value :=
  .object
    [("id", .string node.id),
     ("data", .object
       [("label", .string node.label), ("fields", .array (node.fields.map DrawnField.toValue))])]

end Node

namespace Edge

@[reducible] def shape : Json.Shape :=
  .record "Edge" <|
    .required "source" .text <|
    .required "target" .text <|
    .optional "targetHandle" (.nullable .text) .nil

def ofShape : shape.Denote → Edge
  | (source, target, targetHandle, ()) => ⟨source, target, targetHandle.join⟩

def toValue (edge : Edge) : Json.Value :=
  .object
    [("source", .string edge.source), ("target", .string edge.target),
     ("targetHandle", (edge.targetHandle.map Json.Value.string).getD .null)]

end Edge

namespace Diagram

@[reducible] def shape : Json.Shape :=
  .record "Graph" <|
    .required "nodes" (.list Node.shape) <|
    .required "edges" (.list Edge.shape) .nil

def ofShape : shape.Denote → Diagram
  | (nodes, edges, ()) => ⟨nodes.map Node.ofShape, edges.map Edge.ofShape⟩

/-- The diagram as a value, with the members in the order of the shapes. -/
def toValue (diagram : Diagram) : Json.Value :=
  .object
    [("nodes", .array (diagram.nodes.map Node.toValue)),
     ("edges", .array (diagram.edges.map Edge.toValue))]

def ofText (text : String) : Except Json.Fault Diagram :=
  (shape.ofText text).map ofShape

def ofValue (value : Json.Value) : Except Json.Reason Diagram :=
  (shape.ofValue value).map ofShape

/-- The first node with this id. -/
def node? (diagram : Diagram) (id : String) : Option Node :=
  diagram.nodes.find? fun node => node.id == id

end Diagram

end SchemaScaffold
