import SchemaScaffold.Proofs.Diagram.Handles
import SchemaScaffold.Proofs.Text.LatinLetters

/-! Which collection a reference field is bound to. Two searches decide it, the
first for an edge that leads to the field and the second for the node that the
edge comes from. Only the edges that lead to the field take part in the first,
so a field does not change with the others. -/

namespace SchemaScaffold

/-- The value is the first of the list for which the property holds. -/
def IsFirst (holds : α → Prop) (list : List α) (value : α) : Prop :=
  ∃ before after, list = before ++ value :: after ∧ holds value ∧ ∀ other ∈ before, ¬ holds other

theorem find?_eq_some_iff_isFirst {test : α → Bool} {holds : α → Prop}
    (decides : ∀ value, holds value ↔ test value = true) {list : List α} {value : α} :
    list.find? test = some value ↔ IsFirst holds list value := by
  simp only [List.find?_eq_some_iff_append, IsFirst, decides, Bool.not_eq_true', Bool.not_eq_true]
  constructor
  · rintro ⟨here, before, after, equal, noneBefore⟩
    exact ⟨before, after, equal, here, noneBefore⟩
  · rintro ⟨before, after, equal, here, noneBefore⟩
    exact ⟨here, before, after, equal, noneBefore⟩

/-! ## Reference fields -/

/-- The tag is `ref`, each letter capital or small. -/
def DrawnField.IsReference (field : DrawnField) : Prop :=
  ∃ r ∈ ['r', 'R'], ∃ e ∈ ['e', 'E'], ∃ f ∈ ['f', 'F'], field.typeTag = String.ofList [r, e, f]

namespace FieldKind

theorem ofTag_eq_ref_iff {tag : String} : ofTag tag = .ref ↔ Text.lowercaseLatin tag = "ref" := by
  rw [ofTag]
  split <;> simp_all

end FieldKind

theorem DrawnField.isReference_iff {field : DrawnField} :
    field.IsReference ↔ FieldKind.ofTag field.typeTag = .ref := by
  have spelled : Text.IsSpelledIn [⟨'r', 'R', by decide, rfl⟩, ⟨'e', 'E', by decide, rfl⟩,
      ⟨'f', 'F', by decide, rfl⟩] field.typeTag ↔ Text.lowercaseLatin field.typeTag = "ref" :=
    Text.isSpelledIn_iff
  rw [FieldKind.ofTag_eq_ref_iff, ← spelled, Text.IsSpelledIn]
  constructor
  · rintro ⟨r, isR, e, isE, f, isF, tag⟩
    rw [tag, String.toList_ofList]
    exact .cons isR (.cons isE (.cons isF .nil))
  · intro forms
    generalize tag : field.typeTag.toList = characters at forms
    rcases forms with _ | ⟨isR, _ | ⟨isE, _ | ⟨isF, _ | _⟩⟩⟩
    exact ⟨_, isR, _, isE, _, isF, String.toList_inj.mp (by rw [tag, String.toList_ofList])⟩

namespace Diagram

variable {diagram : Diagram} {node : Node} {index : Nat}

/-! ## The searches -/

/-- The first edge that leads to the field comes from a node with this label, or
from several of which the first has it. -/
def Binds (diagram : Diagram) (node : Node) (index : Nat) (label : String) : Prop :=
  ∃ edge, IsFirst (·.LeadsTo node index) diagram.edges edge ∧
    ∃ source, IsFirst (·.id = edge.source) diagram.nodes source ∧ source.label = label

theorem edgeTo?_eq_some {edge : Edge} :
    diagram.edgeTo? node (handle index) = some edge ↔
      IsFirst (·.LeadsTo node index) diagram.edges edge :=
  find?_eq_some_iff_isFirst fun _ => leadsTo_iff

theorem node?_eq_some {id : String} {source : Node} :
    diagram.node? id = some source ↔ IsFirst (·.id = id) diagram.nodes source :=
  find?_eq_some_iff_isFirst fun _ => beq_iff_eq.symm

theorem resolveByHandle_iff_binds {label : String} :
    resolveByHandle diagram node index = some label ↔ diagram.Binds node index label := by
  simp only [resolveByHandle, Option.bind_eq_some_iff, Option.map_eq_some_iff, edgeTo?_eq_some,
    node?_eq_some, Binds]

instance {edge : Edge} : Decidable (edge.LeadsTo node index) := decidable_of_iff _ leadsTo_iff.symm

/-- The other edges are passed over. -/
theorem edgeTo?_filter :
    diagram.edgeTo? node (handle index) = (diagram.edges.filter (·.LeadsTo node index)).head? := by
  rw [edgeTo?, ← List.head?_filter]
  congr 1
  exact List.filter_congr fun edge _ =>
    Bool.eq_iff_iff.mpr (by rw [decide_eq_true_eq, leadsTo_iff])

theorem resolveByHandle_congr {edges : List Edge}
    (same : edges.filter (·.LeadsTo node index) = diagram.edges.filter (·.LeadsTo node index)) :
    resolveByHandle { diagram with edges } node index = resolveByHandle diagram node index := by
  have sameEdge : ({ diagram with edges } : Diagram).edgeTo? node (handle index)
      = diagram.edgeTo? node (handle index) := by
    rw [edgeTo?_filter, edgeTo?_filter, same]
  rw [resolveByHandle, resolveByHandle, sameEdge]
  rfl

/-! ## The fields of the collections -/

/-- The field at an index of the collection at a position. -/
def fieldAt? (diagram : Diagram) (position index : Nat) : Option Field :=
  (diagram.collections[position]?).bind fun collection => collection.fields[index]?

theorem fieldAt?_eq {position : Nat} {drawn : DrawnField}
    (isNode : diagram.nodes[position]? = some node) (isField : node.fields[index]? = some drawn) :
    diagram.fieldAt? position index
      = some (drawn.toField (resolveByHandle diagram node index)) := by
  simp [fieldAt?, collections, collectionsWith, collectionOf, isNode, isField]

theorem reference_toField {drawn : DrawnField} {reference : Option String} {label : String} :
    (drawn.toField reference).reference = some label ↔
      drawn.IsReference ∧ reference = some label := by
  rw [DrawnField.isReference_iff, DrawnField.toField]
  split <;> simp_all

theorem fieldAt?_congr {position : Nat} {edges : List Edge}
    (isNode : diagram.nodes[position]? = some node)
    (same : edges.filter (·.LeadsTo node index) = diagram.edges.filter (·.LeadsTo node index)) :
    ({ diagram with edges } : Diagram).fieldAt? position index
      = diagram.fieldAt? position index := by
  simp [fieldAt?, collections, collectionsWith, collectionOf, isNode, resolveByHandle_congr same]

theorem collections_congr {edges : List Edge}
    (same : ∀ node ∈ diagram.nodes, ∀ index,
      edges.filter (·.LeadsTo node index) = diagram.edges.filter (·.LeadsTo node index)) :
    ({ diagram with edges } : Diagram).collections = diagram.collections := by
  refine List.map_congr_left fun node isNode => ?_
  simp only [collectionOf, resolveByHandle_congr (same node isNode _)]

/-- How the references of the collections come from the edges of a diagram. -/
structure ReferencesArePositional (diagram : Diagram) : Prop where
  /-- Every drawn field is found in the collections at its own place, and refers to
  what its position binds it to if it is drawn as a reference. -/
  bound : ∀ position node index drawn, diagram.nodes[position]? = some node →
    node.fields[index]? = some drawn →
      ∃ field, diagram.fieldAt? position index = some field ∧
        ∀ label, field.reference = some label ↔
          drawn.IsReference ∧ diagram.Binds node index label
  /-- Whatever is done to edges that do not lead to a field, the field stays the same. -/
  unaffected : ∀ position node index edges, diagram.nodes[position]? = some node →
    edges.filter (·.LeadsTo node index) = diagram.edges.filter (·.LeadsTo node index) →
      ({ diagram with edges } : Diagram).fieldAt? position index
        = diagram.fieldAt? position index
  distinct : Function.Injective handle
  /-- An edge leads to one field of a node at most. -/
  single : ∀ edge node index other, Edge.LeadsTo edge node index → edge.LeadsTo node other →
    index = other
  /-- An edge whose handle has a zero in front of the position binds nothing. -/
  canonical : ∀ before edge after behind, diagram.edges = before ++ edge :: after →
    behind ≠ "" → edge.targetHandle = some ("target-0" ++ behind) →
      ({ diagram with edges := before ++ after } : Diagram).collections = diagram.collections

theorem references_positional (diagram : Diagram) : diagram.ReferencesArePositional where
  bound position node index drawn isNode isField := by
    refine ⟨_, fieldAt?_eq isNode isField, fun label => ?_⟩
    rw [reference_toField, resolveByHandle_iff_binds]
  unaffected _ _ _ _ isNode same := fieldAt?_congr isNode same
  distinct := handle_injective
  single _ _ _ _ leads leadsAgain := leadsTo_unique leads leadsAgain
  canonical before edge after behind equal nonempty ends := by
    refine collections_congr fun node _ index => ?_
    have leadsNowhere : ¬ edge.LeadsTo node index := not_leadsTo_of_zero_in_front nonempty ends
    simp [equal, leadsNowhere]

/-- Two nodes with one id, and two edges to one field behind an edge that leads
nowhere. -/
def sharedIds : Diagram where
  nodes :=
    [⟨"1", "Tag", []⟩, ⟨"1", "Label", []⟩,
     ⟨"2", "Post", [⟨"title", "string", none, none, none, none, none⟩,
       ⟨"tag", "Ref", none, none, none, none, none⟩]⟩]
  edges := [⟨"2", "2", some "target-01"⟩, ⟨"1", "2", some "target-1"⟩, ⟨"2", "2", some "target-1"⟩]

/-- The first edge and the first node count. -/
theorem references_positional_sharedIds :
    ∃ field, sharedIds.fieldAt? 2 1 = some field ∧ field.reference = some "Tag" := by
  rcases (references_positional sharedIds).bound 2 _ 1 _ rfl rfl with ⟨field, found, bound⟩
  refine ⟨field, found, (bound "Tag").mpr ⟨⟨'R', by decide, 'e', by decide, 'f', by decide, rfl⟩,
    ⟨"1", "2", some "target-1"⟩, ⟨[_], [_], rfl, ?leads, ?nowhere⟩, _, ⟨[], _, rfl, rfl, ?none⟩,
    rfl⟩⟩
  case leads => exact ⟨rfl, _, rfl, IsDecimal.toDigits 1⟩
  case nowhere =>
    intro other isBefore
    rw [List.mem_singleton] at isBefore
    have padded : other.targetHandle = some ("target-0" ++ "1") := by rw [isBefore]; rfl
    exact not_leadsTo_of_zero_in_front (by decide) padded
  case none => simp

end Diagram

end SchemaScaffold
