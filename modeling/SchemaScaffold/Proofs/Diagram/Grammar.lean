import Mathlib.Data.List.Forall2
import SchemaScaffold.Diagram.Source
import SchemaScaffold.Proofs.Json.Matching

/-! The values that are accepted as diagrams, and the diagram that each of them
draws. Every part may be an object, of which only the members named here count,
or the list of the values of these members. -/

namespace SchemaScaffold

namespace Json

/-- A null counts as a missing value. -/
def present? : Option Value → Option Value
  | some .null => none
  | value? => value?

namespace Value

def DrawsField (value : Value) (field : DrawnField) : Prop :=
  ∃ required unique default list id,
    value.slots? ["name", "type", "required", "unique", "default", "list", "id"]
        = some [some (.string field.name), some (.string field.typeTag),
            required, unique, default, list, id] ∧
      present? required = field.required.map .bool ∧
      present? unique = field.unique.map .bool ∧
      present? default = field.default ∧
      present? list = field.list.map .bool ∧
      present? id = field.id.map .string

def DrawsNode (value : Value) (node : Node) : Prop :=
  ∃ data fields,
    value.slots? ["id", "data"] = some [some (.string node.id), some data] ∧
      data.slots? ["label", "fields"] = some [some (.string node.label), some (.array fields)] ∧
      List.Forall₂ DrawsField fields node.fields

def DrawsEdge (value : Value) (edge : Edge) : Prop :=
  ∃ targetHandle,
    value.slots? ["source", "target", "targetHandle"]
        = some [some (.string edge.source), some (.string edge.target), targetHandle] ∧
      present? targetHandle = edge.targetHandle.map .string

/-- Nodes, fields and edges are drawn one by one and in order. -/
def Draws (value : Value) (diagram : Diagram) : Prop :=
  ∃ nodes edges,
    value.slots? ["nodes", "edges"] = some [some (.array nodes), some (.array edges)] ∧
      List.Forall₂ DrawsNode nodes diagram.nodes ∧
      List.Forall₂ DrawsEdge edges diagram.edges

end Value

/-! ## Scalars, options and lists -/

theorem ofValue_text_eq_ok {value : Value} {text : String} :
    Shape.text.ofValue value = .ok text ↔ value = .string text := by
  cases value <;> simp [Shape.ofValue, Shape.wrong]

theorem ofValue_flag_eq_ok {value : Value} {flag : Bool} :
    Shape.flag.ofValue value = .ok flag ↔ value = .bool flag := by
  cases value <;> simp [Shape.ofValue, Shape.wrong]

theorem ofValue_anything_eq_ok {value contents : Value} :
    Shape.anything.ofValue value = .ok contents ↔ value = contents := by
  simp [Shape.ofValue]

/-- A member that may be missing and may be null. -/
theorem takesOptional_nullable {inner : Shape} {toValue : inner.Denote → Value}
    (exactly : ∀ value contents, inner.ofValue value = .ok contents ↔ value = toValue contents)
    {value? : Option Value} {contents : Option inner.Denote} :
    (∃ head, TakesOptional (fun value => (Shape.nullable inner).ofValue value) value? head ∧
        head.join = contents) ↔
      present? value? = contents.map toValue := by
  rcases value? with _ | value
  · cases contents <;> simp [TakesOptional, present?]
  · by_cases isNull : value = .null
    · cases contents <;> simp [TakesOptional, present?, Shape.ofValue, isNull]
    · have converts : ∀ head, (Shape.nullable inner).ofValue value = .ok head ↔
          ∃ converted, value = toValue converted ∧ some converted = head := by
        intro head
        rw [Shape.ofValue]
        · simp only [bind_eq_ok, pure_eq_ok, exactly]
        · exact isNull
      have isPresent : present? (some value) = some value := by
        cases value <;> first | rfl | exact absurd rfl isNull
      simp only [TakesOptional, converts, isPresent]
      constructor
      · intro takes
        rcases takes with ⟨_, ⟨_, ⟨converted, equal, rfl⟩, rfl⟩, rfl⟩
        exact congrArg some equal
      · intro equal
        cases contents with
        | none => cases equal
        | some converted =>
            exact ⟨_, ⟨_, ⟨converted, Option.some.inj equal, rfl⟩, rfl⟩, rfl⟩

theorem ofValue_list_eq_ok {item : Shape} {value : Value} {contents : List item.Denote} :
    (Shape.list item).ofValue value = .ok contents ↔
      ∃ values, value = .array values ∧
        convertAll (fun value => item.ofValue value) values = .ok contents := by
  cases value <;> simp [Shape.ofValue, Shape.wrong]

/-- If every item of a list draws what it is converted to, so does the list. -/
theorem convertAll_iff_forall₂ {α β : Type} {convert : Value → Except Reason α} {change : α → β}
    {draws : Value → β → Prop} {values : List Value} {finals : List β}
    (each : ∀ value ∈ values, ∀ final,
      (∃ result, convert value = .ok result ∧ change result = final) ↔ draws value final) :
    (∃ results, convertAll convert values = .ok results ∧ results.map change = finals) ↔
      List.Forall₂ draws values finals := by
  induction values generalizing finals with
  | nil => simp [convertAll, eq_comm]
  | cons value others induction =>
      have here := each value (List.mem_cons_self ..)
      have later : ∀ finals, _ ↔ _ := fun finals =>
        @induction finals fun other isOther => each other (List.mem_cons_of_mem _ isOther)
      simp only [convertAll, bind_eq_ok, pure_eq_ok, List.forall₂_cons_left_iff, ← here, ← later]
      constructor
      · intro converts
        rcases converts with ⟨_, ⟨result, converted, results, all, rfl⟩, rfl⟩
        exact ⟨_, _, ⟨result, converted, rfl⟩, ⟨results, all, rfl⟩, rfl⟩
      · intro draws
        rcases draws with ⟨_, _, ⟨result, converted, rfl⟩, ⟨results, all, rfl⟩, rfl⟩
        exact ⟨_, ⟨result, converted, results, all, rfl⟩, rfl⟩

/-- The values of the members are inside the value. -/
theorem mem_children_of_slots? {keys : List String} {value inner : Value}
    {values : List (Option Value)} (slots : value.slots? keys = some values)
    (isSlot : some inner ∈ values) : inner ∈ value.children := by
  cases value with
  | object entries =>
      cases slots
      rcases List.mem_map.mp isSlot with ⟨key, _, found⟩
      rcases Option.map_eq_some_iff.mp found with ⟨entry, isEntry, rfl⟩
      exact List.mem_map_of_mem (List.mem_of_find?_eq_some isEntry)
  | array items =>
      rw [Value.slots?] at slots
      split at slots
      · cases slots
        rcases List.mem_append.mp isSlot with isItem | isPadding
        · rcases List.mem_map.mp isItem with ⟨_, isItem, equal⟩
          cases equal
          exact isItem
        · cases (List.mem_replicate.mp isPadding).2
      · cases slots
  | _ => cases slots

end Json

/-! ## Parts of a diagram -/

open Json

theorem DrawnField.ofValue_iff_draws {value : Value} {field : DrawnField}
    (distinct : value.Distinct) :
    (∃ contents, DrawnField.shape.ofValue value = .ok contents ∧
        DrawnField.ofShape contents = field) ↔
      value.DrawsField field := by
  constructor
  · intro converts
    rcases converts with ⟨⟨name, typeTag, required, unique, default, list, id, ⟨⟩⟩, converted, rfl⟩
    rcases (Shape.ofValue_record_eq_ok (by decide) distinct.here).mp converted with
      ⟨_, slots, _, _, rfl, isName, _, _, rfl, isTag, required', _, rfl, isRequired,
        unique', _, rfl, isUnique, default', _, rfl, isDefault, list', _, rfl, isList,
        id', _, rfl, isId, rfl⟩
    cases ofValue_text_eq_ok.mp isName
    cases ofValue_text_eq_ok.mp isTag
    refine ⟨required', unique', default', list', id', slots, ?_, ?_, ?_, ?_, ?_⟩
    · exact (takesOptional_nullable fun _ _ => ofValue_flag_eq_ok).mp ⟨_, isRequired, rfl⟩
    · exact (takesOptional_nullable fun _ _ => ofValue_flag_eq_ok).mp ⟨_, isUnique, rfl⟩
    · have found := (takesOptional_nullable fun _ _ => ofValue_anything_eq_ok).mp
        ⟨_, isDefault, rfl⟩
      exact found.trans Option.map_id'
    · exact (takesOptional_nullable fun _ _ => ofValue_flag_eq_ok).mp ⟨_, isList, rfl⟩
    · exact (takesOptional_nullable fun _ _ => ofValue_text_eq_ok).mp ⟨_, isId, rfl⟩
  · intro draws
    rcases draws with ⟨_, _, _, _, _, slots, isRequired, isUnique, isDefault, isList, isId⟩
    rcases (takesOptional_nullable fun _ _ => ofValue_flag_eq_ok).mpr isRequired with
      ⟨required, takesRequired, isRequired⟩
    rcases (takesOptional_nullable fun _ _ => ofValue_flag_eq_ok).mpr isUnique with
      ⟨unique, takesUnique, isUnique⟩
    rcases (takesOptional_nullable fun _ _ => ofValue_anything_eq_ok).mpr
        (isDefault.trans Option.map_id'.symm) with
      ⟨default, takesDefault, isDefault⟩
    rcases (takesOptional_nullable fun _ _ => ofValue_flag_eq_ok).mpr isList with
      ⟨list, takesList, isList⟩
    rcases (takesOptional_nullable fun _ _ => ofValue_text_eq_ok).mpr isId with
      ⟨id, takesId, isId⟩
    refine ⟨(field.name, field.typeTag, required, unique, default, list, id, ()), ?_, ?_⟩
    · exact (Shape.ofValue_record_eq_ok (by decide) distinct.here).mpr
        ⟨_, slots, _, _, rfl, ofValue_text_eq_ok.mpr rfl, _, _, rfl, ofValue_text_eq_ok.mpr rfl,
          _, _, rfl, takesRequired, _, _, rfl, takesUnique, _, _, rfl, takesDefault,
          _, _, rfl, takesList, _, _, rfl, takesId, rfl⟩
    · rw [DrawnField.ofShape, isRequired, isUnique, isDefault, isList, isId]

theorem Edge.ofValue_iff_draws {value : Value} {edge : Edge} (distinct : value.Distinct) :
    (∃ contents, Edge.shape.ofValue value = .ok contents ∧ Edge.ofShape contents = edge) ↔
      value.DrawsEdge edge := by
  constructor
  · intro converts
    rcases converts with ⟨⟨source, target, handle, ⟨⟩⟩, converted, rfl⟩
    rcases (Shape.ofValue_record_eq_ok (by decide) distinct.here).mp converted with
      ⟨_, slots, _, _, rfl, isSource, _, _, rfl, isTarget, handle', _, rfl, isHandle, rfl⟩
    cases ofValue_text_eq_ok.mp isSource
    cases ofValue_text_eq_ok.mp isTarget
    exact ⟨handle', slots, (takesOptional_nullable fun _ _ => ofValue_text_eq_ok).mp
      ⟨handle, isHandle, rfl⟩⟩
  · intro draws
    rcases draws with ⟨_, slots, isHandle⟩
    rcases (takesOptional_nullable fun _ _ => ofValue_text_eq_ok).mpr isHandle with
      ⟨handle, takesHandle, isHandle⟩
    refine ⟨(edge.source, edge.target, handle, ()), ?_, ?_⟩
    · exact (Shape.ofValue_record_eq_ok (by decide) distinct.here).mpr
        ⟨_, slots, _, _, rfl, ofValue_text_eq_ok.mpr rfl, _, _, rfl, ofValue_text_eq_ok.mpr rfl,
          _, _, rfl, takesHandle, rfl⟩
    · rw [Edge.ofShape, isHandle]

theorem Node.ofValue_iff_draws {value : Value} {node : Node} (distinct : value.Distinct) :
    (∃ contents, Node.shape.ofValue value = .ok contents ∧ Node.ofShape contents = node) ↔
      value.DrawsNode node := by
  constructor
  · intro converts
    rcases converts with ⟨⟨id, ⟨label, fields, ⟨⟩⟩, ⟨⟩⟩, converted, rfl⟩
    rcases (Shape.ofValue_record_eq_ok (by decide) distinct.here).mp converted with
      ⟨_, slots, _, _, rfl, isId, data, _, rfl, isData, rfl⟩
    cases ofValue_text_eq_ok.mp isId
    have distinctData : data.Distinct :=
      distinct.child (mem_children_of_slots? slots (by simp))
    rcases (Shape.ofValue_record_eq_ok (by decide) distinctData.here).mp isData with
      ⟨_, dataSlots, _, _, rfl, isLabel, list, _, rfl, areFields, rfl⟩
    cases ofValue_text_eq_ok.mp isLabel
    rcases ofValue_list_eq_ok.mp areFields with ⟨values, rfl, all⟩
    have distinctList : (Value.array values).Distinct :=
      distinctData.child (mem_children_of_slots? dataSlots (by simp))
    refine ⟨data, values, slots, dataSlots, ?_⟩
    exact (convertAll_iff_forall₂ fun value isValue _ =>
      DrawnField.ofValue_iff_draws (distinctList.item isValue)).mp ⟨fields, all, rfl⟩
  · intro draws
    rcases draws with ⟨data, values, slots, dataSlots, drawn⟩
    have distinctData : data.Distinct :=
      distinct.child (mem_children_of_slots? slots (by simp))
    have distinctList : (Value.array values).Distinct :=
      distinctData.child (mem_children_of_slots? dataSlots (by simp))
    rcases (convertAll_iff_forall₂ fun value isValue _ =>
      DrawnField.ofValue_iff_draws (distinctList.item isValue)).mpr drawn with
      ⟨fields, all, areFields⟩
    have isData : Node.dataShape.ofValue data = .ok (node.label, fields, ()) :=
      (Shape.ofValue_record_eq_ok (by decide) distinctData.here).mpr
        ⟨_, dataSlots, _, _, rfl, ofValue_text_eq_ok.mpr rfl, _, _, rfl,
          ofValue_list_eq_ok.mpr ⟨values, rfl, all⟩, rfl⟩
    refine ⟨(node.id, (node.label, fields, ()), ()), ?_, ?_⟩
    · exact (Shape.ofValue_record_eq_ok (by decide) distinct.here).mpr
        ⟨_, slots, _, _, rfl, ofValue_text_eq_ok.mpr rfl, _, _, rfl, isData, rfl⟩
    · rw [Node.ofShape, areFields]

namespace Diagram

theorem ofValue_iff_draws {value : Value} {diagram : Diagram} (distinct : value.Distinct) :
    ofValue value = .ok diagram ↔ value.Draws diagram := by
  have mapped : ofValue value = .ok diagram ↔
      ∃ contents, shape.ofValue value = .ok contents ∧ ofShape contents = diagram := by
    rw [ofValue]
    cases shape.ofValue value <;> simp [Except.map]
  rw [mapped]
  constructor
  · intro converts
    rcases converts with ⟨⟨nodes, edges, ⟨⟩⟩, converted, rfl⟩
    rcases (Shape.ofValue_record_eq_ok (by decide) distinct.here).mp converted with
      ⟨_, slots, nodeList, _, rfl, areNodes, edgeList, _, rfl, areEdges, rfl⟩
    rcases ofValue_list_eq_ok.mp areNodes with ⟨nodeValues, rfl, allNodes⟩
    rcases ofValue_list_eq_ok.mp areEdges with ⟨edgeValues, rfl, allEdges⟩
    have distinctNodes : (Value.array nodeValues).Distinct :=
      distinct.child (mem_children_of_slots? slots (by simp))
    have distinctEdges : (Value.array edgeValues).Distinct :=
      distinct.child (mem_children_of_slots? slots (by simp))
    refine ⟨nodeValues, edgeValues, slots, ?_, ?_⟩
    · exact (convertAll_iff_forall₂ fun value isValue _ =>
        Node.ofValue_iff_draws (distinctNodes.item isValue)).mp ⟨nodes, allNodes, rfl⟩
    · exact (convertAll_iff_forall₂ fun value isValue _ =>
        Edge.ofValue_iff_draws (distinctEdges.item isValue)).mp ⟨edges, allEdges, rfl⟩
  · intro draws
    rcases draws with ⟨nodeValues, edgeValues, slots, drawnNodes, drawnEdges⟩
    have distinctNodes : (Value.array nodeValues).Distinct :=
      distinct.child (mem_children_of_slots? slots (by simp))
    have distinctEdges : (Value.array edgeValues).Distinct :=
      distinct.child (mem_children_of_slots? slots (by simp))
    rcases (convertAll_iff_forall₂ fun value isValue _ =>
      Node.ofValue_iff_draws (distinctNodes.item isValue)).mpr drawnNodes with
      ⟨nodes, allNodes, areNodes⟩
    rcases (convertAll_iff_forall₂ fun value isValue _ =>
      Edge.ofValue_iff_draws (distinctEdges.item isValue)).mpr drawnEdges with
      ⟨edges, allEdges, areEdges⟩
    refine ⟨(nodes, edges, ()), ?_, ?_⟩
    · exact (Shape.ofValue_record_eq_ok (by decide) distinct.here).mpr
        ⟨_, slots, _, _, rfl, ofValue_list_eq_ok.mpr ⟨nodeValues, rfl, allNodes⟩, _, _, rfl,
          ofValue_list_eq_ok.mpr ⟨edgeValues, rfl, allEdges⟩, rfl⟩
    · rw [ofShape, areNodes, areEdges]

/-- A value is accepted if and only if it draws a diagram. It is converted to
just this diagram, and any other value is reported as a problem of the diagram. -/
theorem convert_iff_draws {value : Value} (distinct : value.Distinct) :
    (∀ diagram, convert value = .ok diagram ↔ value.Draws diagram) ∧
      ((∃ diagram, value.Draws diagram) ∨
        ∃ message, convert value = .error (.badDiagram ⟨valueSource value, none, message⟩)) := by
  have accepted : ∀ diagram, convert value = .ok diagram ↔ value.Draws diagram := by
    intro diagram
    rw [← ofValue_iff_draws distinct, convert]
    cases ofValue value <;> simp [Except.mapError]
  refine ⟨accepted, ?_⟩
  cases converted : ofValue value with
  | ok diagram => exact .inl ⟨diagram, (ofValue_iff_draws distinct).mp converted⟩
  | error reason =>
      refine .inr ⟨reason.message, ?_⟩
      rw [convert, converted]
      rfl

/-- Nodes, fields and edges as objects and as lists, with an option left out, a
null, a key that is not known and a text that needs escapes. -/
def mixedForms : Json.Value :=
  .object
    [("edges", .array [.array [.string "1", .string "2"]]),
     ("nodes", .array
       [.object
         [("data", .array
           [.string "Post",
            .array
             [.array [.string "title", .string "string", .null, .bool true],
              .object
               [("default", .object [("depth", .number (.integer (-3)))]),
                ("name", .string "\"options\"\n"),
                ("note", .array [.null, .array []]),
                ("type", .string "json")]]]),
          ("id", .string "1")]])]

open Json.Value.Everywhere in
theorem sorted_mixedForms : mixedForms.Sorted := by
  simp only [Value.Sorted, mixedForms, null_iff, bool_iff, number_iff, string_iff, array_iff,
    object_iff, Value.keys, List.forall_mem_cons, List.not_mem_nil, false_implies, implies_true,
    and_true, List.map]
  decide

theorem convert_mixedForms :
    mixedForms.Distinct ∧
      ∃ diagram, mixedForms.Draws diagram ∧
        (diagram.nodes.flatMap Node.fields).map DrawnField.unique = [some true, none] ∧
        diagram.edges.map Edge.targetHandle = [none] :=
  ⟨sorted_mixedForms.distinct, _,
    ((convert_iff_draws sorted_mixedForms.distinct).1 _).mp rfl, rfl, rfl⟩

end Diagram

end SchemaScaffold
