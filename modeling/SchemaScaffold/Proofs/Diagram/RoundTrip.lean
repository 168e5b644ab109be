import SchemaScaffold.Proofs.Diagram.Formats
import SchemaScaffold.Proofs.Json.ShapeResults

/-! A diagram that was read can be written and read again. Whatever its text was
like, the diagram is written as objects with their members in one order, without
the options that it does not have. -/

namespace SchemaScaffold

open Json

/-! ## Defaults -/

namespace Json

/-- A value that can be written and read again: no key occurs twice, and every
number is a stored integer. -/
def Value.IsWritable (depth : Nat) : Value → Prop :=
  Value.Bounded (fun value => value.keys.Nodup ∧ value.HasStoredNumber) depth

theorem Value.IsRead.isWritable {depth : Nat} {value : Value} (isRead : value.IsRead depth)
    (noFloat : value.HasNoFloat) : value.IsWritable depth where
  everywhere := by
    have distinct : value.Distinct := isRead.sorted.distinct
    apply ((isRead.everywhere.and noFloat).and distinct).mono
    intro value holds
    rcases holds with ⟨⟨⟨_, fits⟩, noFloat⟩, distinct⟩
    refine ⟨distinct, ?_⟩
    cases value with
    | number number =>
        cases number with
        | integer value => exact fits
        | float value => exact noFloat
    | _ => trivial
  shallow := isRead.shallow

end Json

/-- A default is a value that can be read inside the brackets of a field. -/
def DrawnField.HasReadDefault (depth : Nat) (field : DrawnField) : Prop :=
  ∀ value ∈ field.default, value.IsRead depth ∧ value ≠ .null

theorem DrawnField.hasReadDefault_ofShape {depth : Nat} {contents : DrawnField.shape.Denote}
    (isRead : DrawnField.shape.IsRead (depth + 1) contents) :
    (DrawnField.ofShape contents).HasReadDefault depth := by
  rcases contents with ⟨name, typeTag, required, unique, default, list, id, ⟨⟩⟩
  rcases isRead with ⟨_, _, _, _, defaultRead, _⟩
  intro value isDefault
  rcases default with _ | _ | inner
  · cases isDefault
  · cases isDefault
  · cases isDefault
    exact defaultRead (some value) rfl value rfl

theorem Node.hasReadDefault_ofShape {depth : Nat} {contents : Node.shape.Denote}
    (isRead : Node.shape.IsRead (depth + 4) contents) :
    ∀ field ∈ (Node.ofShape contents).fields, field.HasReadDefault depth := by
  rcases contents with ⟨id, ⟨label, fields, ⟨⟩⟩, ⟨⟩⟩
  rcases isRead with ⟨_, ⟨_, fieldsRead, _⟩, _⟩
  intro field isField
  rcases List.mem_map.mp isField with ⟨contents, isContents, rfl⟩
  exact DrawnField.hasReadDefault_ofShape (fieldsRead contents isContents)

namespace Diagram

/-- Six brackets are open around a default: those of the diagram, the list of
nodes, a node, its data, the list of fields and a field. -/
theorem hasReadDefault_of_ofText {text : String} {diagram : Diagram}
    (read : ofText text = .ok diagram) :
    ∀ node ∈ diagram.nodes, ∀ field ∈ node.fields, field.HasReadDefault 121 := by
  rcases outcome : shape.ofText text with fault | contents
  · rw [ofText, outcome] at read
    cases read
  · rw [ofText, outcome] at read
    cases read
    rcases Shape.isRead_ofText outcome with ⟨nodesRead, _⟩
    intro node isNode
    rcases List.mem_map.mp isNode with ⟨contents, isContents, rfl⟩
    exact Node.hasReadDefault_ofShape (nodesRead contents isContents)

end Diagram

/-! ## The written value -/

namespace Json

theorem map_eq_ok {result : Except ε α} {change : α → β} {final : β} :
    result.map change = .ok final ↔ ∃ value, result = .ok value ∧ change value = final := by
  cases result <;> simp [Except.map]

theorem toOption_eq_some {result : Except ε α} {value : α} :
    result.toOption = some value ↔ result = .ok value := by
  cases result <;> simp [Except.toOption]

theorem valueOf?_append (key : String) (entries others : List (String × Value)) :
    valueOf? key (entries ++ others) = (valueOf? key entries).or (valueOf? key others) := by
  rw [valueOf?, valueOf?, valueOf?, List.find?_append, Option.map_or]

theorem present?_of_ne_null {value? : Option Value} (notNull : value? ≠ some .null) :
    present? value? = value? := by
  rw [present?.eq_def]
  split
  · exact absurd rfl notNull
  · rfl

theorem map_ne_null {toValue : α → Value} (notNull : ∀ contents, toValue contents ≠ .null)
    (contents : Option α) : contents.map toValue ≠ some .null := by
  cases contents with
  | none => simp
  | some contents => simpa using notNull contents

end Json

namespace DrawnField

theorem valueOf?_optional (key name : String) (toValue : α → Value) (contents : Option α) :
    valueOf? key (optionalMember name toValue contents)
      = if name == key then contents.map toValue else none := by
  cases contents with
  | none => simp [optionalMember, valueOf?]
  | some contents =>
      simp only [optionalMember, valueOf?, List.find?_cons]
      cases name == key <;> rfl

theorem draws_toValue {field : DrawnField} (notNull : ∀ value ∈ field.default, value ≠ .null) :
    field.toValue.DrawsField field := by
  refine ⟨field.required.map .bool, field.unique.map .bool, field.default, field.list.map .bool,
    field.id.map .string, ?_, ?_, ?_, ?_, ?_, ?_⟩
  · simp only [toValue, Value.slots?, List.map_cons, List.map_nil, valueOf?_append,
      valueOf?_optional]
    simp [valueOf?]
  · exact present?_of_ne_null (map_ne_null (by simp) _)
  · exact present?_of_ne_null (map_ne_null (by simp) _)
  · exact present?_of_ne_null fun isNull => notNull .null isNull rfl
  · exact present?_of_ne_null (map_ne_null (by simp) _)
  · exact present?_of_ne_null (map_ne_null (by simp) _)

/-- The keys of a field that has all options. -/
def keys : List String := ["name", "type", "required", "unique", "default", "list", "id"]

theorem keys_toValue_sublist (field : DrawnField) : field.toValue.keys.Sublist keys := by
  have option : ∀ {α : Type} (name : String) (toValue : α → Value) (contents : Option α),
      ((optionalMember name toValue contents).map Prod.fst).Sublist [name] := by
    intro α name toValue contents
    cases contents <;> simp [optionalMember]
  simp only [toValue, Value.keys, List.map_append]
  exact (((((List.Sublist.refl ["name", "type"]).append (option _ _ _)).append
    (option _ _ _)).append (option _ _ _)).append (option _ _ _)).append (option _ _ _)

/-- Every member of a written field is a scalar, or its default. -/
theorem mem_children_toValue {field : DrawnField} {child : Value}
    (inside : child ∈ field.toValue.children) :
    (∃ flag, child = .bool flag) ∨ (∃ text, child = .string text) ∨ child ∈ field.default := by
  have option : ∀ {α : Type} (name : String) (toValue : α → Value) (contents : Option α),
      child ∈ (optionalMember name toValue contents).map Prod.snd →
        ∃ inner ∈ contents, child = toValue inner := by
    intro α name toValue contents isMember
    cases contents <;> simp_all [optionalMember]
  simp only [toValue, Value.children, List.map_append, List.mem_append, List.map_cons,
    List.map_nil, List.mem_cons, List.not_mem_nil, or_false] at inside
  rcases inside with (((((isName | isTag) | isFlag) | isFlag) | isDefault) | isFlag) | isId
  · exact .inr (.inl ⟨_, isName⟩)
  · exact .inr (.inl ⟨_, isTag⟩)
  · rcases option _ _ _ isFlag with ⟨flag, _, equal⟩
    exact .inl ⟨flag, equal⟩
  · rcases option _ _ _ isFlag with ⟨flag, _, equal⟩
    exact .inl ⟨flag, equal⟩
  · rcases option _ _ _ isDefault with ⟨inner, isInner, rfl⟩
    exact .inr (.inr isInner)
  · rcases option _ _ _ isFlag with ⟨flag, _, equal⟩
    exact .inl ⟨flag, equal⟩
  · rcases option _ _ _ isId with ⟨text, _, equal⟩
    exact .inr (.inl ⟨text, equal⟩)

theorem isWritable_toValue {depth : Nat} {field : DrawnField}
    (writable : ∀ value ∈ field.default, value.IsWritable depth) :
    field.toValue.IsWritable (depth + 1) := by
  have distinct : field.toValue.keys.Nodup :=
    List.Nodup.sublist (keys_toValue_sublist field) (by decide)
  refine Value.Bounded.object ⟨distinct, trivial⟩ fun member isMember => ?_
  rcases mem_children_toValue (List.mem_map_of_mem (f := Prod.snd) isMember) with
    ⟨flag, equal⟩ | ⟨text, equal⟩ | isDefault
  · rw [equal]
    exact .scalar rfl rfl ⟨.nil, trivial⟩
  · rw [equal]
    exact .scalar rfl rfl ⟨.nil, trivial⟩
  · exact writable member.2 isDefault

end DrawnField

namespace Edge

theorem draws_toValue (edge : Edge) : edge.toValue.DrawsEdge edge := by
  refine ⟨some ((edge.targetHandle.map Value.string).getD .null), ?_, ?_⟩
  · simp [toValue, Value.slots?, valueOf?]
  · cases edge.targetHandle <;> rfl

theorem isWritable_toValue (edge : Edge) (depth : Nat) : edge.toValue.IsWritable (depth + 1) := by
  refine Value.Bounded.object ⟨by simp [Value.keys], trivial⟩ ?_
  simp only [List.forall_mem_cons, List.not_mem_nil, false_implies, implies_true, and_true]
  refine ⟨.scalar rfl rfl ⟨.nil, trivial⟩, .scalar rfl rfl ⟨.nil, trivial⟩, ?_⟩
  cases edge.targetHandle <;> exact .scalar rfl rfl ⟨.nil, trivial⟩

end Edge

namespace Node

theorem draws_toValue {node : Node}
    (notNull : ∀ field ∈ node.fields, ∀ value ∈ field.default, value ≠ .null) :
    node.toValue.DrawsNode node := by
  refine ⟨.object [("label", .string node.label),
    ("fields", .array (node.fields.map DrawnField.toValue))],
    node.fields.map DrawnField.toValue, ?_, ?_, ?_⟩
  · simp [toValue, Value.slots?, valueOf?]
  · simp [Value.slots?, valueOf?]
  · rw [List.forall₂_map_left_iff, List.forall₂_same]
    exact fun field isField => DrawnField.draws_toValue (notNull field isField)

theorem isWritable_toValue {depth : Nat} {node : Node}
    (writable : ∀ field ∈ node.fields, ∀ value ∈ field.default, value.IsWritable depth) :
    node.toValue.IsWritable (depth + 4) := by
  have fields : Value.IsWritable (depth + 2) (.array (node.fields.map DrawnField.toValue)) := by
    refine Value.Bounded.array ⟨.nil, trivial⟩ (List.forall_mem_map.mpr fun field isField => ?_)
    exact DrawnField.isWritable_toValue (writable field isField)
  have data : Value.IsWritable (depth + 3) (.object [("label", .string node.label),
      ("fields", .array (node.fields.map DrawnField.toValue))]) := by
    refine Value.Bounded.object ⟨by simp [Value.keys], trivial⟩ ?_
    simp only [List.forall_mem_cons, List.not_mem_nil, false_implies, implies_true, and_true]
    exact ⟨.scalar rfl rfl ⟨.nil, trivial⟩, fields⟩
  refine Value.Bounded.object ⟨by simp [Value.keys], trivial⟩ ?_
  simp only [List.forall_mem_cons, List.not_mem_nil, false_implies, implies_true, and_true]
  exact ⟨.scalar rfl rfl ⟨.nil, trivial⟩, data⟩

end Node

namespace Diagram

/-- What reading needs to know of a diagram's defaults to give them back. -/
def HasWritableDefaults (diagram : Diagram) : Prop :=
  ∀ node ∈ diagram.nodes, ∀ field ∈ node.fields, ∀ value ∈ field.default,
    value.IsWritable 121 ∧ value.Sorted ∧ value ≠ .null

variable {diagram : Diagram}

theorem draws_toValue (defaults : diagram.HasWritableDefaults) :
    diagram.toValue.Draws diagram := by
  refine ⟨diagram.nodes.map Node.toValue, diagram.edges.map Edge.toValue, ?_, ?_, ?_⟩
  · simp [toValue, Value.slots?, valueOf?]
  · rw [List.forall₂_map_left_iff, List.forall₂_same]
    exact fun node isNode => Node.draws_toValue fun field isField value isDefault =>
      (defaults node isNode field isField value isDefault).2.2
  · rw [List.forall₂_map_left_iff, List.forall₂_same]
    exact fun edge _ => edge.draws_toValue

theorem isWritable_toValue (defaults : diagram.HasWritableDefaults) :
    diagram.toValue.IsWritable Reader.deepest := by
  have nodes : Value.IsWritable 126 (.array (diagram.nodes.map Node.toValue)) := by
    refine Value.Bounded.array ⟨.nil, trivial⟩ (List.forall_mem_map.mpr fun node isNode => ?_)
    exact Node.isWritable_toValue fun field isField value isDefault =>
      (defaults node isNode field isField value isDefault).1
  have edges : Value.IsWritable 126 (.array (diagram.edges.map Edge.toValue)) := by
    refine Value.Bounded.array ⟨.nil, trivial⟩ (List.forall_mem_map.mpr fun edge _ => ?_)
    exact edge.isWritable_toValue _
  refine Value.Bounded.object ⟨by simp [Value.keys], trivial⟩ ?_
  simp only [List.forall_mem_cons, List.not_mem_nil, false_implies, implies_true, and_true]
  exact ⟨nodes, edges⟩

/-- Only a default is taken whole, and its members are in order. -/
theorem takesSorted_toValue (defaults : diagram.HasWritableDefaults) :
    shape.TakesSorted diagram.toValue := by
  simp only [Shape.TakesSorted, Members.TakesSorted, implies_true, and_true, true_and]
  intro list isList
  have lists : list = .array (diagram.nodes.map Node.toValue)
      ∨ list = .array (diagram.edges.map Edge.toValue) := by
    simpa [toValue, Value.children] using isList
  intro element isElement part isPart fieldList isFieldList field isField value isValue
  rcases lists with rfl | rfl
  · rcases List.mem_map.mp isElement with ⟨node, isNode, rfl⟩
    have parts : part = .string node.id ∨ part = .object [("label", .string node.label),
        ("fields", .array (node.fields.map DrawnField.toValue))] := by
      simpa [Node.toValue, Value.children] using isPart
    rcases parts with rfl | rfl
    · cases isFieldList
    · have inData : fieldList = .string node.label
          ∨ fieldList = .array (node.fields.map DrawnField.toValue) := by
        simpa [Value.children] using isFieldList
      rcases inData with rfl | rfl
      · cases isField
      · rcases List.mem_map.mp isField with ⟨drawn, isDrawn, rfl⟩
        rcases DrawnField.mem_children_toValue isValue with ⟨_, rfl⟩ | ⟨_, rfl⟩ | isDefault
        · exact Value.Everywhere.bool_iff.mpr .nil
        · exact Value.Everywhere.string_iff.mpr .nil
        · exact (defaults node isNode drawn isDrawn value isDefault).2.1
  · rcases List.mem_map.mp isElement with ⟨edge, _, rfl⟩
    have scalar : part.children = [] := by
      have parts : part = .string edge.source ∨ part = .string edge.target
          ∨ part = (edge.targetHandle.map Value.string).getD .null := by
        simpa [Edge.toValue, Value.children] using isPart
      rcases parts with rfl | rfl | rfl
      · rfl
      · rfl
      · cases edge.targetHandle <;> rfl
    rw [scalar] at isFieldList
    cases isFieldList

/-! ## Writing and reading -/

theorem ofText_toValue (defaults : diagram.HasWritableDefaults) :
    ofText diagram.toValue.compact = .ok diagram := by
  have writable := isWritable_toValue defaults
  have distinct : diagram.toValue.Distinct := writable.everywhere.mono fun _ here => here.1
  have integral : diagram.toValue.Integral := writable.everywhere.mono fun _ here => here.2
  have same := Shape.ofText_compact hasNoChoice_shape distinct (takesSorted_toValue defaults)
    integral writable.shallow
  rcases map_eq_ok.mp ((ofValue_iff_draws distinct).mpr (draws_toValue defaults)) with
    ⟨contents, converted, isDiagram⟩
  rw [converted] at same
  exact map_eq_ok.mpr ⟨contents, toOption_eq_some.mp same, isDiagram⟩

/-- No default of the diagram contains a number that is kept as a float. -/
def HasNoFloat (diagram : Diagram) : Prop :=
  ∀ node ∈ diagram.nodes, ∀ field ∈ node.fields, ∀ value ∈ field.default, value.HasNoFloat

theorem hasWritableDefaults_of_ofText {text : String} (read : ofText text = .ok diagram)
    (noFloat : diagram.HasNoFloat) : diagram.HasWritableDefaults := by
  intro node isNode field isField value isDefault
  rcases hasReadDefault_of_ofText read node isNode field isField value isDefault with
    ⟨isRead, notNull⟩
  exact ⟨isRead.isWritable (noFloat node isNode field isField value isDefault), isRead.sorted,
    notNull⟩

theorem read_eq_ok {source : Source} :
    read source = .ok diagram ↔ ofText source.text = .ok diagram := by
  rw [read]
  cases ofText source.text <;> simp [Except.mapError]

/-- However a diagram was written when it was read, its own compact form is read
as the same diagram. -/
theorem read_written {source : Source} (accepted : read source = .ok diagram)
    (noFloat : diagram.HasNoFloat) (name : String) :
    read ⟨name, diagram.toValue.compact⟩ = .ok diagram := by
  have defaults := hasWritableDefaults_of_ofText (read_eq_ok.mp accepted) noFloat
  exact read_eq_ok.mpr (ofText_toValue defaults)

/-- What was written as lists is written as objects. -/
theorem read_written_mixedForms :
    ∃ diagram, read ⟨"diagram.json", mixedForms.compact⟩ = .ok diagram ∧ diagram.HasNoFloat ∧
      diagram.toValue.compact ≠ mixedForms.compact ∧
      read ⟨"written.json", diagram.toValue.compact⟩ = .ok diagram := by
  rcases read_or_convert "diagram.json" sorted_mixedForms integral_mixedForms (by decide) with
    ⟨diagram, accepted, converted⟩ | ⟨_, _, failed⟩
  · cases converted
    refine ⟨_, accepted, ?noFloat, ?_, read_written accepted ?noFloat "written.json"⟩
    case noFloat =>
      simp [HasNoFloat, ofShape, Node.ofShape, DrawnField.ofShape, Value.HasNoFloat,
        Value.Everywhere.object_iff, Value.Everywhere.number_iff, Value.IsNoFloat]
    decide +kernel
  · cases failed

end Diagram

end SchemaScaffold
