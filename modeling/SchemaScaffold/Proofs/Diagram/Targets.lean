import SchemaScaffold.Diagram.Source

/-! References in the collections of a diagram. A field is resolved to the label
of a node, and each node becomes a collection, so no reference leads out of the
collections. -/

namespace SchemaScaffold.Diagram

variable {diagram : Diagram}

theorem mem_nodes_of_node? {id : String} {node : Node} (found : diagram.node? id = some node) :
    node ∈ diagram.nodes :=
  List.mem_of_find?_eq_some found

theorem resolveByHandle_eq_some {node : Node} {index : Nat} {label : String}
    (resolved : resolveByHandle diagram node index = some label) :
    ∃ source ∈ diagram.nodes, source.label = label := by
  rcases Option.bind_eq_some_iff.mp resolved with ⟨edge, _, found⟩
  rcases Option.map_eq_some_iff.mp found with ⟨source, isNode, equal⟩
  exact ⟨source, mem_nodes_of_node? isNode, equal⟩

theorem label_mem_collections {node : Node} (isNode : node ∈ diagram.nodes) :
    ∃ collection ∈ diagram.collections, collection.label = node.label :=
  ⟨_, List.mem_map_of_mem isNode, rfl⟩

/-- What a field of a diagram refers to is one of the diagram's collections. -/
theorem reference_mem_collections {collection : Collection} {field : Field} {label : String}
    (isCollection : collection ∈ diagram.collections) (isField : field ∈ collection.fields)
    (refers : field.reference = some label) :
    ∃ target ∈ diagram.collections, target.label = label := by
  rcases List.mem_map.mp isCollection with ⟨node, _, rfl⟩
  rcases List.mem_mapIdx.mp isField with ⟨index, _, rfl⟩
  rw [DrawnField.toField] at refers
  dsimp only at refers
  split at refers
  · rcases resolveByHandle_eq_some refers with ⟨source, isNode, rfl⟩
    exact label_mem_collections isNode
  · cases refers

theorem target_mem_collections {source : Source} {collections : List Collection}
    (accepted : readCollections source = .ok collections) {collection : Collection}
    (isCollection : collection ∈ collections) {field : Field} (isField : field ∈ collection.fields)
    {label : String} (refers : field.target? = some label) :
    ∃ target ∈ collections, target.label = label := by
  rw [readCollections] at accepted
  cases outcome : read source with
  | error problem =>
      rw [outcome] at accepted
      cases accepted
  | ok diagram =>
      rw [outcome] at accepted
      cases accepted
      rw [Field.target?] at refers
      split at refers
      · exact reference_mem_collections isCollection isField refers
      · cases refers

end SchemaScaffold.Diagram
