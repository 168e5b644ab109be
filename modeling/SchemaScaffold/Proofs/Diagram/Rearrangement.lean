import SchemaScaffold.Diagram.Collections

/-! Two diagrams that draw the same have the same collections: the order of the
edges, the order of the nodes and the ids of the nodes are only ways to write it
down. The searches of the resolver take the first of several, so the orders do
not matter where there are not several. -/

namespace SchemaScaffold

/-! ## Searches and rearrangements -/

theorem find?_eq_of_perm {test : α → Bool} {list other : List α} (perm : list.Perm other)
    (oneAtMost : list.Pairwise fun value another => ¬ (test value = true ∧ test another = true)) :
    list.find? test = other.find? test := by
  induction perm with
  | nil => rfl
  | cons value _ induction =>
      rw [List.find?_cons, List.find?_cons, induction oneAtMost.of_cons]
  | swap value another rest =>
      have notBoth := (List.pairwise_cons.mp oneAtMost).1 value List.mem_cons_self
      simp only [List.find?_cons]
      cases isValue : test value <;> cases isAnother : test another <;> simp_all
  | trans perm _ first second =>
      rw [first oneAtMost, second]
      exact (perm.pairwise_iff fun notBoth both => notBoth both.symm).mp oneAtMost

/-- The items at these positions. -/
def rearrange (order : List Nat) (items : List α) : List α :=
  order.filterMap (items[·]?)

theorem rearrange_map {change : α → β} {order : List Nat} {items : List α} :
    rearrange order (items.map change) = (rearrange order items).map change := by
  simp only [rearrange, List.getElem?_map, List.map_filterMap]

theorem rearrange_range (items : List α) : rearrange (List.range items.length) items = items := by
  induction items with
  | nil => rfl
  | cons item items induction =>
      rw [rearrange, List.length_cons, List.range_succ_eq_map, List.filterMap_cons,
        List.filterMap_map]
      exact congrArg (item :: ·) induction

theorem rearrange_perm {order : List Nat} {items : List α}
    (permutes : order.Perm (List.range items.length)) : (rearrange order items).Perm items := by
  have perm := permutes.filterMap (items[·]?)
  rwa [← rearrange, ← rearrange, rearrange_range] at perm

namespace Diagram

variable {diagram : Diagram}

/-- No search of the diagram finds several nodes or edges. -/
structure HasUniqueNames (diagram : Diagram) : Prop where
  nodes : (diagram.nodes.map Node.id).Nodup
  edges : (diagram.edges.map fun edge => (edge.target, edge.targetHandle)).Nodup

/-- The diagram with other ids. -/
def renameIds (rename : String → String) (diagram : Diagram) : Diagram where
  nodes := diagram.nodes.map fun node => { node with id := rename node.id }
  edges := diagram.edges.map fun edge =>
    { edge with source := rename edge.source, target := rename edge.target }

/-- A collection depends on the diagram only through what is resolved in it. -/
theorem collectionOf_congr {other : Diagram} {node another : Node}
    (label : node.label = another.label) (fields : node.fields = another.fields)
    (same : ∀ index, resolveByHandle diagram node index = resolveByHandle other another index) :
    diagram.collectionOf resolveByHandle node = other.collectionOf resolveByHandle another := by
  simp only [collectionOf, label, fields, same]

/-! ## Nodes -/

theorem node?_rearrange {nodes : List Node} (unique : diagram.HasUniqueNames)
    (perm : nodes.Perm diagram.nodes) (id : String) :
    ({ diagram with nodes } : Diagram).node? id = diagram.node? id := by
  refine (find?_eq_of_perm perm.symm ?_).symm
  refine (List.pairwise_map.mp unique.nodes).imp fun different both => different ?_
  rw [beq_iff_eq.mp both.1, beq_iff_eq.mp both.2]

theorem resolveByHandle_nodes {nodes : List Node} (unique : diagram.HasUniqueNames)
    (perm : nodes.Perm diagram.nodes) (node : Node) (index : Nat) :
    resolveByHandle { diagram with nodes } node index = resolveByHandle diagram node index := by
  simp only [resolveByHandle, node?_rearrange unique perm]
  rfl

theorem collections_rearrange {order : List Nat} (unique : diagram.HasUniqueNames)
    (permutes : order.Perm (List.range diagram.nodes.length)) :
    ({ diagram with nodes := rearrange order diagram.nodes } : Diagram).collections
      = rearrange order diagram.collections := by
  simp only [collections, collectionsWith, rearrange_map]
  exact List.map_congr_left fun node _ => collectionOf_congr rfl rfl
    (resolveByHandle_nodes unique (rearrange_perm permutes) node)

/-! ## Edges -/

theorem edgeTo?_rearrange {edges : List Edge} (unique : diagram.HasUniqueNames)
    (perm : edges.Perm diagram.edges) (node : Node) (handle : String) :
    ({ diagram with edges } : Diagram).edgeTo? node handle = diagram.edgeTo? node handle := by
  refine (find?_eq_of_perm perm.symm ?_).symm
  refine (List.pairwise_map.mp unique.edges).imp fun different both => different ?_
  simp only [Bool.and_eq_true, beq_iff_eq] at both
  rw [both.1.1, both.1.2, both.2.1, both.2.2]

theorem collections_edges {edges : List Edge} (unique : diagram.HasUniqueNames)
    (perm : edges.Perm diagram.edges) :
    ({ diagram with edges } : Diagram).collections = diagram.collections := by
  refine List.map_congr_left fun node _ => collectionOf_congr rfl rfl fun index => ?_
  simp only [resolveByHandle, edgeTo?_rearrange unique perm]
  rfl

/-! ## Ids -/

theorem rename_beq {rename : String → String} (injective : Function.Injective rename)
    (id other : String) : (rename id == rename other) = (id == other) := by
  rw [Bool.eq_iff_iff, beq_iff_eq, beq_iff_eq]
  exact injective.eq_iff

theorem node?_renameIds {rename : String → String} (injective : Function.Injective rename)
    (id : String) :
    (diagram.renameIds rename).node? (rename id)
      = (diagram.node? id).map fun node => { node with id := rename node.id } := by
  simp only [node?, renameIds, List.find?_map, Function.comp_def, rename_beq injective]

theorem edgeTo?_renameIds {rename : String → String} (injective : Function.Injective rename)
    (node : Node) (handle : String) :
    (diagram.renameIds rename).edgeTo? { node with id := rename node.id } handle
      = (diagram.edgeTo? node handle).map fun edge =>
          { edge with source := rename edge.source, target := rename edge.target } := by
  simp only [edgeTo?, renameIds, List.find?_map, Function.comp_def, rename_beq injective]

theorem resolveByHandle_renameIds {rename : String → String}
    (injective : Function.Injective rename) (node : Node) (index : Nat) :
    resolveByHandle (diagram.renameIds rename) { node with id := rename node.id } index
      = resolveByHandle diagram node index := by
  rw [resolveByHandle, resolveByHandle, edgeTo?_renameIds injective]
  cases diagram.edgeTo? node (handle index) with
  | none => rfl
  | some edge =>
      simp only [Option.map_some, Option.bind_some, node?_renameIds injective, Option.map_map]
      rfl

theorem collections_renameIds {rename : String → String} (injective : Function.Injective rename) :
    (diagram.renameIds rename).collections = diagram.collections := by
  refine List.map_map.trans (List.map_congr_left fun node _ => ?_)
  exact collectionOf_congr rfl rfl (resolveByHandle_renameIds injective node)

/-! ## All ways to write a diagram down -/

/-- The collections are the same for any order of the edges and any ids, and
follow the nodes in any order of these. -/
theorem collections_rearranged (unique : diagram.HasUniqueNames) :
    (∀ edges, edges.Perm diagram.edges →
      ({ diagram with edges } : Diagram).collections = diagram.collections) ∧
    (∀ order, order.Perm (List.range diagram.nodes.length) →
      ({ diagram with nodes := rearrange order diagram.nodes } : Diagram).collections
        = rearrange order diagram.collections) ∧
    (∀ rename, Function.Injective rename →
      (diagram.renameIds rename).collections = diagram.collections) :=
  ⟨fun _ => collections_edges unique, fun _ => collections_rearrange unique,
    fun _ => collections_renameIds⟩

/-- Posts that refer to tags and to posts. -/
def threaded : Diagram where
  nodes :=
    [⟨"1", "Tag", []⟩,
     ⟨"2", "Post", [⟨"tag", "ref", none, none, none, none, none⟩,
       ⟨"parent", "ref", none, none, none, none, none⟩]⟩]
  edges := [⟨"1", "2", some "target-0"⟩, ⟨"2", "2", some "target-1"⟩]

theorem collections_rearranged_threaded :
    threaded.HasUniqueNames ∧
    ({ threaded with edges := threaded.edges.reverse } : Diagram).collections
      = threaded.collections ∧
    ({ threaded with nodes := rearrange [1, 0] threaded.nodes } : Diagram).collections
      = rearrange [1, 0] threaded.collections ∧
    (threaded.renameIds ("node-" ++ ·)).collections = threaded.collections := by
  have unique : threaded.HasUniqueNames := ⟨by decide, by decide⟩
  rcases collections_rearranged unique with ⟨edges, nodes, ids⟩
  refine ⟨unique, edges _ (List.reverse_perm _), nodes _ (List.Perm.swap 0 1 []), ids _ ?_⟩
  intro id other equal
  exact String.toList_inj.mp (by simpa using congrArg String.toList equal)

end Diagram

end SchemaScaffold
