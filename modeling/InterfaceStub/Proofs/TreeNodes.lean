import InterfaceStub.Proofs.LeafStatements

/-!
# The nodes of a tree and the shapes of expressions

What is said of a whole tree is said of each of its nodes, and `Node.nodes` lists them in document
order.  Everything that extraction looks at below a node is one of them: children, parts, what
parentheses enclose, and the leaf statements of a block.

`shapeOf_eq_iff` tells the shape of an expression from the kind of the node inside its parentheses;
`kind_of_shapeOf` and `shapeOf_of_kind` are its two directions for a shape that one kind only has.
-/

namespace InterfaceStub

open Syntax Extraction

namespace Syntax

namespace Node

/-! ## The nodes of a tree -/

mutual
/-- The nodes of a tree in document order. -/
def nodes : Node → List Node
  | mk label children => mk label children :: nodesAmong children

/-- The nodes of some trees. -/
def nodesAmong : List Node → List Node
  | [] => []
  | tree :: trees => nodes tree ++ nodesAmong trees
end

theorem mem_nodesAmong {inner : Node} {trees : List Node} :
    inner ∈ nodesAmong trees ↔ ∃ tree ∈ trees, inner ∈ tree.nodes := by
  induction trees with
  | nil => simp [nodesAmong]
  | cons tree trees ih => simp [nodesAmong, ih]

/-- The nodes of a tree are its root and those of its children. -/
theorem mem_nodes {inner node : Node} :
    inner ∈ node.nodes ↔ inner = node ∨ ∃ child ∈ node.children, inner ∈ child.nodes := by
  cases node with
  | mk label children => rw [nodes, List.mem_cons, mem_nodesAmong, Node.children]

theorem mem_nodes_self (node : Node) : node ∈ node.nodes :=
  mem_nodes.2 (.inl rfl)

theorem mem_nodes_of_mem_children {child node : Node} (h : child ∈ node.children) :
    child ∈ node.nodes :=
  mem_nodes.2 (.inr ⟨child, h, child.mem_nodes_self⟩)

theorem mem_nodes_trans {inner middle node : Node} (h : inner ∈ middle.nodes)
    (hmiddle : middle ∈ node.nodes) : inner ∈ node.nodes := by
  induction hsize : node.size using Nat.strongRecOn generalizing node with
  | ind size ih =>
    rcases mem_nodes.1 hmiddle with rfl | ⟨child, hchild, hbelow⟩
    · exact h
    · have hlt : child.size < size := hsize ▸ size_lt_of_mem_children hchild
      exact mem_nodes.2 (.inr ⟨child, hchild, ih _ hlt hbelow rfl⟩)

theorem mem_nodes_of_mem_parts {part node : Node} (h : part ∈ node.parts) : part ∈ node.nodes :=
  mem_nodes_of_mem_children (mem_children_of_mem_parts h)

theorem mem_nodes_of_mem_childrenAt {child node : Node} {field : Field}
    (h : child ∈ node.childrenAt field) : child ∈ node.nodes :=
  mem_nodes_of_mem_children (mem_children_of_mem_childrenAt h)

theorem mem_nodes_of_firstPart? {part node : Node} (h : node.firstPart? = some part) :
    part ∈ node.nodes :=
  mem_nodes_of_mem_parts (mem_parts_of_firstPart? h)

theorem mem_nodes_of_child? {child node : Node} {field : Field}
    (h : node.child? field = some child) : child ∈ node.nodes :=
  mem_nodes_of_mem_childrenAt (mem_childrenAt_of_child? h)

theorem mem_nodes_of_at? {inner node : Node} {path : List Nat} (h : node.at? path = some inner) :
    inner ∈ node.nodes := by
  induction path generalizing node with
  | nil =>
    cases h
    exact mem_nodes_self _
  | cons position path ih =>
    obtain ⟨child, hchild, hinner⟩ := Option.bind_eq_some_iff.1 h
    exact mem_nodes_trans (ih hinner) (mem_nodes_of_mem_children (List.mem_of_getElem? hchild))

theorem unwrapped_mem_nodes (node : Node) : node.unwrapped ∈ node.nodes := by
  fun_induction Node.unwrapped node with
  | case1 node _ inner h ih => exact mem_nodes_trans ih (mem_nodes_of_firstPart? h)
  | case2 node => exact node.mem_nodes_self
  | case3 node => exact node.mem_nodes_self

end Node

end Syntax

theorem Extraction.mem_nodes_of_mem_leafStatements {settings : ExtractSettings} {source : Source}
    {block : Node} {leaf : PlacedStatement} (h : leaf ∈ leafStatements settings source block) :
    leaf.node ∈ block.nodes := by
  obtain ⟨path, position, parent, _, hparent, hchild, _⟩ := standsIn_of_mem_leafStatements h
  exact Node.mem_nodes_trans (Node.mem_nodes_of_mem_children (List.mem_of_getElem? hchild))
    (Node.mem_nodes_of_at? hparent)

/-! ## Shapes and kinds -/

namespace Syntax

/-- The kinds of node with a given shape.  A kind in none of these lists has the shape `other`. -/
def Shape.kinds : Shape → List Kind
  | .name => [.identifier, .keywordIdentifier]
  | .attribute => [.attribute]
  | .subscript => [.subscript]
  | .genericType => [.genericType]
  | .memberType => [.memberType]
  | .string | .formattedString => [.string, .concatenatedString]
  | .integer => [.integer]
  | .float => [.float]
  | .boolean => [.trueLiteral, .falseLiteral]
  | .noneValue => [.noneLiteral]
  | .ellipsis => [.ellipsis]
  | .list => [.list]
  | .tuple => [.tuple, .expressionList, .patternList]
  | .dictionary => [.dictionary]
  | .set => [.set]
  | .call => [.call]
  | .negation => [.notOperator]
  | .unary => [.unaryOperator]
  | .other => []

namespace Source

theorem mem_kinds_of_shapeOf {source : Source} {node : Node} {shape : Shape}
    (h : source.shapeOf node = shape) (hother : shape ≠ .other) :
    node.unwrapped.kind ∈ shape.kinds := by
  subst h
  rw [shapeOf, ownShape] at hother ⊢
  split
  case h_7 hkind | h_8 hkind => split <;> simp [Shape.kinds, hkind]
  all_goals simp_all [Shape.kinds]

/-- The shape of an expression other than a string is told by the kind of what its parentheses
enclose. -/
theorem shapeOf_eq_iff {source : Source} {node : Node} {shape : Shape}
    (hshape : shape ∉ [.string, .formattedString, .other]) :
    source.shapeOf node = shape ↔ node.unwrapped.kind ∈ shape.kinds := by
  constructor
  · intro h
    exact mem_kinds_of_shapeOf h fun hother => hshape (by simp [hother])
  · intro hkind
    rw [shapeOf, ownShape]
    cases shape
    case string | formattedString | other => exact absurd (by decide) hshape
    case name | boolean => rcases List.mem_pair.1 hkind with hkind | hkind <;> rw [hkind]
    case tuple =>
      rcases List.mem_cons.1 hkind with hkind | hkind
      · rw [hkind]
      · rcases List.mem_pair.1 hkind with hkind | hkind <;> rw [hkind]
    all_goals rw [List.mem_singleton.1 hkind]

/-- A shape that one kind only has tells the kind. -/
theorem kind_of_shapeOf {source : Source} {node : Node} {shape : Shape} {kind : Kind}
    (h : source.shapeOf node = shape) (hkinds : shape.kinds = [kind]) :
    node.unwrapped.kind = kind := by
  have hmem := mem_kinds_of_shapeOf h (by rintro rfl; cases hkinds)
  rw [hkinds] at hmem
  exact List.mem_singleton.1 hmem

theorem shapeOf_of_kind {source : Source} {node : Node} {shape : Shape} {kind : Kind}
    (h : node.unwrapped.kind = kind) (hkinds : shape.kinds = [kind]) :
    source.shapeOf node = shape := by
  refine (shapeOf_eq_iff ?_).2 (by simp [hkinds, h])
  rintro hmem
  cases shape <;> simp_all [Shape.kinds]

theorem shapeOf_eq_name_iff {source : Source} {node : Node} :
    source.shapeOf node = .name ↔ node.unwrapped.isName := by
  rw [shapeOf_eq_iff (by decide)]
  simp [Shape.kinds, Node.isName]

end Source

end Syntax

end InterfaceStub
