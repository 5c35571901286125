import InterfaceStub.Syntax.Kind
import InterfaceStub.Syntax.Field

/-!
# Syntax trees

A `Node` of a syntax tree has a label and children.  A parser hands a tree over as the list of its
nodes in document order, each with its depth; `Node.ofPreorder?` builds the tree from that list.

What later modules ask of a node goes through its children: `parts` are those that carry meaning,
`child?` and `childrenAt` those that play a given part.  Each of them is smaller than the node
(`size_lt_of_mem_children` and its companions), which is why going down a tree ends.
-/

namespace InterfaceStub.Syntax

/-- What a parser says of one node apart from its children. -/
structure Label where
  kind : Kind
  /-- Whether the node is a rule of the grammar and not a mere token. -/
  named : Bool := false
  /-- Whether the node may stand anywhere, as a comment does. -/
  extra : Bool := false
  /-- Whether the node is text that the grammar does not admit. -/
  error : Bool := false
  /-- Whether the node is a token that the grammar demands and the text lacks. -/
  missing : Bool := false
  /-- Whether the node or one below it is an error or missing. -/
  hasError : Bool := false
  /-- The part that the node plays in its parent. -/
  field : Option Field := none
  /-- The byte offset of the node's first character. -/
  start : Nat := 0
  /-- The byte offset after the node's last character. -/
  stop : Nat := 0
  deriving DecidableEq, Repr

/-- A node of a syntax tree. -/
inductive Node where
  | mk (label : Label) (children : List Node)

namespace Node

def label : Node → Label
  | mk label _ => label

def children : Node → List Node
  | mk _ children => children

def kind (node : Node) : Kind := node.label.kind

def field (node : Node) : Option Field := node.label.field

/-- Whether the node carries meaning: it is named and not an extra. -/
def isPart (node : Node) : Bool :=
  node.label.named && !node.label.extra

/-- The children that carry meaning, in order. -/
def parts (node : Node) : List Node :=
  node.children.filter isPart

/-- The first child that carries meaning. -/
def firstPart? (node : Node) : Option Node :=
  node.parts.head?

/-- The children that play one part, in order. -/
def childrenAt (node : Node) (field : Field) : List Node :=
  node.children.filter (·.field == some field)

/-- The first child that plays one part. -/
def child? (node : Node) (field : Field) : Option Node :=
  (node.childrenAt field).head?

/-! ## Building a tree -/

/-- Puts a node in front of trees that come after it, each with its depth: those deeper than the
node, up to the first that is not, become its children. -/
def graft (row : Nat × Label) (later : List (Nat × Node)) : List (Nat × Node) :=
  let below := later.takeWhile fun tree => row.1 < tree.1
  (row.1, mk row.2 (below.map (·.2))) :: later.drop below.length

/-- The tree whose nodes, in document order and each with its depth, are `rows`. -/
def ofPreorder? (rows : List (Nat × Label)) : Option Node :=
  match rows.foldr graft [] with
  | [(_, root)] => some root
  | _ => none

/-! ## Size -/

mutual
/-- The number of nodes in a tree. -/
def size : Node → Nat
  | mk _ children => sizes children + 1

/-- The number of nodes in some trees. -/
def sizes : List Node → Nat
  | [] => 0
  | node :: nodes => size node + sizes nodes
end

theorem size_le_sizes {node : Node} {nodes : List Node} (h : node ∈ nodes) :
    node.size ≤ sizes nodes := by
  induction nodes with
  | nil => cases h
  | cons head tail ih =>
    rw [sizes]
    rcases List.mem_cons.1 h with rfl | h
    · omega
    · have := ih h
      omega

theorem size_lt_of_mem_children {child node : Node} (h : child ∈ node.children) :
    child.size < node.size := by
  cases node with
  | mk label nodes =>
    have := size_le_sizes h
    rw [children] at this
    rw [size]
    omega

theorem mem_children_of_mem_parts {part node : Node} (h : part ∈ node.parts) :
    part ∈ node.children :=
  (List.mem_filter.1 h).1

theorem mem_children_of_mem_childrenAt {child node : Node} {field : Field}
    (h : child ∈ node.childrenAt field) : child ∈ node.children :=
  (List.mem_filter.1 h).1

theorem mem_parts_of_firstPart? {part node : Node} (h : node.firstPart? = some part) :
    part ∈ node.parts :=
  List.mem_of_mem_head? h

theorem mem_childrenAt_of_child? {child node : Node} {field : Field}
    (h : node.child? field = some child) : child ∈ node.childrenAt field :=
  List.mem_of_mem_head? h

theorem size_lt_of_mem_parts {part node : Node} (h : part ∈ node.parts) : part.size < node.size :=
  size_lt_of_mem_children (mem_children_of_mem_parts h)

theorem size_lt_of_mem_childrenAt {child node : Node} {field : Field}
    (h : child ∈ node.childrenAt field) : child.size < node.size :=
  size_lt_of_mem_children (mem_children_of_mem_childrenAt h)

theorem size_lt_of_firstPart? {part node : Node} (h : node.firstPart? = some part) :
    part.size < node.size :=
  size_lt_of_mem_parts (mem_parts_of_firstPart? h)

theorem size_lt_of_child? {child node : Node} {field : Field} (h : node.child? field = some child) :
    child.size < node.size :=
  size_lt_of_mem_childrenAt (mem_childrenAt_of_child? h)

end Node

end InterfaceStub.Syntax
