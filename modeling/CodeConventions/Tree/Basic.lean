/-!
# Parse trees and their nodes

A parse tree is a label with a list of subtrees.  A *node* is a tree in its place: the tree itself
and the trees above it, nearest first.  Going down pushes the tree onto that list, going up pops
it, so that a node knows its parent without any table.

`nodes` lists a tree in document order, a parent before its children.
-/

namespace CodeConventions

/-- What a parser says about one node, apart from what lies below it. -/
structure Label where
  /-- The grammar's name for the node; for a token without a name of its own, its text. -/
  kind : String
  /-- The grammar names nodes of this kind; bare tokens are not named. -/
  named : Bool
  /-- The parser put the node in to go on after a flaw. -/
  missing : Bool
  /-- The role of the node in its parent. -/
  field : Option String
  /-- The offset of the node's first byte. -/
  start : Nat
  /-- The offset just after the node's last byte. -/
  stop : Nat
  deriving DecidableEq, Repr, Inhabited

/-- A tree of labels. -/
inductive ParseTree where
  | node (label : Label) (children : List ParseTree)
  deriving Inhabited, Repr

namespace ParseTree

/-- The label at the root. -/
def label : ParseTree → Label
  | .node l _ => l

/-- The subtrees just below the root. -/
def children : ParseTree → List ParseTree
  | .node _ cs => cs

/-- A named node other than a comment. -/
def isSignificant (t : ParseTree) : Bool :=
  t.label.named && t.label.kind != "comment"

/-- The tree is a token with the text given. -/
def isToken (text : String) (t : ParseTree) : Bool :=
  !t.label.named && t.label.kind == text

mutual

/-- Whether two trees are equal: their labels are, and their subtrees, one by one. -/
protected def decEq : (t u : ParseTree) → Decidable (t = u)
  | .node l ts, .node m us =>
    have : Decidable (ts = us) := ParseTree.decEqAll ts us
    decidable_of_iff (l = m ∧ ts = us) (by rw [node.injEq])

/-- Whether two lists of trees are equal. -/
protected def decEqAll : (ts us : List ParseTree) → Decidable (ts = us)
  | [], [] => isTrue rfl
  | [], u :: us => isFalse (List.cons_ne_nil u us).symm
  | t :: ts, [] => isFalse (List.cons_ne_nil t ts)
  | t :: ts, u :: us =>
    have : Decidable (t = u) := ParseTree.decEq t u
    have : Decidable (ts = us) := ParseTree.decEqAll ts us
    decidable_of_iff (t = u ∧ ts = us) (by rw [List.cons.injEq])

end

instance : DecidableEq ParseTree := ParseTree.decEq

mutual

/-- The number of nodes. -/
def size : ParseTree → Nat
  | .node _ cs => sizeAll cs + 1

/-- The number of nodes of several trees. -/
def sizeAll : List ParseTree → Nat
  | [] => 0
  | c :: cs => size c + sizeAll cs

end

theorem size_pos (t : ParseTree) : 0 < t.size := by
  cases t; simp [size]

theorem size_le_sizeAll {c : ParseTree} {cs : List ParseTree} (h : c ∈ cs) :
    c.size ≤ sizeAll cs := by
  induction cs with
  | nil => simp at h
  | cons d ds ih =>
    rcases List.mem_cons.1 h with rfl | h
    · simp [sizeAll]
    · have := ih h
      simp only [sizeAll]
      omega

/-- A subtree just below the root is smaller than the tree. -/
theorem size_lt_of_mem_children {t c : ParseTree} (h : c ∈ t.children) : c.size < t.size := by
  cases t with
  | node l cs =>
    have : c.size ≤ sizeAll cs := size_le_sizeAll h
    simp only [size]
    omega

end ParseTree

/-- A tree in its place: the tree and the trees above it, nearest first. -/
structure Node where
  tree : ParseTree
  above : List ParseTree
  deriving DecidableEq, Inhabited, Repr

namespace Node

/-- The grammar's name for the node. -/
def kind (n : Node) : String := n.tree.label.kind

/-- The offset of the node's first byte. -/
def start (n : Node) : Nat := n.tree.label.start

/-- The offset just after the node's last byte. -/
def stop (n : Node) : Nat := n.tree.label.stop

/-- The grammar names nodes of this kind. -/
def isNamed (n : Node) : Bool := n.tree.label.named

/-- The parser put the node in to go on after a flaw. -/
def isMissing (n : Node) : Bool := n.tree.label.missing

/-- The number of nodes at and below the node. -/
def size (n : Node) : Nat := n.tree.size

/-- A subtree of the node's tree, in its place. -/
def down (n : Node) (t : ParseTree) : Node := ⟨t, n.tree :: n.above⟩

/-- The children, tokens and comments among them. -/
def children (n : Node) : List Node := n.tree.children.map n.down

/-- The named children other than comments. -/
def parts (n : Node) : List Node :=
  (n.tree.children.filter ParseTree.isSignificant).map n.down

/-- The first child in a role. -/
def child? (n : Node) (role : String) : Option Node :=
  (n.tree.children.find? fun t => t.label.field == some role).map n.down

/-- The first of the named children that are no comments. -/
def firstPart? (n : Node) : Option Node :=
  (n.tree.children.find? ParseTree.isSignificant).map n.down

/-- A token with the text given is among the children. -/
def hasToken (n : Node) (text : String) : Bool :=
  n.tree.children.any (ParseTree.isToken text)

/-- The node above. -/
def parent? (n : Node) : Option Node :=
  match n.above with
  | [] => none
  | t :: ts => some ⟨t, ts⟩

/-- The nodes above, nearest first, of a node below the trees given. -/
def ancestorsOf : List ParseTree → List Node
  | [] => []
  | t :: ts => ⟨t, ts⟩ :: ancestorsOf ts

/-- The nodes above, nearest first. -/
def ancestors (n : Node) : List Node := ancestorsOf n.above

/-- The identity of a node: its range and its kind. -/
def key (n : Node) : Nat × Nat × String := (n.start, n.stop, n.kind)

/-- The nodes have one range and one kind. -/
def same (a b : Node) : Bool := a.key == b.key

/-- The range of the inner node lies within that of the outer one. -/
def contains (outer inner : Node) : Bool :=
  outer.start ≤ inner.start && inner.stop ≤ outer.stop

/-- The node is of one of the kinds. -/
def isOneOf (n : Node) (kinds : List String) : Bool := kinds.contains n.kind

theorem size_child?_lt {n c : Node} {role : String} (h : n.child? role = some c) :
    c.size < n.size := by
  obtain ⟨t, ht, rfl⟩ := Option.map_eq_some_iff.1 h
  exact ParseTree.size_lt_of_mem_children (List.mem_of_find?_eq_some ht)

theorem size_parts_lt {n c : Node} (h : c ∈ n.parts) : c.size < n.size := by
  obtain ⟨t, ht, rfl⟩ := List.mem_map.1 h
  exact ParseTree.size_lt_of_mem_children (List.mem_filter.1 ht).1

theorem firstPart?_eq (n : Node) : n.firstPart? = n.parts.head? := by
  simp [firstPart?, parts, List.head?_map, List.head?_filter]

end Node

namespace ParseTree

mutual

/-- The nodes of a tree below the trees given, in document order. -/
def nodesBelow (above : List ParseTree) : ParseTree → List Node
  | .node l cs => ⟨.node l cs, above⟩ :: nodesBelowAll (.node l cs :: above) cs

/-- The nodes of several trees side by side, in document order. -/
def nodesBelowAll (above : List ParseTree) : List ParseTree → List Node
  | [] => []
  | c :: cs => nodesBelow above c ++ nodesBelowAll above cs

end

mutual

/-- The nodes of a tree in document order, without what lies below a node at which `closed`
holds. -/
def openNodesBelow (closed : String → Bool) (above : List ParseTree) : ParseTree → List Node
  | .node l cs =>
    ⟨.node l cs, above⟩ ::
      (if closed l.kind then [] else openNodesBelowAll closed (.node l cs :: above) cs)

/-- The nodes of several trees in document order, without what lies below a node at which
`closed` holds. -/
def openNodesBelowAll (closed : String → Bool) (above : List ParseTree) :
    List ParseTree → List Node
  | [] => []
  | c :: cs => openNodesBelow closed above c ++ openNodesBelowAll closed above cs

end

end ParseTree

namespace Node

/-- The node and all nodes below it, in document order. -/
def nodes (n : Node) : List Node := n.tree.nodesBelow n.above

/-- The node and the nodes below it, but nothing below a node at which `closed` holds. -/
def openNodes (n : Node) (closed : String → Bool) : List Node :=
  n.tree.openNodesBelow closed n.above

/-- The nodes of some kinds at and below the node, in document order. -/
def find (n : Node) (kinds : List String) : List Node :=
  n.nodes.filter fun m => m.isOneOf kinds

end Node

end CodeConventions
