import Mathlib
import CodeConventions.Tree.Document

/-!
# Going down and up in a tree

The nodes at and below a node are the node itself and the nodes at and below its children.  Going
down pushes onto the list of what lies above, so a child knows its parent and a node below another
one has it among its ancestors.  In a document nothing lies above the root: whatever is above one of
its nodes is one of its nodes too.
-/

namespace CodeConventions

namespace ParseTree

theorem nodesBelowAll_eq_flatMap (above : List ParseTree) (ts : List ParseTree) :
    nodesBelowAll above ts = ts.flatMap (nodesBelow above) := by
  induction ts with
  | nil => rfl
  | cons t ts ih => rw [nodesBelowAll, ih, List.flatMap_cons]

theorem openNodesBelowAll_eq_flatMap (closed : String → Bool) (above : List ParseTree)
    (ts : List ParseTree) :
    openNodesBelowAll closed above ts = ts.flatMap (openNodesBelow closed above) := by
  induction ts with
  | nil => rfl
  | cons t ts ih => rw [openNodesBelowAll, ih, List.flatMap_cons]

end ParseTree

namespace Node

variable {a c m n p : Node} {role : String}

/-! ## Children -/

theorem mem_children_of_mem_parts (h : c ∈ n.parts) : c ∈ n.children := by
  obtain ⟨t, ht, rfl⟩ := List.mem_map.mp h
  exact List.mem_map_of_mem (List.mem_filter.mp ht).1

theorem mem_children_of_child? (h : n.child? role = some c) : c ∈ n.children := by
  obtain ⟨t, ht, rfl⟩ := Option.map_eq_some_iff.mp h
  exact List.mem_map_of_mem (List.mem_of_find?_eq_some ht)

theorem field_of_child? (h : n.child? role = some c) : c.tree.label.field = some role := by
  obtain ⟨t, ht, rfl⟩ := Option.map_eq_some_iff.mp h
  have hfield := List.find?_some ht
  exact beq_iff_eq.mp hfield

theorem mem_parts_of_firstPart? (h : n.firstPart? = some c) : c ∈ n.parts := by
  rw [firstPart?_eq] at h
  exact List.mem_of_mem_head? h

theorem mem_children_of_firstPart? (h : n.firstPart? = some c) : c ∈ n.children :=
  mem_children_of_mem_parts (mem_parts_of_firstPart? h)

theorem parts_sublist_children (n : Node) : n.parts.Sublist n.children :=
  List.Sublist.map _ List.filter_sublist

theorem size_lt_of_mem_children (h : c ∈ n.children) : c.size < n.size := by
  obtain ⟨t, ht, rfl⟩ := List.mem_map.mp h
  exact ParseTree.size_lt_of_mem_children ht

@[simp] theorem parent?_of_mem_children (h : c ∈ n.children) : c.parent? = some n := by
  obtain ⟨t, _, rfl⟩ := List.mem_map.mp h
  rfl

theorem parent?_of_mem_parts (h : c ∈ n.parts) : c.parent? = some n :=
  parent?_of_mem_children (mem_children_of_mem_parts h)

theorem parent?_of_child? (h : n.child? role = some c) : c.parent? = some n :=
  parent?_of_mem_children (mem_children_of_child? h)

theorem parent?_of_firstPart? (h : n.firstPart? = some c) : c.parent? = some n :=
  parent?_of_mem_children (mem_children_of_firstPart? h)

theorem ancestors_of_mem_children (h : c ∈ n.children) : c.ancestors = n :: n.ancestors := by
  obtain ⟨t, _, rfl⟩ := List.mem_map.mp h
  rfl

/-- What holds of a node as soon as it holds of its children holds of every node. -/
theorem childrenInduction {motive : Node → Prop}
    (step : ∀ n : Node, (∀ c ∈ n.children, motive c) → motive n) (n : Node) : motive n := by
  induction hsize : n.size using Nat.strong_induction_on generalizing n with
  | _ size ih =>
      refine step n fun c hc => ih c.size ?_ c rfl
      rw [← hsize]
      exact size_lt_of_mem_children hc

/-! ## The nodes below a node -/

theorem nodes_eq (n : Node) : n.nodes = n :: n.children.flatMap nodes := by
  obtain ⟨⟨l, ts⟩, above⟩ := n
  rw [nodes, ParseTree.nodesBelow, ParseTree.nodesBelowAll_eq_flatMap, children, List.flatMap_map]
  rfl

theorem mem_nodes_iff : m ∈ n.nodes ↔ m = n ∨ ∃ c ∈ n.children, m ∈ c.nodes := by
  rw [nodes_eq, List.mem_cons, List.mem_flatMap]

theorem self_mem_nodes (n : Node) : n ∈ n.nodes := mem_nodes_iff.mpr (Or.inl rfl)

theorem mem_nodes_of_mem_children (h : c ∈ n.children) : c ∈ n.nodes :=
  mem_nodes_iff.mpr (Or.inr ⟨c, h, c.self_mem_nodes⟩)

theorem mem_nodes_trans (hm : m ∈ n.nodes) (ha : a ∈ m.nodes) : a ∈ n.nodes := by
  induction n using childrenInduction with
  | step n ih =>
      rcases mem_nodes_iff.mp hm with rfl | ⟨c, hc, hm⟩
      · exact ha
      · exact mem_nodes_iff.mpr (Or.inr ⟨c, hc, ih c hc hm⟩)

theorem size_le_of_mem_nodes (h : m ∈ n.nodes) : m.size ≤ n.size := by
  induction n using childrenInduction with
  | step n ih =>
      rcases mem_nodes_iff.mp h with rfl | ⟨c, hc, hm⟩
      · exact le_rfl
      · exact (ih c hc hm).trans (size_lt_of_mem_children hc).le

theorem not_mem_nodes_of_mem_children (h : c ∈ n.children) : n ∉ c.nodes := fun hn =>
  absurd (size_le_of_mem_nodes hn) (not_le.mpr (size_lt_of_mem_children h))

theorem nodes_sublist_of_mem_nodes (h : m ∈ n.nodes) : m.nodes.Sublist n.nodes := by
  induction n using childrenInduction with
  | step n ih =>
      rcases mem_nodes_iff.mp h with rfl | ⟨c, hc, hm⟩
      · exact List.Sublist.refl _
      · rw [nodes_eq n]
        have hchild := (List.singleton_sublist.mpr hc).flatMap nodes
        rw [List.flatMap_singleton] at hchild
        exact ((ih c hc hm).trans hchild).cons n

theorem openNodes_eq (n : Node) (closed : String → Bool) :
    n.openNodes closed =
      n :: if closed n.kind then [] else n.children.flatMap (openNodes · closed) := by
  obtain ⟨⟨l, ts⟩, above⟩ := n
  rw [openNodes, ParseTree.openNodesBelow, ParseTree.openNodesBelowAll_eq_flatMap, children,
    List.flatMap_map]
  rfl

theorem openNodes_sublist (n : Node) (closed : String → Bool) :
    (n.openNodes closed).Sublist n.nodes := by
  induction n using childrenInduction with
  | step n ih =>
      rw [openNodes_eq, nodes_eq]
      refine List.Sublist.cons_cons n ?_
      split
      · exact List.nil_sublist _
      · exact List.Sublist.flatMap_right n.children ih

/-! ## The nodes above a node -/

/-- The node and the nodes above it, nearest first. -/
def lineage (n : Node) : List Node := n :: n.ancestors

theorem lineage_of_mem_children (h : c ∈ n.children) : c.lineage = c :: n.lineage := by
  rw [lineage, ancestors_of_mem_children h, lineage]

/-- From a node below another one the way up leads through nodes in between to the other one and on
from there. -/
theorem exists_lineage_of_mem_nodes (h : m ∈ n.nodes) :
    ∃ between, m.lineage = between ++ n.lineage ∧
      ∀ a ∈ between, a ∈ n.nodes ∧ m ∈ a.nodes := by
  induction n using childrenInduction with
  | step n ih =>
      rcases mem_nodes_iff.mp h with rfl | ⟨c, hc, hm⟩
      · exact ⟨[], rfl, fun a ha => absurd ha List.not_mem_nil⟩
      · obtain ⟨between, hlineage, hbetween⟩ := ih c hc hm
        refine ⟨between ++ [c], ?_, fun a ha => ?_⟩
        · rw [hlineage, lineage_of_mem_children hc, List.append_assoc, List.singleton_append]
        · rcases List.mem_append.mp ha with ha | ha
          · obtain ⟨hac, hma⟩ := hbetween a ha
            exact ⟨mem_nodes_trans (mem_nodes_of_mem_children hc) hac, hma⟩
          · obtain rfl : a = c := List.mem_singleton.mp ha
            exact ⟨mem_nodes_of_mem_children hc, hm⟩

theorem mem_lineage_of_mem_nodes (h : m ∈ n.nodes) : n ∈ m.lineage := by
  obtain ⟨between, hlineage, _⟩ := exists_lineage_of_mem_nodes h
  rw [hlineage]
  exact List.mem_append_right _ (List.mem_cons_self ..)

theorem parent?_eq_some_iff : n.parent? = some p ↔ ∃ above, n.ancestors = p :: above := by
  obtain ⟨t, above⟩ := n
  cases above with
  | nil => simp [parent?, ancestors, ancestorsOf]
  | cons t ts => simp [parent?, ancestors, ancestorsOf, eq_comm]

end Node

/-! ## The nodes of a document -/

namespace Document

variable {d : Document} {a c m n p : Node} {role : String}

theorem ancestors_root (d : Document) : d.root.ancestors = [] := rfl

theorem mem_of_mem_children (hn : n ∈ d.root.nodes) (hc : c ∈ n.children) : c ∈ d.root.nodes :=
  Node.mem_nodes_trans hn (Node.mem_nodes_of_mem_children hc)

theorem mem_of_mem_parts (hn : n ∈ d.root.nodes) (hc : c ∈ n.parts) : c ∈ d.root.nodes :=
  mem_of_mem_children hn (Node.mem_children_of_mem_parts hc)

theorem mem_of_child? (hn : n ∈ d.root.nodes) (hc : n.child? role = some c) : c ∈ d.root.nodes :=
  mem_of_mem_children hn (Node.mem_children_of_child? hc)

theorem mem_of_firstPart? (hn : n ∈ d.root.nodes) (hc : n.firstPart? = some c) :
    c ∈ d.root.nodes :=
  mem_of_mem_children hn (Node.mem_children_of_firstPart? hc)

theorem mem_of_mem_nodes (hn : n ∈ d.root.nodes) (hm : m ∈ n.nodes) : m ∈ d.root.nodes :=
  Node.mem_nodes_trans hn hm

theorem mem_of_mem_find {kinds : List String} (h : n ∈ d.find kinds) :
    n ∈ d.root.nodes ∧ n.kind ∈ kinds := by
  obtain ⟨hn, hkind⟩ := List.mem_filter.mp h
  exact ⟨hn, by simpa [Node.isOneOf] using hkind⟩

/-- What lies above a node of the document is a node of the document around it. -/
theorem mem_of_mem_ancestors (hn : n ∈ d.root.nodes) (ha : a ∈ n.ancestors) :
    a ∈ d.root.nodes ∧ n ∈ a.nodes := by
  obtain ⟨between, hlineage, hbetween⟩ := Node.exists_lineage_of_mem_nodes hn
  have hmem : a ∈ between ++ [d.root] := by
    have : a ∈ n.lineage := List.mem_cons_of_mem _ ha
    rwa [hlineage, Node.lineage, ancestors_root] at this
  rcases List.mem_append.mp hmem with ha | ha
  · exact hbetween a ha
  · obtain rfl : a = d.root := List.mem_singleton.mp ha
    exact ⟨d.root.self_mem_nodes, hn⟩

theorem mem_of_parent? (hn : n ∈ d.root.nodes) (hp : n.parent? = some p) : p ∈ d.root.nodes := by
  obtain ⟨above, habove⟩ := Node.parent?_eq_some_iff.mp hp
  refine (mem_of_mem_ancestors hn ?_).1
  rw [habove]
  exact List.mem_cons_self ..

/-- Above a node below another one there is that one, unless it is the node itself. -/
theorem eq_or_mem_nodes_of_mem_children (ha : a ∈ d.root.nodes) (hn : n ∈ a.children)
    (hm : n ∈ m.nodes) : m = n ∨ a ∈ m.nodes := by
  have hlineage := Node.mem_lineage_of_mem_nodes hm
  rw [Node.lineage_of_mem_children hn] at hlineage
  rcases List.mem_cons.mp hlineage with rfl | hlineage
  · exact Or.inl rfl
  · rcases List.mem_cons.mp hlineage with rfl | hlineage
    · exact Or.inr m.self_mem_nodes
    · exact Or.inr (mem_of_mem_ancestors ha hlineage).2

/-- A node is a child of its parent. -/
theorem mem_children_of_parent? (hn : n ∈ d.root.nodes) (hp : n.parent? = some p) :
    n ∈ p.children := by
  suffices h : ∀ r : Node, n ∈ r.nodes → n = r ∨ ∃ q, n.parent? = some q ∧ n ∈ q.children by
    rcases h d.root hn with rfl | ⟨q, hq, hchild⟩
    · cases hp
    · obtain rfl : q = p := Option.some_inj.mp (hq.symm.trans hp)
      exact hchild
  intro r
  induction r using Node.childrenInduction with
  | step r ih =>
      intro h
      rcases Node.mem_nodes_iff.mp h with rfl | ⟨c, hc, hm⟩
      · exact Or.inl rfl
      · rcases ih c hc hm with rfl | hq
        · exact Or.inr ⟨r, Node.parent?_of_mem_children hc, hc⟩
        · exact Or.inr hq

end Document

end CodeConventions
