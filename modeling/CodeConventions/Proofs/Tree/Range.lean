import CodeConventions.Proofs.Tree.Descent

/-!
# Ranges of nodes

What the ranges of nodes say about where the nodes lie in the tree.
-/

namespace CodeConventions

/-!
## Ranges of nodes

A parser gives each node a range within that of its parent, and siblings ranges one after the other.
Only the root may be empty.  Two nodes that overlap then lie one inside the other, and nodes with
one range form a chain from the outermost of them down to the innermost one.  So a range determines
a node as soon as it is known to be innermost, or to be outermost.

## Strategy

All of this is by induction going down from a common ancestor: two nodes below it lie below one
child, or below two children whose ranges are apart.
-/

namespace Node

/-- The range of the node. -/
def spot (n : Node) : Nat × Nat := (n.start, n.stop)

/-- No child has the range of the node. -/
def IsInnermost (n : Node) : Prop := ∀ c ∈ n.children, c.spot ≠ n.spot

/-- The parent does not have the range of the node. -/
def IsOutermost (n : Node) : Prop := ∀ p, n.parent? = some p → p.spot ≠ n.spot

theorem spot_eq_iff {m n : Node} : m.spot = n.spot ↔ m.start = n.start ∧ m.stop = n.stop := by
  rw [spot, spot, Prod.mk.injEq]

/-- The children of an innermost node are outermost. -/
theorem isOutermost_of_mem_children {n p : Node} (hn : n ∈ p.children) (hp : p.IsInnermost) :
    n.IsOutermost := by
  intro q hq
  obtain rfl : p = q := Option.some_inj.mp ((parent?_of_mem_children hn).symm.trans hq)
  exact fun h => hp n hn h.symm

end Node

/-- The ranges of the nodes are nested. -/
structure Document.Nested (d : Document) : Prop where
  within : ∀ n ∈ d.root.nodes, ∀ c ∈ n.children, n.start ≤ c.start ∧ c.stop ≤ n.stop
  ordered : ∀ n ∈ d.root.nodes, n.children.Pairwise fun a b => a.stop ≤ b.start
  nonempty : ∀ n ∈ d.root.nodes, ∀ c ∈ n.children, c.start < c.stop

/-- Where children lie within their parents, all that is below a node lies within it. -/
theorem Document.within_of_mem_nodes {d : Document} {m n : Node}
    (hwithin : ∀ n ∈ d.root.nodes, ∀ c ∈ n.children, n.start ≤ c.start ∧ c.stop ≤ n.stop)
    (hn : n ∈ d.root.nodes) (hm : m ∈ n.nodes) : n.start ≤ m.start ∧ m.stop ≤ n.stop := by
  induction n using Node.childrenInduction with
  | step n ih =>
      rcases Node.mem_nodes_iff.mp hm with rfl | ⟨c, hc, hmc⟩
      · exact ⟨le_rfl, le_rfl⟩
      · obtain ⟨hstart, hstop⟩ := hwithin n hn c hc
        obtain ⟨hstart', hstop'⟩ := ih c hc (mem_of_mem_children hn hc) hmc
        exact ⟨hstart.trans hstart', hstop'.trans hstop⟩

namespace Document.Nested

open Node

variable {d : Document} (hd : d.Nested) {a b c m n p r : Node}

include hd

/-! ### Nodes below a node -/

theorem within_of_mem_nodes (hn : n ∈ d.root.nodes) (hm : m ∈ n.nodes) :
    n.start ≤ m.start ∧ m.stop ≤ n.stop :=
  Document.within_of_mem_nodes hd.within hn hm

theorem nonempty_of_mem_nodes (hn : n ∈ d.root.nodes) (hm : m ∈ n.nodes) :
    m = n ∨ m.start < m.stop := by
  induction n using childrenInduction with
  | step n ih =>
      rcases mem_nodes_iff.mp hm with rfl | ⟨c, hc, hmc⟩
      · exact Or.inl rfl
      · rcases ih c hc (mem_of_mem_children hn hc) hmc with rfl | hlt
        · exact Or.inr (hd.nonempty n hn m hc)
        · exact Or.inr hlt

/-- Siblings are apart. -/
theorem apart_of_mem_children (hn : n ∈ d.root.nodes) (ha : a ∈ n.children)
    (hb : b ∈ n.children) (hne : a ≠ b) : a.stop ≤ b.start ∨ b.stop ≤ a.start := by
  have hapart : n.children.Pairwise fun a b => a.stop ≤ b.start ∨ b.stop ≤ a.start :=
    (hd.ordered n hn).imp Or.inl
  have : Std.Symm fun a b : Node => a.stop ≤ b.start ∨ b.stop ≤ a.start := ⟨fun _ _ => Or.symm⟩
  exact hapart.forall ha hb hne

/-- Nodes below two children that overlap lie below one child. -/
theorem eq_of_overlap (hn : n ∈ d.root.nodes) (ha : a ∈ n.children) (hb : b ∈ n.children)
    (hm : m ∈ a.nodes) (hp : p ∈ b.nodes) (hmp : m.start < p.stop) (hpm : p.start < m.stop) :
    a = b := by
  by_contra hne
  have hma := hd.within_of_mem_nodes (mem_of_mem_children hn ha) hm
  have hpb := hd.within_of_mem_nodes (mem_of_mem_children hn hb) hp
  rcases hd.apart_of_mem_children hn ha hb hne with h | h
  · omega
  · omega

theorem eq_of_mem_nodes_of_mem_nodes (hn : n ∈ d.root.nodes) (ha : a ∈ n.children)
    (hb : b ∈ n.children) (hma : m ∈ a.nodes) (hmb : m ∈ b.nodes) : a = b := by
  have hlt : m.start < m.stop := by
    rcases hd.nonempty_of_mem_nodes (mem_of_mem_children hn ha) hma with rfl | hlt
    · exact hd.nonempty n hn m ha
    · exact hlt
  exact hd.eq_of_overlap hn ha hb hma hmb hlt hlt

theorem children_nodup (hn : n ∈ d.root.nodes) : n.children.Nodup := by
  refine (hd.ordered n hn).imp_of_mem fun {a b} ha _ hstop heq => ?_
  have hlt := hd.nonempty n hn a ha
  rw [← heq] at hstop
  omega

theorem parts_nodup (hn : n ∈ d.root.nodes) : n.parts.Nodup :=
  (hd.children_nodup hn).sublist n.parts_sublist_children

theorem nodes_nodup (hn : n ∈ d.root.nodes) : n.nodes.Nodup := by
  induction n using childrenInduction with
  | step n ih =>
      rw [nodes_eq, List.nodup_cons, List.nodup_flatMap]
      refine ⟨fun h => ?_, fun c hc => ih c hc (mem_of_mem_children hn hc), ?_⟩
      · obtain ⟨c, hc, hnc⟩ := List.mem_flatMap.mp h
        exact not_mem_nodes_of_mem_children hc hnc
      · refine (hd.children_nodup hn).imp_of_mem fun {a b} ha hb hne => ?_
        intro m hma hmb
        exact hne (hd.eq_of_mem_nodes_of_mem_nodes hn ha hb hma hmb)

theorem find_nodup (kinds : List String) : (d.find kinds).Nodup :=
  (hd.nodes_nodup d.root.self_mem_nodes).filter _

/-! ### Nodes that overlap -/

/-- Of two nodes that overlap one lies inside the other. -/
theorem mem_nodes_or_mem_nodes (hr : r ∈ d.root.nodes) (hm : m ∈ r.nodes) (hn : n ∈ r.nodes)
    (hmn : m.start < n.stop) (hnm : n.start < m.stop) : m ∈ n.nodes ∨ n ∈ m.nodes := by
  induction r using childrenInduction with
  | step r ih =>
      rcases mem_nodes_iff.mp hm with rfl | ⟨a, ha, hma⟩
      · exact Or.inr hn
      · rcases mem_nodes_iff.mp hn with rfl | ⟨b, hb, hnb⟩
        · exact Or.inl hm
        · obtain rfl := hd.eq_of_overlap hr ha hb hma hnb hmn hnm
          exact ih a ha (mem_of_mem_children hr ha) hma hnb

/-- Of two nodes with one range one lies inside the other. -/
theorem mem_nodes_or_mem_nodes_of_spot_eq (hm : m ∈ d.root.nodes) (hn : n ∈ d.root.nodes)
    (hspot : m.spot = n.spot) : m ∈ n.nodes ∨ n ∈ m.nodes := by
  obtain ⟨hstart, hstop⟩ := spot_eq_iff.mp hspot
  rcases hd.nonempty_of_mem_nodes d.root.self_mem_nodes hm with rfl | hlt
  · exact Or.inr hn
  · exact hd.mem_nodes_or_mem_nodes d.root.self_mem_nodes hm hn (by omega) (by omega)

/-! ### Innermost and outermost nodes -/

theorem spot_eq_of_between (hn : n ∈ d.root.nodes) (hc : c ∈ n.nodes) (hm : m ∈ c.nodes)
    (hspot : m.spot = n.spot) : c.spot = n.spot := by
  obtain ⟨hstart, hstop⟩ := spot_eq_iff.mp hspot
  have hcn := hd.within_of_mem_nodes hn hc
  have hmc := hd.within_of_mem_nodes (mem_of_mem_nodes hn hc) hm
  rw [spot_eq_iff]
  omega

theorem eq_of_isInnermost (hn : n ∈ d.root.nodes) (hm : m ∈ n.nodes) (hspot : m.spot = n.spot)
    (hinnermost : n.IsInnermost) : m = n := by
  rcases mem_nodes_iff.mp hm with rfl | ⟨c, hc, hmc⟩
  · rfl
  · have hcn := hd.spot_eq_of_between hn (mem_nodes_of_mem_children hc) hmc hspot
    exact absurd hcn (hinnermost c hc)

theorem eq_of_isOutermost (hn : n ∈ d.root.nodes) (hm : m ∈ n.nodes) (hspot : m.spot = n.spot)
    (houtermost : m.IsOutermost) : m = n := by
  induction n using childrenInduction with
  | step n ih =>
      rcases mem_nodes_iff.mp hm with rfl | ⟨c, hc, hmc⟩
      · rfl
      · have hcn := hd.spot_eq_of_between hn (mem_nodes_of_mem_children hc) hmc hspot
        obtain rfl := ih c hc (mem_of_mem_children hn hc) hmc (hspot.trans hcn.symm)
        exact absurd hcn.symm (houtermost n (parent?_of_mem_children hc))

/-- An innermost node is determined by its range. -/
theorem isInnermost_inj (hm : m ∈ d.root.nodes) (hn : n ∈ d.root.nodes) (hmi : m.IsInnermost)
    (hni : n.IsInnermost) (hspot : m.spot = n.spot) : m = n := by
  rcases hd.mem_nodes_or_mem_nodes_of_spot_eq hm hn hspot with h | h
  · exact hd.eq_of_isInnermost hn h hspot hni
  · exact (hd.eq_of_isInnermost hm h hspot.symm hmi).symm

/-- An outermost node is determined by its range. -/
theorem isOutermost_inj (hm : m ∈ d.root.nodes) (hn : n ∈ d.root.nodes) (hmo : m.IsOutermost)
    (hno : n.IsOutermost) (hspot : m.spot = n.spot) : m = n := by
  rcases hd.mem_nodes_or_mem_nodes_of_spot_eq hm hn hspot with h | h
  · exact hd.eq_of_isOutermost hn h hspot hmo
  · exact (hd.eq_of_isOutermost hm h hspot.symm hno).symm

end Document.Nested

/-!
## Trees in document order

In a tree whose nodes lie within their parents, one after the other, document order is the order of
the offsets at which nodes begin: a parent does not begin after its children, and what lies below a
child begins before the next child does.  Nodes may be empty here, as those are that a parser puts in
where something is missing.  The first node with a property is then one with the least offset.
-/

/-- The ranges of the nodes are ranges, lie within those of their parents, and follow each other. -/
structure Document.InOrder (d : Document) : Prop where
  ranged : ∀ n ∈ d.root.nodes, n.start ≤ n.stop
  within : ∀ n ∈ d.root.nodes, ∀ c ∈ n.children, n.start ≤ c.start ∧ c.stop ≤ n.stop
  ordered : ∀ n ∈ d.root.nodes, n.children.Pairwise fun a b => a.stop ≤ b.start

namespace Document.InOrder

open Node

variable {d : Document} {m n : Node}

/-- What lies below a node begins before whatever follows the node. -/
theorem start_le_of_stop_le {a b : Node} (hd : d.InOrder) (ha : a ∈ d.root.nodes)
    (hb : b ∈ d.root.nodes) (hab : a.stop ≤ b.start) (hm : m ∈ a.nodes) (hn : n ∈ b.nodes) :
    m.start ≤ n.start :=
  calc m.start ≤ m.stop := hd.ranged m (mem_of_mem_nodes ha hm)
    _ ≤ a.stop := (within_of_mem_nodes hd.within ha hm).2
    _ ≤ b.start := hab
    _ ≤ n.start := (within_of_mem_nodes hd.within hb hn).1

/-- Document order is the order in which nodes begin. -/
theorem nodes_sorted (hd : d.InOrder) (hn : n ∈ d.root.nodes) :
    n.nodes.Pairwise fun a b => a.start ≤ b.start := by
  induction n using childrenInduction with
  | step n ih =>
      have hchild : ∀ c ∈ n.children, c ∈ d.root.nodes := fun c hc => mem_of_mem_children hn hc
      rw [nodes_eq, List.pairwise_cons, List.pairwise_flatMap]
      refine ⟨fun m hm => ?_, fun c hc => ih c hc (hchild c hc), ?_⟩
      · obtain ⟨c, hc, hmc⟩ := List.mem_flatMap.mp hm
        exact (within_of_mem_nodes hd.within hn (mem_nodes_iff.mpr (Or.inr ⟨c, hc, hmc⟩))).1
      · exact (hd.ordered n hn).imp_of_mem fun ha hb hab x hx y hy =>
          hd.start_le_of_stop_le (hchild _ ha) (hchild _ hb) hab hx hy

/-- The first node with a property has the least offset among the nodes with it. -/
theorem isLeast_start_of_find? (hd : d.InOrder) {p : Node → Bool}
    (h : d.root.nodes.find? p = some n) :
    IsLeast {k | ∃ m ∈ d.root.nodes, p m = true ∧ m.start = k} n.start := by
  refine ⟨⟨n, List.mem_of_find?_eq_some h, List.find?_some h, rfl⟩, ?_⟩
  rintro k ⟨m, hm, hp, rfl⟩
  obtain ⟨_, before, after, hsplit, hbefore⟩ := List.find?_eq_some_iff_append.mp h
  have hsorted := hd.nodes_sorted d.root.self_mem_nodes
  rw [hsplit] at hm hsorted
  rcases List.mem_append.mp hm with hm | hm
  · -- before the first node with the property there is none
    exact absurd hp (by simpa using hbefore m hm)
  · rcases List.mem_cons.mp hm with rfl | hm
    · exact le_rfl
    · exact (List.pairwise_cons.mp (List.pairwise_append.mp hsorted).2.1).1 m hm

end Document.InOrder

instance (d : Document) : Decidable d.InOrder :=
  decidable_of_iff
    ((∀ n ∈ d.root.nodes, n.start ≤ n.stop) ∧
      (∀ n ∈ d.root.nodes, ∀ c ∈ n.children, n.start ≤ c.start ∧ c.stop ≤ n.stop) ∧
        ∀ n ∈ d.root.nodes, n.children.Pairwise fun a b => a.stop ≤ b.start)
    ⟨fun ⟨hranged, hwithin, hordered⟩ => ⟨hranged, hwithin, hordered⟩,
      fun h => ⟨h.ranged, h.within, h.ordered⟩⟩

end CodeConventions
