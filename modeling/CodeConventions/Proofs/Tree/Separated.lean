import CodeConventions.Proofs.Tree.Grammar

/-!
# Nodes that ranges tell apart

Sorts of nodes of which no two have one range: the innermost nodes, the outermost ones, and the
parts of attributes and declarators, which may have the range of what they are part of.

## Strategy

Of two nodes with one range one lies inside the other.  For the parts of an attribute or a
declarator the chain of nodes in between ends at the attribute or the declarator, as what is around
that is firm.
-/

namespace CodeConventions

variable {α β : Type} {d : Document} {m n : Node} {S T : Node → Prop}

/-- Nodes of the sort are determined by their ranges. -/
def Separated (S : Node → Prop) : Prop := ∀ m n, S m → S n → m.spot = n.spot → m = n

theorem Separated.mono (hT : Separated T) (h : ∀ n, S n → T n) : Separated S :=
  fun m n hm hn => hT m n (h m hm) (h n hn)

namespace Document

/-- The node is an innermost node of the document. -/
def Inner (d : Document) (n : Node) : Prop := n ∈ d.root.nodes ∧ n.IsInnermost

/-- The node is an outermost node of the document. -/
def Outer (d : Document) (n : Node) : Prop := n ∈ d.root.nodes ∧ n.IsOutermost

theorem Nested.separated_inner (hd : d.Nested) : Separated d.Inner :=
  fun _ _ hm hn => hd.isInnermost_inj hm.1 hn.1 hm.2 hn.2

theorem Nested.separated_outer (hd : d.Nested) : Separated d.Outer :=
  fun _ _ hm hn => hd.isOutermost_inj hm.1 hn.1 hm.2 hn.2

theorem Regular.inner_of_kind (hd : d.Regular) (hn : n ∈ d.root.nodes)
    (hkind : n.kind ∈ firmKinds) : d.Inner n :=
  ⟨hn, hd.firm n hn hkind⟩

theorem Regular.inner_of_mem_find (hd : d.Regular) {kinds : List String} (hn : n ∈ d.find kinds)
    (hkinds : ∀ kind ∈ kinds, kind ∈ firmKinds) : d.Inner n := by
  obtain ⟨hmem, hkind⟩ := mem_of_mem_find hn
  exact hd.inner_of_kind hmem (hkinds n.kind hkind)

/-- Nodes of firm kinds that are the same are one node. -/
theorem Regular.eq_of_same (hd : d.Regular) (hm : m ∈ d.root.nodes) (hn : n ∈ d.root.nodes)
    (hkind : m.kind ∈ firmKinds) (h : m.same n = true) : m = n := by
  rw [Node.same, beq_iff_eq, Node.key, Node.key, Prod.mk.injEq, Prod.mk.injEq] at h
  obtain ⟨hstart, hstop, hkinds⟩ := h
  exact hd.isInnermost_inj hm hn (hd.firm m hm hkind) (hd.firm n hn (hkinds ▸ hkind))
    (Node.spot_eq_iff.mpr ⟨hstart, hstop⟩)

theorem Regular.outer_of_parent (hd : d.Regular) {p : Node} (hp : p ∈ d.root.nodes)
    (hn : n ∈ p.children) (hkind : p.kind ∈ firmKinds) : d.Outer n :=
  ⟨mem_of_mem_children hp hn, Node.isOutermost_of_mem_children hn (hd.firm p hp hkind)⟩

/-! ### Nodes of one kind -/

/-- The range and the kind of a node tell it apart from all other nodes of the tree. -/
def KeysApart (d : Document) : Prop := (d.root.nodes.map Node.key).Nodup

instance (d : Document) : Decidable d.KeysApart :=
  inferInstanceAs (Decidable (d.root.nodes.map Node.key).Nodup)

theorem KeysApart.nodes_nodup (hd : d.KeysApart) : d.root.nodes.Nodup := List.Nodup.of_map _ hd

theorem KeysApart.eq_of_same (hd : d.KeysApart) (hm : m ∈ d.root.nodes) (hn : n ∈ d.root.nodes)
    (h : m.same n = true) : m = n :=
  List.inj_on_of_nodup_map hd hm hn (beq_iff_eq.mp h)

theorem KeysApart.eq_of_spot (hd : d.KeysApart) (hm : m ∈ d.root.nodes) (hn : n ∈ d.root.nodes)
    (hkind : m.kind = n.kind) (hspot : m.spot = n.spot) : m = n := by
  refine hd.eq_of_same hm hn (beq_iff_eq.mpr ?_)
  obtain ⟨hstart, hstop⟩ := Node.spot_eq_iff.mp hspot
  rw [Node.key, Node.key, hstart, hstop, hkind]

/-! ### Nodes that hang on others -/

/-- The node is part of a node of the kind `holder`, which is part of a firm one of other kinds. -/
def Hangs (d : Document) (holder : String) (kinds : List String) (n : Node) : Prop :=
  ∃ a p, p ∈ d.root.nodes ∧ p.kind ∈ kinds ∧ a ∈ p.children ∧ a.kind = holder ∧ n ∈ a.children

variable {holder : String} {kinds : List String}

theorem Hangs.mem (h : d.Hangs holder kinds n) : n ∈ d.root.nodes := by
  obtain ⟨a, p, hp, _, ha, _, hn⟩ := h
  exact mem_of_mem_children (mem_of_mem_children hp ha) hn

/-- Around a node that hangs on a holder no node but the holder has its range. -/
theorem Regular.eq_or_holder_of_hangs (hd : d.Regular) (hkinds : ∀ kind ∈ kinds, kind ∈ firmKinds)
    (hn : d.Hangs holder kinds n) (hm : m ∈ d.root.nodes) (hnm : n ∈ m.nodes)
    (hspot : n.spot = m.spot) :
    m = n ∨ m.kind = holder ∧ n ∈ m.children ∧
      ∃ p, m.parent? = some p ∧ p.kind ∈ kinds := by
  obtain ⟨a, p, hp, hkind, ha, hholder, hna⟩ := hn
  have hamem := mem_of_mem_children hp ha
  rcases eq_or_mem_nodes_of_mem_children hamem hna hnm with heq | ham
  · exact Or.inl heq
  · have houtermost := (hd.outer_of_parent hp ha (hkinds _ hkind)).2
    have hspot' : a.spot = m.spot :=
      hd.spot_eq_of_between hm ham (Node.mem_nodes_of_mem_children hna) hspot
    obtain rfl := hd.eq_of_isOutermost hm ham hspot' houtermost
    exact Or.inr ⟨hholder, hna, p, Node.parent?_of_mem_children ha, hkind⟩

/-- No outermost node but the holder has the range of a node that hangs on it. -/
theorem Regular.eq_or_holder_of_outer (hd : d.Regular) (hkinds : ∀ kind ∈ kinds, kind ∈ firmKinds)
    (hn : d.Hangs holder kinds n) (hm : d.Outer m) (hspot : n.spot = m.spot) :
    m = n ∨ m.kind = holder ∧ n ∈ m.children ∧
      ∃ p, m.parent? = some p ∧ p.kind ∈ kinds := by
  rcases hd.mem_nodes_or_mem_nodes_of_spot_eq hn.mem hm.1 hspot with h | h
  · exact hd.eq_or_holder_of_hangs hkinds hn hm.1 h hspot
  · exact Or.inl (hd.eq_of_isOutermost hn.mem h hspot.symm hm.2)

theorem Regular.separated_hangs (hd : d.Regular) (hkinds : ∀ kind ∈ kinds, kind ∈ firmKinds)
    (hholder : holder ∉ kinds) : Separated (d.Hangs holder kinds) := by
  have hone : ∀ m n, d.Hangs holder kinds m → d.Hangs holder kinds n → n ∈ m.nodes →
      n.spot = m.spot → m = n := by
    intro m n hm hn hnm hspot
    rcases hd.eq_or_holder_of_hangs hkinds hn hm.mem hnm hspot with heq | ⟨_, _, p, hp, hkind⟩
    · exact heq
    · obtain ⟨a, _, _, _, _, ha, hma⟩ := hm
      obtain rfl : a = p := Option.some_inj.mp ((Node.parent?_of_mem_children hma).symm.trans hp)
      exact absurd (ha ▸ hkind) hholder
  intro m n hm hn hspot
  rcases hd.mem_nodes_or_mem_nodes_of_spot_eq hm.mem hn.mem hspot with h | h
  · exact (hone n m hn hm h hspot).symm
  · exact hone m n hm hn h hspot.symm

end Document

/-! ## Lists of what is found for some things -/

/-- Nothing is found twice where it is found for one thing only. -/
theorem nodup_flatMap_of_inj {xs : List α} (hxs : xs.Nodup) {f : α → List β}
    (hf : ∀ x ∈ xs, (f x).Nodup)
    (hinj : ∀ x ∈ xs, ∀ z ∈ xs, ∀ y, y ∈ f x → y ∈ f z → x = z) : (xs.flatMap f).Nodup := by
  rw [List.nodup_flatMap]
  refine ⟨hf, hxs.imp_of_mem fun {x z} hx hz hne => ?_⟩
  exact fun y hyx hyz => hne (hinj x hx z hz y hyx hyz)

/-- Nothing is found twice where it leads back to what it is found for. -/
theorem nodup_flatMap_of_back {xs : List α} (hxs : xs.Nodup) {f : α → List β}
    (back : β → Option α) (hf : ∀ x ∈ xs, (f x).Nodup)
    (hback : ∀ x ∈ xs, ∀ y ∈ f x, back y = some x) : (xs.flatMap f).Nodup := by
  refine nodup_flatMap_of_inj hxs hf fun x hx z hz y hyx hyz => ?_
  exact Option.some_inj.mp ((hback x hx y hyx).symm.trans (hback z hz y hyz))

theorem nodup_filterMap_of_back {xs : List α} (hxs : xs.Nodup) {f : α → Option β}
    (back : β → Option α) (hback : ∀ x ∈ xs, ∀ y, f x = some y → back y = some x) :
    (xs.filterMap f).Nodup := by
  rw [List.filterMap_eq_flatMap_toList]
  refine nodup_flatMap_of_back hxs back (fun x _ => ?_) fun x hx y hy => ?_
  · cases f x with
    | none => exact List.nodup_nil
    | some y => exact List.nodup_singleton y
  · exact hback x hx y (Option.mem_toList.mp hy)

end CodeConventions
