import CodeConventions.Proofs.Rules.Apart

/-!
# Remarks on nodes

A remark is *on* a node of a document when its span is the span of the node.  Rules put their
remarks together from parts, and the remarks are on nodes when those of each part are.
-/

namespace CodeConventions.Document

variable {α : Type} {d : Document} {n : Node} {r : Remark} {rs qs : List Remark}

/-- The remark is on a node of the document. -/
def IsOnNode (d : Document) (r : Remark) : Prop := ∃ n ∈ d.root.nodes, r.span = d.spanOf n

/-- The remarks are on nodes of the document. -/
def OnNodes (d : Document) (rs : List Remark) : Prop := ∀ r ∈ rs, d.IsOnNode r

theorem isOnNode_remark (hn : n ∈ d.root.nodes) (message : String) :
    d.IsOnNode (d.remark n message) :=
  ⟨n, hn, rfl⟩

theorem isOnNode_of_map {fault : Option String} (hn : n ∈ d.root.nodes)
    (h : fault.map (d.remark n) = some r) : d.IsOnNode r := by
  obtain ⟨message, _, rfl⟩ := Option.map_eq_some_iff.mp h
  exact isOnNode_remark hn message

theorem onNodes_nil : d.OnNodes [] := fun _ hr => absurd hr List.not_mem_nil

theorem onNodes_singleton (hn : n ∈ d.root.nodes) (message : String) :
    d.OnNodes [d.remark n message] := by
  intro r hr
  rw [List.mem_singleton.mp hr]
  exact isOnNode_remark hn message

theorem OnNodes.append (hrs : d.OnNodes rs) (hqs : d.OnNodes qs) : d.OnNodes (rs ++ qs) := by
  intro r hr
  rcases List.mem_append.mp hr with hr | hr
  · exact hrs r hr
  · exact hqs r hr

variable {xs : List α}

theorem onNodes_flatMap {f : α → List Remark} (h : ∀ x ∈ xs, d.OnNodes (f x)) :
    d.OnNodes (xs.flatMap f) := by
  intro r hr
  obtain ⟨x, hx, hr⟩ := List.mem_flatMap.mp hr
  exact h x hx r hr

theorem onNodes_filterMap {f : α → Option Remark}
    (h : ∀ x ∈ xs, ∀ r, f x = some r → d.IsOnNode r) : d.OnNodes (xs.filterMap f) := by
  intro r hr
  obtain ⟨x, hx, hr⟩ := List.mem_filterMap.mp hr
  exact h x hx r hr

theorem onNodes_map {ns : List Node} {message : Node → String}
    (h : ∀ n ∈ ns, n ∈ d.root.nodes) : d.OnNodes (ns.map fun n => d.remark n (message n)) := by
  intro r hr
  obtain ⟨n, hn, rfl⟩ := List.mem_map.mp hr
  exact isOnNode_remark (h n hn) (message n)

/-- Remarks about some of the nodes of certain kinds. -/
theorem onNodes_find {kinds : List String} {p : Node → Bool} {message : Node → String} :
    d.OnNodes (((d.find kinds).filter p).map fun n => d.remark n (message n)) :=
  onNodes_map fun _ hn => (mem_of_mem_find (List.mem_filter.mp hn).1).1

theorem onNodes_remarksFor {f : α → Remarks} (hrs : remarksFor xs f = .ok rs)
    (h : ∀ x ∈ xs, ∀ found, f x = .ok found → d.OnNodes found) : d.OnNodes rs := by
  obtain ⟨g, hg, rfl⟩ := remarksFor_eq_ok hrs
  exact onNodes_flatMap fun x hx => h x hx _ (hg x hx)

end CodeConventions.Document
