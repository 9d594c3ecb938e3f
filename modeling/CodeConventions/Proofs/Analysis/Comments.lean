import CodeConventions.Proofs.Edit.Analysis

/-!
# Comments do not influence an analysis

Deleting the comments of a tree changes nothing of what the rules of the library say of a file,
whatever their options are: not what is found, nor where, nor how it is ordered.

Deleting them is an edit of the document that puts nothing in front of the source, so that nothing
moves.  The comments must be as a parser makes them.  They have nothing below them and no role in
their parent, and none stands before the opening bracket of an array pattern.
-/

namespace CodeConventions

namespace ParseTree

mutual

/-- The tree without the comments below its root. -/
def withoutComments : ParseTree → ParseTree
  | .node l cs => .node l (withoutCommentsAll cs)

/-- Several trees without the comments among them and below their roots. -/
def withoutCommentsAll : List ParseTree → List ParseTree
  | [] => []
  | c :: cs =>
    if c.label.kind = "comment" then withoutCommentsAll cs
    else withoutComments c :: withoutCommentsAll cs

end

theorem withoutCommentsAll_eq (ts : List ParseTree) :
    withoutCommentsAll ts = (ts.filter fun t => t.label.kind != "comment").map withoutComments := by
  induction ts with
  | nil => rfl
  | cons t ts ih =>
    rw [withoutCommentsAll, ih]
    by_cases hkind : t.label.kind = "comment" <;> simp [hkind]

end ParseTree

namespace Document

/-- The document with all comments deleted from its tree; its source is what it was. -/
def withoutComments (d : Document) : Document := { d with tree := d.tree.withoutComments }

/-- The comments of the document are leaves without a role, and none stands before the bracket that
opens an array pattern. -/
structure HasPlainComments (d : Document) : Prop where
  leaf : ∀ n ∈ d.root.nodes, n.kind = "comment" → n.tree.children = []
  roleless : ∀ n ∈ d.root.nodes, n.kind = "comment" → n.tree.label.field = none
  bracket : ∀ n ∈ d.root.nodes, n.kind = "array_pattern" →
    ∀ c ∈ n.children.head?, c.kind ≠ "comment"

end Document

/-- The edit that deletes comments and nothing else. -/
def Edit.silence : Edit := ⟨[], Or.inl rfl, true⟩

/-- Nothing moves when comments are deleted. -/
theorem Diagnostic.moved_silence (x : Diagnostic) : x.moved Edit.silence = x := by
  simp [moved, Span.moved, Edit.silence, Edit.offset, Edit.lines]

theorem Node.edited_silence (n : Node)
    (hbare : ∀ m ∈ n.nodes, m.kind = "comment" →
      m.tree.children = [] ∧ m.tree.label.field = none) :
    n.tree.edited Edit.silence = n.tree.withoutComments := by
  induction n using childrenInduction with
  | step n ih =>
    obtain ⟨⟨l, ts⟩, above⟩ := n
    have hbelow : ∀ t ∈ ts, ∀ m ∈ Node.nodes ⟨t, .node l ts :: above⟩,
        m ∈ Node.nodes ⟨.node l ts, above⟩ := fun t ht m hm =>
      mem_nodes_iff.mpr (Or.inr ⟨⟨t, .node l ts :: above⟩, List.mem_map_of_mem ht, hm⟩)
    have homits : ∀ t ∈ ts, (!Edit.silence.omits t) = (t.label.kind != "comment") := by
      intro t ht
      by_cases hkind : t.label.kind = "comment"
      · obtain ⟨hleaf, hrole⟩ := hbare _ (hbelow t ht _ (self_mem_nodes _)) hkind
        simp [Edit.omits, Edit.silence, hkind, hleaf, hrole]
      · have hne : (t.label.kind == "comment") = false := beq_false_of_ne hkind
        simp [Edit.omits, bne, hne]
    rw [ParseTree.edited, ParseTree.withoutComments, ParseTree.editedAll_eq,
      ParseTree.withoutCommentsAll_eq, List.filter_congr homits]
    refine congrArg₂ _ rfl (List.map_congr_left fun t ht => ?_)
    have hmem := (List.mem_filter.mp ht).1
    exact ih ⟨t, .node l ts :: above⟩ (List.mem_map_of_mem hmem) fun m hm =>
      hbare m (hbelow t hmem m hm)

namespace Document

variable {d : Document}

theorem HasPlainComments.edited_silence (hd : d.HasPlainComments) :
    d.edited Edit.silence = d.withoutComments := by
  have htree := Node.edited_silence d.root fun m hm hkind =>
    ⟨hd.leaf m hm hkind, hd.roleless m hm hkind⟩
  have hsource : d.source.edited Edit.silence = d.source := by
    simp [SourceText.edited, Edit.silence]
  unfold edited withoutComments
  rw [hsource]
  exact congrArg (Document.mk d.path d.source) htree

theorem HasPlainComments.keepsBrackets (hd : d.HasPlainComments) :
    Edit.silence.KeepsBrackets d := by
  intro n hn hkind c hc
  by_contra homit
  exact hd.bracket n hn hkind c hc (ParseTree.kind_of_omits (Bool.not_eq_false _ ▸ homit))

/-- What the rules of the library say of a file is what they say of it without its comments. -/
theorem analyze_withoutComments (hclean : d.hasErrors = false) (hd : d.HasPlainComments)
    {rules : List Rule} (hrules : ∀ r ∈ rules, r.IsBuiltin) :
    d.withoutComments.analyze rules = d.analyze rules := by
  have hdiagnostics : ∀ r ∈ rules,
      r.diagnostics (d.edited Edit.silence) = r.diagnostics d := by
    intro r hr
    cases hfails : r.failsOn d with
    | true => exact (hrules r hr).diagnostics_edited_of_failsOn hd.keepsBrackets hfails
    | false =>
      rw [(hrules r hr).diagnostics_edited hd.keepsBrackets hfails]
      exact (List.map_congr_left fun x _ => x.moved_silence).trans (List.map_id _)
  rw [← hd.edited_silence, analyze_eq_merge (hasErrors_edited hclean), analyze_eq_merge hclean,
    List.flatMap_congr hdiagnostics]

/-! ## A comment in a pattern -/

instance (d : Document) : Decidable d.HasPlainComments :=
  decidable_of_iff
    ((∀ n ∈ d.root.nodes, n.kind = "comment" → n.tree.children.length = 0) ∧
      (∀ n ∈ d.root.nodes, n.kind = "comment" → n.tree.label.field = none) ∧
        ∀ n ∈ d.root.nodes, n.kind = "array_pattern" →
          ∀ c ∈ n.children.head?, c.kind ≠ "comment")
    ⟨fun ⟨hleaf, hrole, hbracket⟩ =>
        ⟨fun n hn hkind => List.length_eq_zero_iff.mp (hleaf n hn hkind), hrole, hbracket⟩,
      fun h => ⟨fun n hn hkind => List.length_eq_zero_iff.mpr (h.leaf n hn hkind), h.roleless,
        h.bracket⟩⟩

/-- The file `let [/* c */ a] = b;`. -/
def commented : Document :=
  ⟨"a.ts", .ofString "let [/* c */ a] = b;",
    .node ⟨"program", true, false, none, 0, 20⟩
      [.node ⟨"lexical_declaration", true, false, none, 0, 20⟩
        [.node ⟨"let", false, false, some "kind", 0, 3⟩ [],
          .node ⟨"variable_declarator", true, false, none, 4, 19⟩
            [.node ⟨"array_pattern", true, false, some "name", 4, 15⟩
              [.node ⟨"[", false, false, none, 4, 5⟩ [],
                .node ⟨"comment", true, false, none, 5, 12⟩ [],
                .node ⟨"identifier", true, false, none, 13, 14⟩ [],
                .node ⟨"]", false, false, none, 14, 15⟩ []],
              .node ⟨"=", false, false, none, 16, 17⟩ [],
              .node ⟨"identifier", true, false, some "value", 18, 19⟩ []],
          .node ⟨";", false, false, none, 19, 20⟩ []]]⟩

/-- Without its comment the file has one node less, and all rules say of it what they said; one of
them finds something. -/
theorem analyze_commented :
    commented.hasErrors = false ∧ commented.HasPlainComments ∧
      (∀ r ∈ Rule.builtin, r.IsBuiltin) ∧
      commented.withoutComments.root.nodes.length + 1 = commented.root.nodes.length ∧
      commented.withoutComments.analyze Rule.builtin = commented.analyze Rule.builtin ∧
      ∃ f, (Check.reassignableBindings {}).findings commented = .ok [f] := by
  have hclean : commented.hasErrors = false := by decide
  have hcomments : commented.HasPlainComments := by decide +kernel
  have hrules : ∀ r ∈ Rule.builtin, r.IsBuiltin := fun r hr => Rule.isBuiltin_of_mem_builtin hr
  exact ⟨hclean, hcomments, hrules, by decide +kernel,
    analyze_withoutComments hclean hcomments hrules,
    ⟨"functional/no-let", ⟨4, 15, 1, 5, 1, 16⟩, "Unexpected let, use const instead."⟩,
    Except.toOption_eq_some_iff.mp (by decide +kernel)⟩

end Document

end CodeConventions
