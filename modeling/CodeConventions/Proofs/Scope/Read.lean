import CodeConventions.Proofs.Scope.Declaration
import CodeConventions.Scope.Read

/-!
# Which names are read

Whether a name is read is told from the node in which it is used.  A declarator, a parameter and a
pattern introduce the names in them, so a name that a declaration introduces is not read; but the
heads of loops and of catch clauses are not asked, and the one name that such a head may be is read
like any other.  On the other side a default value stands in the same node as the pattern that it is
the default of, and a name that is the whole default is taken for introduced.

`iterating` has both: the variable of its loop is read, and the default of its parameter is not.
-/

namespace CodeConventions

/-- The kinds of nodes with a head that may declare names. -/
def headKinds : List String := ["for_in_statement", "catch_clause"]

/-- A parameter in a list is never a bare name: there is always a node around it that has room for
an annotation. -/
def Document.AnnotatesParameters (d : Document) : Prop :=
  ∀ fn ∈ d.root.nodes, fn.isFunction = true → ∀ p ∈ fn.parameterList, p.kind ≠ "identifier"

instance (d : Document) : Decidable d.AnnotatesParameters :=
  inferInstanceAs (Decidable (∀ fn ∈ d.root.nodes, fn.isFunction = true →
    ∀ p ∈ fn.parameterList, p.kind ≠ "identifier"))

/-- The expression is the default value of a parameter or of a part of a pattern. -/
inductive Node.IsDefaultOf (n p : Node) : Prop
  | parameter (hkind : p.kind ∈ Node.parameterKinds) (hvalue : p.operand? "value" = some n)
  | pattern (hkind : p.kind ∈ ["assignment_pattern", "object_assignment_pattern"])
      (hright : p.operand? "right" = some n)

namespace Document

variable {d : Document} {h i n own p r : Node}

theorem mem_reads_iff : i ∈ d.reads r ↔ i ∈ r.nodes ∧ d.isRead i = true := List.mem_filter

/-! ## By the node in which a name is used -/

/-- A name that is used in a parameter or in a pattern is not read. -/
theorem isRead_of_introducing (hi : i.kind = "identifier") (hp : i.climb? = some p)
    (hkind : p.kind ∈ introducingKinds) : d.isRead i = false := by
  simp [isRead, hi, hp, Node.isOneOf, hkind]

theorem isRead_of_parent? (hi : i.kind = "identifier") (hp : i.parent? = some p)
    (hkind : p.kind ∈ introducingKinds) : d.isRead i = false :=
  isRead_of_introducing hi
    (Node.climb?_of_parent? hp (Node.not_isWrapper_of_kind hkind (by decide))) hkind

/-- The name of a declarator is not read. -/
theorem isRead_of_declarator (hi : i.kind = "identifier") (hkind : h.kind = "variable_declarator")
    (hname : h.child? "name" = some i) : d.isRead i = false := by
  have hclimb : i.climb? = some h := Node.climb?_of_mem_children (Node.mem_children_of_child? hname)
    (Node.not_isWrapper_of_kind (List.mem_singleton.mpr hkind) (by decide))
  have hin : i.isIn h "name" = true := by simp [Node.isIn, hname, Node.same]
  simp [isRead, hi, hclimb, hkind, hin]

/-- The only parameter of a function, without parentheses, is not read. -/
theorem Nested.isRead_of_parameter (hd : d.Nested) (hh : h ∈ d.root.nodes)
    (hfn : h.isFunction = true) (hi : i.kind = "identifier") (hp : h.child? "parameter" = some i) :
    d.isRead i = false := by
  have hmem := Node.mem_children_of_child? hp
  have hclimb : i.climb? = some h := Node.climb?_of_mem_children hmem fun hwrapper => by
    rw [Node.isFunction_eq_false_of_isWrapper hwrapper] at hfn
    cases hfn
  have hbody : i.isOperandOf h "body" = false := by
    rw [Bool.eq_false_iff, ne_eq, Node.isOperandOf, Option.any_eq_true]
    rintro ⟨o, ho, hsame⟩
    obtain ⟨b, hb, rfl⟩ := Option.map_eq_some_iff.mp ho
    have hbmem := Node.mem_children_of_child? hb
    have hne : i ≠ b := by
      rintro rfl
      have hfield := (Node.field_of_child? hp).symm.trans (Node.field_of_child? hb)
      exact absurd (Option.some_inj.mp hfield) (by decide)
    -- the body lies beside the parameter, and so does all that is in it
    have hwithin := hd.within_of_mem_nodes (mem_of_mem_children hh hbmem) b.unwrap_mem_nodes
    have hkey : i.key = b.unwrap.key := beq_iff_eq.mp hsame
    simp only [Node.key, Prod.mk.injEq] at hkey
    have hlt := hd.nonempty h hh i hmem
    have hapart := hd.apart_of_mem_children hh hmem hbmem hne
    omega
  simp [isRead, hi, hclimb, hfn, hbody]

/-- The name that is the head of a loop or of a catch clause is read. -/
theorem isRead_of_head (hi : i.kind = "identifier") (hp : i.parent? = some h)
    (hkind : h.kind ∈ headKinds) : d.isRead i = true := by
  have hclimb := Node.climb?_of_parent? hp (Node.not_isWrapper_of_kind hkind (by decide))
  have hfn := Node.not_isFunction_of_kind hkind (by decide)
  simp only [headKinds, List.mem_cons, List.not_mem_nil, or_false] at hkind
  rcases hkind with hkind | hkind <;>
    simp [isRead, hi, hclimb, hkind, hfn, Node.isOneOf, introducingKinds]

/-! ## Names that declarations introduce -/

theorem Nested.isRead_of_mem_parameters (hd : d.Nested) (hparameters : d.AnnotatesParameters)
    (hh : h ∈ d.root.nodes) (hfn : h.isFunction = true) (hi : i.kind = "identifier")
    (hp : i ∈ h.parameters) : d.isRead i = false := by
  have hkinds : ∀ kind ∈ Node.parameterKinds, kind ∈ introducingKinds := by decide
  rcases Node.parameter_cases hp with honly | ⟨q, _, hq, hpattern⟩ | hlist
  · exact hd.isRead_of_parameter hh hfn hi honly
  · exact isRead_of_parent? hi (Node.parent?_of_child? hpattern) (hkinds _ hq)
  · exact absurd hi (hparameters h hh hfn i hlist)

/-- The places of the patterns that declarations are made of. -/
theorem exists_place_of_introduces (hi : h.Introduces i own) :
    ∃ p : Node, i ∈ p.boundNames ∧
      (h.kind = "variable_declarator" ∧ h.child? "name" = some p ∨
        h.isFunction = true ∧ p ∈ h.parameters ∨ h.kind ∈ headKinds ∧ p.parent? = some h) := by
  cases hi with
  | «variable» hkind hname hi => exact ⟨_, hi, Or.inl ⟨hkind, hname⟩⟩
  | parameter hfn hp hi => exact ⟨_, hi, Or.inr (Or.inl ⟨hfn, hp⟩)⟩
  | looped hkind _ hleft hi =>
    exact ⟨_, hi, Or.inr (Or.inr ⟨by rw [hkind]; decide, Node.parent?_of_child? hleft⟩)⟩
  | caught hkind hp hi =>
    exact ⟨_, hi, Or.inr (Or.inr ⟨by rw [hkind]; decide, Node.parent?_of_child? hp⟩)⟩

/-- Of the names that declarations introduce, only those are read that are the whole head of a loop
or of a catch clause. -/
theorem Nested.isRead_iff_of_introduces (hd : d.Nested) (hparameters : d.AnnotatesParameters)
    (hh : h ∈ d.root.nodes) (hi : h.Introduces i own) :
    d.isRead i = true ↔ i.kind = "identifier" ∧ i.parent? = some h ∧ h.kind ∈ headKinds := by
  obtain ⟨p, hip, hplace⟩ := exists_place_of_introduces hi
  obtain ⟨hpattern, hparent⟩ := Node.eq_or_parent?_of_mem_boundNames hip
  by_cases hname : i.kind = "identifier"
  swap
  · have hshort : i.kind = "shorthand_property_identifier_pattern" := by
      simpa [namePatternKinds, hname] using hpattern
    simp [isRead, hshort]
  -- a name inside a pattern is used in the pattern, and a whole pattern in what holds it
  rcases hparent with rfl | ⟨q, hq, hqkind⟩
  · rcases hplace with ⟨hkind, hchild⟩ | ⟨hfn, hparameter⟩ | ⟨hkind, hhead⟩
    · refine iff_of_false (by rw [isRead_of_declarator hname hkind hchild]; decide) ?_
      rintro ⟨_, _, hhead⟩
      rw [hkind] at hhead
      exact absurd hhead (by decide)
    · have hread := hd.isRead_of_mem_parameters hparameters hh hfn hname hparameter
      refine iff_of_false (by rw [hread]; decide) ?_
      rintro ⟨_, _, hhead⟩
      rw [Node.not_isFunction_of_kind hhead (by decide)] at hfn
      cases hfn
    · exact iff_of_true (isRead_of_head hname hhead hkind) ⟨hname, hhead, hkind⟩
  · have hkinds : ∀ kind ∈ compoundPatternKinds, kind ∈ introducingKinds := by decide
    refine iff_of_false (by rw [isRead_of_parent? hname hq (hkinds _ hqkind)]; decide) ?_
    rintro ⟨_, hh, hhead⟩
    obtain rfl := Option.some_inj.mp (hq.symm.trans hh)
    have hkinds : ∀ kind ∈ headKinds, kind ∉ compoundPatternKinds := by decide
    exact hkinds _ hhead hqkind

/-! ## Default values -/

theorem isRead_of_isDefaultOf (hi : n.kind = "identifier") (h : n.IsDefaultOf p) :
    d.isRead n = false := by
  cases h with
  | parameter hkind hvalue =>
    have hkinds : ∀ kind ∈ Node.parameterKinds, kind ∈ introducingKinds := by decide
    exact isRead_of_introducing hi
      (Node.climb?_operand? hvalue (Node.not_isWrapper_of_kind hkind (by decide)))
      (hkinds _ hkind)
  | pattern hkind hright =>
    have hkinds : ∀ kind ∈ ["assignment_pattern", "object_assignment_pattern"],
        kind ∈ introducingKinds := by decide
    exact isRead_of_introducing hi
      (Node.climb?_operand? hright (Node.not_isWrapper_of_kind hkind (by decide)))
      (hkinds _ hkind)

/-- What is read below a node: of the names that declarations introduce, those that are the whole
head of a loop or of a catch clause, and no others; of the names that are default values, none. -/
theorem Nested.reads_of_introduced (hd : d.Nested) (hparameters : d.AnnotatesParameters)
    (r : Node) :
    (∀ h ∈ d.root.nodes, ∀ i own : Node, h.Introduces i own →
        (i ∈ d.reads r ↔
          i ∈ r.nodes ∧ i.kind = "identifier" ∧ i.parent? = some h ∧ h.kind ∈ headKinds)) ∧
      ∀ n p : Node, n.kind = "identifier" → n.IsDefaultOf p → n ∉ d.reads r := by
  refine ⟨fun h hh i own hi => ?_, fun n p hn hdefault hread => ?_⟩
  · rw [mem_reads_iff, hd.isRead_iff_of_introduces hparameters hh hi]
  · rw [mem_reads_iff, isRead_of_isDefaultOf hn hdefault] at hread
    exact absurd hread.2 (by decide)

/-- A function with a default for its parameter goes through what it is given. -/
def iterating : Document :=
  ⟨"a.ts", .ofString "function f(a = b) \x7b for (const x of a) \x7b\x7d \x7d",
    .node ⟨"program", true, false, none, 0, 43⟩ [
      .node ⟨"function_declaration", true, false, none, 0, 43⟩ [
        .node ⟨"function", false, false, none, 0, 8⟩ [],
        .node ⟨"identifier", true, false, some "name", 9, 10⟩ [],
        .node ⟨"formal_parameters", true, false, some "parameters", 10, 17⟩ [
          .node ⟨"(", false, false, none, 10, 11⟩ [],
          .node ⟨"required_parameter", true, false, none, 11, 16⟩ [
            .node ⟨"identifier", true, false, some "pattern", 11, 12⟩ [],
            .node ⟨"=", false, false, none, 13, 14⟩ [],
            .node ⟨"identifier", true, false, some "value", 15, 16⟩ []],
          .node ⟨")", false, false, none, 16, 17⟩ []],
        .node ⟨"statement_block", true, false, some "body", 18, 43⟩ [
          .node ⟨"\x7b", false, false, none, 18, 19⟩ [],
          .node ⟨"for_in_statement", true, false, none, 20, 41⟩ [
            .node ⟨"for", false, false, none, 20, 23⟩ [],
            .node ⟨"(", false, false, none, 24, 25⟩ [],
            .node ⟨"const", false, false, some "kind", 25, 30⟩ [],
            .node ⟨"identifier", true, false, some "left", 31, 32⟩ [],
            .node ⟨"of", false, false, some "operator", 33, 35⟩ [],
            .node ⟨"identifier", true, false, some "right", 36, 37⟩ [],
            .node ⟨")", false, false, none, 37, 38⟩ [],
            .node ⟨"statement_block", true, false, some "body", 39, 41⟩ [
              .node ⟨"\x7b", false, false, none, 39, 40⟩ [],
              .node ⟨"\x7d", false, false, none, 40, 41⟩ []]],
          .node ⟨"\x7d", false, false, none, 42, 43⟩ []]]]⟩

/-- The variable of the loop and the default of the parameter, each where it stands. -/
private theorem exists_names_iterating :
    (∃ h ∈ iterating.find ["for_in_statement"], (h.child? "kind").isSome ∧
        ∃ p ∈ h.child? "left", ∃ i ∈ p.boundNames, i ∈ iterating.root.nodes ∧
          i.kind = "identifier" ∧ i.parent? = some h ∧ iterating.text i = "x") ∧
      ∃ p ∈ iterating.root.nodes, p.kind ∈ Node.parameterKinds ∧
        ∃ n ∈ p.operand? "value", n ∈ iterating.root.nodes ∧ n.kind = "identifier" ∧
          iterating.text n = "b" := by
  decide +kernel

theorem reads_of_introduced_iterating :
    iterating.hasErrors = false ∧ iterating.Nested ∧ iterating.AnnotatesParameters ∧
      (∃ h ∈ iterating.root.nodes, ∃ i ∈ iterating.root.nodes, h.Introduces i h ∧
        iterating.text i = "x" ∧ i ∈ iterating.reads iterating.root) ∧
      ∃ n ∈ iterating.root.nodes, n.kind = "identifier" ∧ iterating.text n = "b" ∧
        (∃ p, n.IsDefaultOf p) ∧ n ∉ iterating.reads iterating.root := by
  have hd : iterating.Nested := by decide +kernel
  have hparameters : iterating.AnnotatesParameters := by decide +kernel
  obtain ⟨⟨h, hh, hword, p, hleft, i, hi, hmem, hname, hparent, hx⟩, q, _, hq, n, hvalue, hn,
    hidentifier, hb⟩ := exists_names_iterating
  obtain ⟨hhmem, hkind⟩ := mem_of_mem_find hh
  have hkind := List.mem_singleton.mp hkind
  have hintroduces : h.Introduces i h := .looped hkind hword hleft hi
  have hdefault : n.IsDefaultOf q := .parameter hq hvalue
  obtain ⟨hintroduced, hdefaults⟩ := hd.reads_of_introduced hparameters iterating.root
  have hread : i ∈ iterating.reads iterating.root :=
    (hintroduced h hhmem i h hintroduces).mpr ⟨hmem, hname, hparent, by rw [hkind]; decide⟩
  exact ⟨by decide +kernel, hd, hparameters, ⟨h, hhmem, i, hmem, hintroduces, hx, hread⟩, n, hn,
    hidentifier, hb, ⟨q, hdefault⟩, hdefaults n q hidentifier hdefault⟩

/-- A name that the head of a loop declares is among the reads, and a name that is a default value
is not. -/
theorem declared_read_iterating :
    iterating.hasErrors = false ∧
      (∃ h ∈ iterating.find ["for_in_statement"], (h.child? "kind").isSome ∧
        ∃ i ∈ Node.boundNames? (h.child? "left"), i ∈ iterating.reads iterating.root) ∧
      ∃ p ∈ iterating.find Node.parameterKinds, ∃ n ∈ p.operand? "value",
        n.kind = "identifier" ∧ n ∈ iterating.root.nodes ∧
          n ∉ iterating.reads iterating.root := by
  decide +kernel

end Document

end CodeConventions
