import CodeConventions.Proofs.Source.Place
import CodeConventions.Proofs.Tree.Climb
import CodeConventions.Proofs.Tree.Range
import CodeConventions.Text.Utf8
import CodeConventions.Types.Mutability

/-!
# What the grammar says of nodes

A parse tree is read from a text by a grammar, and a rule of the grammar that writes a token beside
its parts never gives a part the range of the whole.  A call has its parentheses, a declaration its
keyword, a wrapper what it wraps with.  Such nodes are *firm*: none of their children has their
range. A declarator without a value, an attribute without a value or a member without a type may be
nothing but a name, and are not firm.

A document is *regular* when its tree is as the grammar makes it, as far as ranges of nodes are
concerned.

A parser gives each node a range of the source.  A document is *well-formed* when the source is a
text and the ranges fit it: they are nested and in order, none begins or ends inside a character,
and quoted texts stand between quotes.  The span of a node then names a range of the source, and the
text of a node takes up the node's range.
-/

namespace CodeConventions

/-- The kinds of nodes that are more than any one of their children. -/
def firmKinds : List String :=
  ["identifier", "lexical_declaration", "variable_declaration", "for_in_statement",
    "throw_statement", "import_statement", "type_alias_declaration", "interface_declaration",
    "call_expression", "new_expression", "arguments", "member_expression", "subscript_expression",
    "assignment_expression", "augmented_assignment_expression", "update_expression",
    "unary_expression", "binary_expression", "ternary_expression", "array", "object", "pair",
    "object_pattern", "type_annotation", "object_type", "interface_body", "array_type",
    "tuple_type", "generic_type", "union_type", "intersection_type", "parenthesized_type",
    "jsx_element", "jsx_opening_element", "jsx_self_closing_element", "jsx_namespace_name",
    "jsx_expression"] ++ wrapperKinds ++ functionKinds

/-- The kinds of nodes that are quoted texts. -/
def quotedKinds : List String := ["string", "template_string"]

/-- The quoted texts of the document. -/
structure Document.Quoting (d : Document) : Prop where
  /-- The text of a quoted text takes up its range. -/
  quoted : ∀ n ∈ d.root.nodes, n.kind ∈ quotedKinds →
    Text.Utf8.byteLength (d.text n).toList = n.stop - n.start
  /-- No quoted text lies in another one, but where a value is put in. -/
  unmixed : ∀ n ∈ d.root.nodes, n.kind ∈ quotedKinds →
    (n.kind = "template_string" → ∀ c ∈ n.parts, c.kind ≠ "template_substitution") →
    ∀ c ∈ n.children, ∀ m ∈ c.nodes, m.kind ∉ quotedKinds

/-- The tree of the document is as the grammar makes it. -/
structure Document.Regular (d : Document) : Prop extends d.Nested, d.Quoting where
  firm : ∀ n ∈ d.root.nodes, n.kind ∈ firmKinds → n.IsInnermost
  /-- What has a type or a value written to it has something else, too. -/
  typed : ∀ n ∈ d.root.nodes, (n.child? "type").isSome → n.IsInnermost
  valued : ∀ n ∈ d.root.nodes, (n.child? "value").isSome → n.IsInnermost
  /-- A statement that returns nothing may be the bare keyword. -/
  returning : ∀ n ∈ d.root.nodes, n.kind = "return_statement" →
    ∀ c ∈ n.children, c.spot = n.spot → c.kind = "return" ∧ c.children.length = 0
  /-- The parameters of a function stand in a list, or are one name. -/
  parameters : ∀ n ∈ d.root.nodes, n.isFunction → ∀ c ∈ n.child? "parameters",
    c.kind = "formal_parameters"
  parameter : ∀ n ∈ d.root.nodes, n.isFunction → ∀ c ∈ n.child? "parameter",
    c.kind = "identifier"
  /-- A name has no dot. -/
  named : ∀ n ∈ d.root.nodes, n.kind = "identifier" → '.' ∉ (d.text n).toList

/-! ## Deciding what a tree is like -/

instance (n : Node) : Decidable n.IsInnermost :=
  inferInstanceAs (Decidable (∀ c ∈ n.children, c.spot ≠ n.spot))

instance (d : Document) : Decidable d.Nested :=
  decidable_of_iff
    ((∀ n ∈ d.root.nodes, ∀ c ∈ n.children, n.start ≤ c.start ∧ c.stop ≤ n.stop) ∧
      (∀ n ∈ d.root.nodes, n.children.Pairwise fun a b => a.stop ≤ b.start) ∧
        ∀ n ∈ d.root.nodes, ∀ c ∈ n.children, c.start < c.stop)
    ⟨fun ⟨hwithin, hordered, hnonempty⟩ => ⟨hwithin, hordered, hnonempty⟩,
      fun h => ⟨h.within, h.ordered, h.nonempty⟩⟩

instance (d : Document) : Decidable d.Quoting :=
  decidable_of_iff
    ((∀ n ∈ d.root.nodes, n.kind ∈ quotedKinds →
        Text.Utf8.byteLength (d.text n).toList = n.stop - n.start) ∧
      ∀ n ∈ d.root.nodes, n.kind ∈ quotedKinds →
        (n.kind = "template_string" → ∀ c ∈ n.parts, c.kind ≠ "template_substitution") →
        ∀ c ∈ n.children, ∀ m ∈ c.nodes, m.kind ∉ quotedKinds)
    ⟨fun ⟨hquoted, hunmixed⟩ => ⟨hquoted, hunmixed⟩, fun h => ⟨h.quoted, h.unmixed⟩⟩

instance (d : Document) : Decidable d.Regular :=
  decidable_of_iff
    (d.Nested ∧ d.Quoting ∧ ∀ n ∈ d.root.nodes,
      (n.kind ∈ firmKinds → n.IsInnermost) ∧
      ((n.child? "type").isSome → n.IsInnermost) ∧
      ((n.child? "value").isSome → n.IsInnermost) ∧
      (n.kind = "return_statement" →
        ∀ c ∈ n.children, c.spot = n.spot → c.kind = "return" ∧ c.children.length = 0) ∧
      (n.isFunction → ∀ c ∈ n.child? "parameters", c.kind = "formal_parameters") ∧
      (n.isFunction → ∀ c ∈ n.child? "parameter", c.kind = "identifier") ∧
      (n.kind = "identifier" → '.' ∉ (d.text n).toList))
    ⟨fun ⟨hnested, hquoting, h⟩ => ⟨hnested, hquoting, fun n hn => (h n hn).1,
        fun n hn => (h n hn).2.1, fun n hn => (h n hn).2.2.1, fun n hn => (h n hn).2.2.2.1,
        fun n hn => (h n hn).2.2.2.2.1, fun n hn => (h n hn).2.2.2.2.2.1,
        fun n hn => (h n hn).2.2.2.2.2.2⟩,
      fun h => ⟨h.toNested, h.toQuoting, fun n hn => ⟨h.firm n hn, h.typed n hn, h.valued n hn,
        h.returning n hn, h.parameters n hn, h.parameter n hn, h.named n hn⟩⟩⟩

/-! ## Trees that fit their source -/

/-- The bytes that a quoted text may begin and end with. -/
def quoteBytes : List UInt8 := [0x22, 0x27, 0x60]

/-- The ranges of the nodes fit the source, which is a text. -/
structure Document.WellFormed (d : Document) : Prop where
  text : ∃ cs, Text.Utf8.decodeStrict d.source.bytes.toList = .ok cs
  ordered : ∀ n ∈ d.root.nodes, n.start ≤ n.stop
  within : ∀ n ∈ d.root.nodes, ∀ c ∈ n.children, n.start ≤ c.start ∧ c.stop ≤ n.stop
  apart : ∀ n ∈ d.root.nodes, n.children.Pairwise fun a b => a.stop ≤ b.start
  bounded : ∀ n ∈ d.root.nodes, n.stop ≤ d.source.size
  boundary : ∀ n ∈ d.root.nodes, d.source.IsBoundary n.start ∧ d.source.IsBoundary n.stop
  /-- A quoted text begins and ends with a quote of one byte. -/
  quotes : ∀ n ∈ d.root.nodes, n.kind ∈ quotedKinds → n.start + 2 ≤ n.stop ∧
    ∃ q ∈ quoteBytes, d.source.bytes.toList[n.start]? = some q ∧
      d.source.bytes.toList[n.stop - 1]? = some q

namespace Document.WellFormed

variable {d : Document} {n : Node}

theorem spells_source (hd : d.WellFormed) : ∃ cs, Text.Utf8.Spells d.source.bytes.toList cs := by
  obtain ⟨cs, hcs⟩ := hd.text
  exact ⟨cs, Text.Utf8.spells_of_decodeStrict hcs⟩

/-- The text of a node takes up its range. -/
theorem byteLength_text (hd : d.WellFormed) (hn : n ∈ d.root.nodes) :
    Text.Utf8.byteLength (d.text n).toList = n.stop - n.start := by
  obtain ⟨cs, hcs⟩ := hd.spells_source
  obtain ⟨hstart, hstop⟩ := hd.boundary n hn
  exact SourceText.byteLength_textIn hcs hstart hstop (hd.ordered n hn) (hd.bounded n hn)

/-- The span of a node names a range of the source. -/
theorem locates_spanOf (hd : d.WellFormed) (hn : n ∈ d.root.nodes) :
    d.source.Locates (d.spanOf n) :=
  d.source.locates_spanOf (hd.ordered n hn) (hd.bounded n hn)

end Document.WellFormed

/-! ## Deciding whether a tree fits -/

instance (t : SourceText) (offset : Nat) : Decidable (t.IsBoundary offset) :=
  inferInstanceAs (Decidable (∀ b ∈ t.bytes.toList[offset]?, Text.Utf8.isTail b = false))

instance (d : Document) : Decidable d.WellFormed :=
  decidable_of_iff
    ((Text.Utf8.decodeStrict d.source.bytes.toList).toOption.isSome ∧
      ∀ n ∈ d.root.nodes, n.start ≤ n.stop ∧
        (∀ c ∈ n.children, n.start ≤ c.start ∧ c.stop ≤ n.stop) ∧
        (n.children.Pairwise fun a b => a.stop ≤ b.start) ∧
        n.stop ≤ d.source.size ∧
        (d.source.IsBoundary n.start ∧ d.source.IsBoundary n.stop) ∧
        (n.kind ∈ quotedKinds → n.start + 2 ≤ n.stop ∧
          ∃ q ∈ quoteBytes, d.source.bytes.toList[n.start]? = some q ∧
            d.source.bytes.toList[n.stop - 1]? = some q))
    ⟨fun ⟨htext, h⟩ => ⟨(Option.isSome_iff_exists.mp htext).imp fun _ => Except.toOption_eq_some_iff.mp,
        fun n hn => (h n hn).1, fun n hn => (h n hn).2.1, fun n hn => (h n hn).2.2.1,
        fun n hn => (h n hn).2.2.2.1, fun n hn => (h n hn).2.2.2.2.1,
        fun n hn => (h n hn).2.2.2.2.2⟩,
      fun h => ⟨Option.isSome_iff_exists.mpr (h.text.imp fun _ => Except.toOption_eq_some_iff.mpr),
        fun n hn => ⟨h.ordered n hn, h.within n hn, h.apart n hn, h.bounded n hn,
          h.boundary n hn, h.quotes n hn⟩⟩⟩

end CodeConventions
