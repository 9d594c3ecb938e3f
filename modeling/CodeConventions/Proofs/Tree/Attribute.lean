import CodeConventions.Markup.Basic
import CodeConventions.Proofs.Tree.Argument
import CodeConventions.Proofs.Tree.Separated

/-!
# Tags and attributes

A tag is more than its parts, so its attributes are outermost.  The name of an attribute hangs on
the attribute, which may be nothing but the name.
-/

namespace CodeConventions

/-- The kinds of nodes that are tags with attributes. -/
def tagKinds : List String := ["jsx_opening_element", "jsx_self_closing_element"]

namespace Document

variable {d : Document} {a n tag : Node} {tags : List Node}

theorem mem_of_mem_tags (htag : tag ∈ d.tags) : tag ∈ d.root.nodes ∧ tag.kind ∈ tagKinds :=
  mem_of_mem_find (List.mem_filter.mp htag).1

theorem Nested.tags_nodup (hd : d.Nested) : d.tags.Nodup := (hd.find_nodup _).filter _

theorem Nested.attributesOf_nodup (hd : d.Nested) (htag : tag ∈ d.tags) : tag.attributes.Nodup :=
  (hd.parts_nodup (mem_of_mem_tags htag).1).filter _

theorem Nested.namedAttributesOf_nodup (hd : d.Nested) (htag : tag ∈ d.tags) :
    tag.namedAttributes.Nodup :=
  (hd.attributesOf_nodup htag).filter _

theorem mem_attributes_of_mem_namedAttributes (ha : a ∈ tag.namedAttributes) :
    a ∈ tag.attributes ∧ a.kind = "jsx_attribute" := by
  obtain ⟨ha, hkind⟩ := List.mem_filter.mp ha
  exact ⟨ha, beq_iff_eq.mp hkind⟩

theorem mem_children_of_mem_attributes (ha : a ∈ tag.attributes) : a ∈ tag.children :=
  Node.mem_children_of_mem_parts (List.mem_filter.mp ha).1

theorem parent?_of_mem_attributes (ha : a ∈ tag.attributes) : a.parent? = some tag :=
  Node.parent?_of_mem_children (mem_children_of_mem_attributes ha)

/-- The node is an attribute of a tag, or is spread into one. -/
def IsAttribute (d : Document) (a : Node) : Prop := ∃ tag ∈ d.tags, a ∈ tag.attributes

theorem isAttribute_of_mem_namedAttributes (htag : tag ∈ d.tags) (ha : a ∈ tag.namedAttributes) :
    d.IsAttribute a :=
  ⟨tag, htag, (mem_attributes_of_mem_namedAttributes ha).1⟩

theorem IsAttribute.mem (ha : d.IsAttribute a) : a ∈ d.root.nodes := by
  obtain ⟨tag, htag, ha⟩ := ha
  exact mem_of_mem_children (mem_of_mem_tags htag).1 (mem_children_of_mem_attributes ha)

theorem IsAttribute.parent? (ha : d.IsAttribute a) :
    ∃ tag, a.parent? = some tag ∧ tag.kind ∈ tagKinds := by
  obtain ⟨tag, htag, ha⟩ := ha
  exact ⟨tag, parent?_of_mem_attributes ha,
    (mem_of_mem_tags htag).2⟩

theorem firmKinds_of_tagKinds : ∀ kind ∈ tagKinds, kind ∈ firmKinds := by decide

theorem Regular.outer_of_isAttribute (hd : d.Regular) (ha : d.IsAttribute a) : d.Outer a := by
  obtain ⟨tag, htag, ha⟩ := ha
  obtain ⟨hmem, hkind⟩ := mem_of_mem_tags htag
  exact hd.outer_of_parent hmem (mem_children_of_mem_attributes ha)
    (firmKinds_of_tagKinds _ hkind)

theorem Nested.attributes_nodup (hd : d.Nested) (htags : tags.Sublist d.tags) :
    (tags.flatMap Node.attributes).Nodup := by
  refine nodup_flatMap_of_back (hd.tags_nodup.sublist htags) Node.parent? (fun tag htag => ?_)
    fun tag _ a ha => parent?_of_mem_attributes ha
  exact hd.attributesOf_nodup (htags.subset htag)

theorem namedAttributes_flatMap (tags : List Node) :
    tags.flatMap Node.namedAttributes =
      (tags.flatMap Node.attributes).filter fun a => a.kind == "jsx_attribute" := by
  rw [List.filter_flatMap]
  rfl

theorem Nested.namedAttributes_nodup (hd : d.Nested) (htags : tags.Sublist d.tags) :
    (tags.flatMap Node.namedAttributes).Nodup := by
  rw [namedAttributes_flatMap]
  exact (hd.attributes_nodup htags).filter _

theorem isAttribute_of_mem_flatMap (htags : tags.Sublist d.tags)
    (ha : a ∈ tags.flatMap Node.namedAttributes) : d.IsAttribute a ∧ a.kind = "jsx_attribute" := by
  obtain ⟨tag, htag, ha⟩ := List.mem_flatMap.mp ha
  exact ⟨isAttribute_of_mem_namedAttributes (htags.subset htag) ha,
    (mem_attributes_of_mem_namedAttributes ha).2⟩

/-! ## Names of attributes -/

theorem of_attributeName? {name : String} (h : d.attributeName? a = some name) :
    a.kind = "jsx_attribute" ∧ a.firstPart?.map d.text = some name := by
  rw [attributeName?] at h
  split at h
  next hkind => exact ⟨hkind, h⟩
  next => cases h

/-- An attribute that is looked up by a name has the name. -/
theorem of_attribute? {name : String} (h : d.attribute? tag name = some a) :
    a ∈ tag.namedAttributes ∧ a.firstPart?.map d.text = some name := by
  have hfound := List.find?_some h
  obtain ⟨hkind, hname⟩ := of_attributeName? (beq_iff_eq.mp hfound)
  exact ⟨List.mem_filter.mpr ⟨List.mem_of_find?_eq_some h, beq_iff_eq.mpr hkind⟩, hname⟩

theorem hangs_of_firstPart? (ha : d.IsAttribute a) (hkind : a.kind = "jsx_attribute")
    (hn : a.firstPart? = some n) : d.Hangs "jsx_attribute" tagKinds n := by
  obtain ⟨tag, htag, ha⟩ := ha
  obtain ⟨hmem, htagkind⟩ := mem_of_mem_tags htag
  exact ⟨a, tag, hmem, htagkind, mem_children_of_mem_attributes ha, hkind,
    Node.mem_children_of_firstPart? hn⟩

theorem Regular.separated_names (hd : d.Regular) : Separated (d.Hangs "jsx_attribute" tagKinds) :=
  hd.separated_hangs firmKinds_of_tagKinds (by decide)

/-! ## Values of attributes -/

/-- The expression that is the value of an attribute leads back to the attribute, with or without
braces in between. -/
theorem attributeExpression?_back (hkind : a.kind = "jsx_attribute")
    (h : a.attributeExpression? = some n) :
    n ∈ a.nodes ∧ n.ancestors.find? (fun b => b.kind == "jsx_attribute") = some a ∧
      (n.climb? = some a ∨ ∃ braces, n.climb? = some braces ∧ braces.kind = "jsx_expression" ∧
        braces.parent? = some a) := by
  have hfound : ∀ above, (a :: above).find? (fun b => b.kind == "jsx_attribute") = some a :=
    fun above => List.find?_cons_of_pos (beq_iff_eq.mpr hkind)
  rw [Node.attributeExpression?] at h
  split at h
  · cases h
  next w hw =>
    have hwchild := Node.mem_children_of_mem_parts (List.mem_of_getElem? hw)
    have hwmem := Node.mem_nodes_of_mem_children hwchild
    split at h
    next hbraces =>
      rw [Node.braced?, if_pos hbraces] at h
      obtain ⟨x, hx, rfl⟩ := Option.map_eq_some_iff.mp h
      have hxchild := Node.mem_children_of_firstPart? hx
      have hwrapper : ∀ b : Node, b.isWrapper = true → (b.kind == "jsx_attribute") = false := by
        intro b hb
        rw [beq_eq_false_iff_ne]
        intro heq
        rw [Node.isWrapper_iff, heq] at hb
        exact absurd hb (by decide)
      refine ⟨Node.mem_nodes_trans hwmem (Node.mem_nodes_trans
        (Node.mem_nodes_of_mem_children hxchild) x.unwrap_mem_nodes), ?_, Or.inr ⟨w, ?_, hbraces,
          Node.parent?_of_mem_children hwchild⟩⟩
      · rw [Node.find?_ancestors_unwrap hwrapper, Node.ancestors_of_mem_children hxchild,
          List.find?_cons_of_neg (by rw [hbraces]; decide), Node.ancestors_of_mem_children hwchild,
          hfound]
      · rw [Node.climb?_unwrap, Node.climb?_of_mem_children hxchild
          (Node.not_isWrapper_of_kind (List.mem_singleton.mpr hbraces) (by decide))]
    next =>
      obtain rfl := Option.some_inj.mp h
      refine ⟨hwmem, by rw [Node.ancestors_of_mem_children hwchild, hfound], Or.inl ?_⟩
      exact Node.climb?_of_mem_children hwchild
        (Node.not_isWrapper_of_kind (List.mem_singleton.mpr hkind) (by decide))

/-! ## Expressions among the children of elements -/

private theorem climb?_of_contentExpression {container : Node}
    (hc : container ∈ d.find ["jsx_expression"])
    (hn : (match container.parent? with
      | none => none
      | some p =>
        if p.isOneOf ["jsx_element", "jsx_fragment"] then
          container.braced?.filter fun inner => inner.kind != "spread_element"
        else none) = some n) :
    n ∈ d.root.nodes ∧ n.unwrap = n ∧ n.climb? = some container ∧
      ∃ p, container.parent? = some p ∧ p.kind ∈ ["jsx_element", "jsx_fragment"] := by
  obtain ⟨hmem, hkind⟩ := mem_of_mem_find hc
  split at hn
  · cases hn
  next p hp =>
    split at hn
    next helement =>
      obtain ⟨hn, _⟩ := Option.filter_eq_some_iff.mp hn
      rw [Node.braced?, if_pos (List.mem_singleton.mp hkind)] at hn
      obtain ⟨x, hx, rfl⟩ := Option.map_eq_some_iff.mp hn
      refine ⟨mem_of_unwrap (mem_of_firstPart? hmem hx), x.unwrap_unwrap, ?_, p, hp,
        Node.isOneOf_iff.mp helement⟩
      rw [Node.climb?_unwrap, Node.climb?_of_mem_children (Node.mem_children_of_firstPart? hx)
        (Node.not_isWrapper_of_kind hkind (by decide))]
    next => cases hn

/-- An expression among the children of an element has no wrapper, and leads back to its braces. -/
theorem exists_of_mem_contentExpressions (hn : n ∈ d.contentExpressions) :
    n ∈ d.root.nodes ∧ n.unwrap = n ∧ ∃ c, n.climb? = some c ∧ c.kind = "jsx_expression" ∧
      ∃ p, c.parent? = some p ∧ p.kind ∈ ["jsx_element", "jsx_fragment"] := by
  obtain ⟨c, hc, hn⟩ := List.mem_filterMap.mp hn
  obtain ⟨hmem, hunwrap, hclimb, hparent⟩ := climb?_of_contentExpression hc hn
  exact ⟨hmem, hunwrap, c, hclimb, List.mem_singleton.mp (mem_of_mem_find hc).2, hparent⟩

theorem Nested.contentExpressions_nodup (hd : d.Nested) : d.contentExpressions.Nodup :=
  nodup_filterMap_of_back (hd.find_nodup _) Node.climb? fun _ hc _ hn =>
    (climb?_of_contentExpression hc hn).2.2.1

end Document

end CodeConventions
