import CodeConventions.Proofs.Rules.Apart
import CodeConventions.Proofs.Tree.Argument
import CodeConventions.Proofs.Tree.Attribute
import CodeConventions.Proofs.Tree.Climb
import CodeConventions.Rules.EmptyElement
import CodeConventions.Rules.Rendering
import CodeConventions.Rules.StyleAttribute
import CodeConventions.Rules.Undefined

/-!
# Rules on markup keep their remarks apart

The names of components and directives, the entries of styles, and the expressions among the
children of elements.  Each leads back to the tag, the attribute or the braces that it stands in,
through wrappers, accesses and arrow functions.
-/

namespace CodeConventions.Document

variable {d : Document} {a m n tag : Node} {rs : List Remark}

/-! ## Undefined names -/

/-- The node is the name of the component that the tag stands for. -/
def IsComponentName (tag n : Node) : Prop :=
  ∃ name, tag.child? "name" = some name ∧ name.rootIdentifier? = some n

/-- The node is part of a name with a prefix, which is the name of the attribute. -/
private def IsDirectiveName (a n : Node) : Prop :=
  ∃ name, a.firstPart? = some name ∧ name.kind = "jsx_namespace_name" ∧ n ∈ name.parts

private theorem Regular.isComponentName_back (hd : d.Regular) (htag : tag ∈ d.tags)
    (hn : IsComponentName tag n) :
    d.Outer n ∧ (∃ p, n.parent? = some p ∧ p.kind ∈ tagKinds ++ Node.chainKinds) ∧
      n.ancestors.find? (Node.isOneOf · tagKinds) = some tag := by
  obtain ⟨name, hname, hroot⟩ := hn
  obtain ⟨hmem, hkind⟩ := mem_of_mem_tags htag
  have hchild := Node.mem_children_of_child? hname
  have hnmem : n ∈ d.root.nodes := mem_of_mem_nodes (mem_of_mem_children hmem hchild)
    (Node.mem_nodes_of_rootIdentifier? hroot)
  have hfirm : ∀ kind ∈ tagKinds ++ Node.chainKinds, kind ∈ firmKinds := by decide
  have hparent : ∃ p, n.parent? = some p ∧ p.kind ∈ tagKinds ++ Node.chainKinds := by
    rcases Node.eq_or_parent?_of_rootIdentifier? hroot with rfl | ⟨q, hq, hqkind⟩
    · exact ⟨tag, Node.parent?_of_mem_children hchild, List.mem_append_left _ hkind⟩
    · exact ⟨q, hq, List.mem_append_right _ hqkind⟩
  refine ⟨?_, hparent, ?_⟩
  · obtain ⟨p, hp, hpkind⟩ := hparent
    exact hd.outer_of_parent (mem_of_parent? hnmem hp) (mem_children_of_parent? hnmem hp)
      (hfirm _ hpkind)
  · have hnot : ∀ kind ∈ Node.chainKinds, kind ∉ tagKinds := by decide
    rw [Node.find?_ancestors_rootIdentifier? (fun w hw => ?_) hroot,
      Node.ancestors_of_mem_children hchild]
    · exact List.find?_cons_of_pos (Node.isOneOf_iff.mpr hkind)
    · rw [Bool.eq_false_iff, ne_eq, Node.isOneOf_iff]
      exact hnot w.kind hw

private theorem Regular.isDirectiveName_back (hd : d.Regular) (ha : d.IsAttribute a)
    (hn : IsDirectiveName a n) :
    d.Outer n ∧ (∃ p, n.parent? = some p ∧ p.kind = "jsx_namespace_name") ∧
      n.parent?.bind Node.parent? = some a := by
  obtain ⟨name, hname, hkind, hn⟩ := hn
  have hchild := Node.mem_children_of_mem_parts hn
  have hparent := Node.parent?_of_mem_children hchild
  refine ⟨hd.outer_of_parent (mem_of_firstPart? ha.mem hname) hchild (by rw [hkind]; decide),
    ⟨name, hparent, hkind⟩, ?_⟩
  rw [hparent, Option.bind_some, Node.parent?_of_firstPart? hname]

private theorem apartOn_undefinedDirective {options : UndefinedOptions}
    (h : d.undefinedDirective options a = .ok rs) : ApartOn (IsDirectiveName a) rs := by
  rw [undefinedDirective] at h
  split at h
  · cases h
  next name hname =>
    split at h
    next hkind =>
      split at h
      next use directive hparts =>
        split at h
        · refine Except.ok.inj h ▸ ApartOn.singleton ⟨name, hname, hkind, ?_⟩ _
          rw [hparts]
          exact List.mem_cons_of_mem _ (List.mem_cons_self ..)
        · exact Except.ok.inj h ▸ ApartOn.nil
      next => exact Except.ok.inj h ▸ ApartOn.nil
    next => exact Except.ok.inj h ▸ ApartOn.nil

theorem remark_of_undefinedTag? {options : UndefinedOptions} {r : Remark}
    (h : d.undefinedTag? options tag = some r) :
    ∃ n message, IsComponentName tag n ∧ r = d.remark n message := by
  rw [undefinedTag?] at h
  split at h
  · cases h
  next n hn =>
    split at h
    · cases h
    · obtain rfl := Option.some_inj.mp h
      refine ⟨n, _, ?_, rfl⟩
      rw [componentName?] at hn
      split at hn
      · cases hn
      next name hname =>
        split at hn
        · cases hn
        · exact ⟨name, hname, hn⟩

theorem Regular.apart_undefinedNames (hd : d.Regular) {options : UndefinedOptions}
    (h : d.undefinedNames options = .ok rs) : Apart rs := by
  obtain ⟨directives, hdirectives, rfl⟩ := Except.map_eq_ok_iff.mp h
  have hattribute : ∀ a ∈ d.tags.flatMap Node.namedAttributes, d.IsAttribute a := fun a ha =>
    (isAttribute_of_mem_flatMap (List.Sublist.refl _) ha).1
  have hcomponents := ApartOn.filterMap (f := d.undefinedTag? options) hd.separated_outer
    hd.tags_nodup (fun n => n.ancestors.find? (Node.isOneOf · tagKinds))
    (fun tag _ r hr => by
      obtain ⟨n, message, hn, rfl⟩ := remark_of_undefinedTag? hr
      exact ⟨n, hn, d.remark_shows n message⟩) fun tag htag n hn =>
      ⟨(hd.isComponentName_back htag hn).1, (hd.isComponentName_back htag hn).2.2⟩
  have hnames := ApartOn.remarksFor hd.separated_outer
    (hd.namedAttributes_nodup (List.Sublist.refl _)) hdirectives
    (fun n => n.parent?.bind Node.parent?) (fun _ _ _ hfound => apartOn_undefinedDirective hfound)
    fun a ha n hn => ⟨(hd.isDirectiveName_back (hattribute a ha) hn).1,
      (hd.isDirectiveName_back (hattribute a ha) hn).2.2⟩
  refine (hcomponents.append hd.separated_outer hnames ?_ ?_ ?_).apart
  · rintro n ⟨tag, htag, hn⟩
    exact (hd.isComponentName_back htag hn).1
  · rintro n ⟨a, ha, hn⟩
    exact (hd.isDirectiveName_back (hattribute a ha) hn).1
  · rintro n ⟨tag, htag, hn⟩ ⟨a, ha, hn'⟩
    obtain ⟨_, ⟨p, hp, hkind⟩, _⟩ := hd.isComponentName_back htag hn
    obtain ⟨_, ⟨q, hq, hqkind⟩, _⟩ := hd.isDirectiveName_back (hattribute a ha) hn'
    obtain rfl : p = q := Option.some_inj.mp (hp.symm.trans hq)
    rw [hqkind] at hkind
    exact absurd hkind (by decide)

/-! ## Empty elements -/

theorem Regular.apart_emptyElements (hd : d.Regular) (options : EmptyElementOptions) :
    Apart (d.emptyElements options) :=
  (hd.apartOn_find List.filter_sublist (by decide)).apart

/-! ## Styles -/

/-- The node is part of a pair in an object that is the value of the attribute. -/
private def IsStylePart (a n : Node) : Prop :=
  ∃ value p, a.attributeExpression? = some value ∧ value.kind = "object" ∧ p ∈ value.parts ∧
    p.kind = "pair" ∧ n ∈ p.children

/-- The attribute that an attribute or a part of a style leads back to. -/
private def styleAttribute? (n : Node) : Option Node :=
  if n.parent?.any fun p => p.kind == "pair" then
    n.ancestors.find? fun b => b.kind == "jsx_attribute"
  else some n

private theorem Regular.styleAttribute?_back (hd : d.Regular) (ha : d.IsAttribute a)
    (hkind : a.kind = "jsx_attribute") (hn : n = a ∨ IsStylePart a n) :
    d.Outer n ∧ styleAttribute? n = some a := by
  rcases hn with rfl | ⟨value, p, hvalue, hobject, hp, hpair, hn⟩
  · refine ⟨hd.outer_of_isAttribute ha, ?_⟩
    obtain ⟨tag, htag, htagkind⟩ := ha.parent?
    have hpair : tag.kind ≠ "pair" := fun heq => by
      rw [heq] at htagkind
      exact absurd htagkind (by decide)
    rw [styleAttribute?, if_neg (by simp [htag, hpair])]
  · obtain ⟨hvmem, hfind, _⟩ := attributeExpression?_back hkind hvalue
    have hpchild := Node.mem_children_of_mem_parts hp
    have hpmem := mem_of_mem_children (mem_of_mem_nodes ha.mem hvmem) hpchild
    refine ⟨hd.outer_of_parent hpmem hn (by rw [hpair]; decide), ?_⟩
    rw [styleAttribute?, if_pos (by simp [Node.parent?_of_mem_children hn, hpair]),
      Node.ancestors_of_mem_children hn, List.find?_cons_of_neg (by rw [hpair]; decide),
      Node.ancestors_of_mem_children hpchild, List.find?_cons_of_neg (by rw [hobject]; decide),
      hfind]

theorem remark_of_styleEntry? {p : Property} {r : Remark} (hp : d.property? p.node = some p)
    (h : d.styleEntry? p = some r) :
    p.node.kind = "pair" ∧ ∃ n message, n ∈ p.node.children ∧ r = d.remark n message := by
  unfold styleEntry? at h
  split at h
  next name key hname hkey =>
    split at h
    · cases h
    next hcond =>
      have hpair : p.node.kind = "pair" := by
        simp only [Bool.or_eq_true, bne_iff_ne, ne_eq, not_or, not_not] at hcond
        exact hcond.2
      obtain ⟨hkey', hvalue'⟩ := property?_pair hpair hp
      refine ⟨hpair, ?_⟩
      split at h
      next message _ =>
        obtain rfl := Option.some_inj.mp h
        exact ⟨key, message, Node.mem_children_of_child? (hkey'.symm.trans hkey), rfl⟩
      · split at h
        next value hvalue =>
          split at h
          · obtain rfl := Option.some_inj.mp h
            exact ⟨value, unitlessLength,
              Node.mem_children_of_child? (hvalue'.symm.trans hvalue), rfl⟩
          · cases h
        next => cases h
  next => cases h

private theorem Regular.apartOn_styleRemarks (hd : d.Regular) {options : StyleOptions}
    (ha : d.IsAttribute a) (hkind : a.kind = "jsx_attribute") :
    ApartOn (fun n => n = a ∨ IsStylePart a n) (d.styleRemarks options a) := by
  rw [styleRemarks]
  split
  · exact ApartOn.nil
  next value hvalue =>
    split
    · split
      · exact ApartOn.nil
      · exact ApartOn.singleton (Or.inl rfl) _
    · split
      next hobject =>
        obtain ⟨hvmem, _⟩ := attributeExpression?_back hkind hvalue
        have hmem := mem_of_mem_nodes ha.mem hvmem
        refine (ApartOn.filterMap (A := fun p n => p.node.kind = "pair" ∧ n ∈ p.node.children)
          hd.separated_outer (hd.properties_nodup hmem) (fun n => n.parent?.bind d.property?)
          (fun p hp r hr => ?_) ?_).mono ?_
        · obtain ⟨hpair, n, message, hn, rfl⟩ := remark_of_styleEntry? (mem_properties hp).2 hr
          exact ⟨n, ⟨hpair, hn⟩, d.remark_shows n message⟩
        · rintro p hp n ⟨hpair, hn⟩
          obtain ⟨hpart, hproperty⟩ := mem_properties hp
          refine ⟨hd.outer_of_parent (mem_of_mem_parts hmem hpart) hn (by rw [hpair]; decide), ?_⟩
          rw [Node.parent?_of_mem_children hn, Option.bind_some, hproperty]
        · rintro n ⟨p, hp, hpair, hn⟩
          exact Or.inr ⟨value, p.node, hvalue, hobject, (mem_properties hp).1, hpair, hn⟩
      next => exact ApartOn.nil

theorem Regular.apart_styles (hd : d.Regular) (options : StyleOptions) :
    Apart (d.styles options) := by
  have hattribute : ∀ a ∈ (d.tags.flatMap Node.namedAttributes).filter fun a =>
      (d.attributeName? a).any options.styleProps.contains,
      d.IsAttribute a ∧ a.kind = "jsx_attribute" := fun a ha =>
    isAttribute_of_mem_flatMap (List.Sublist.refl _) (List.mem_filter.mp ha).1
  exact (ApartOn.flatMap hd.separated_outer
    ((hd.namedAttributes_nodup (List.Sublist.refl _)).filter _) styleAttribute?
    (fun a ha => hd.apartOn_styleRemarks (hattribute a ha).1 (hattribute a ha).2)
    fun a ha n hn => hd.styleAttribute?_back (hattribute a ha).1 (hattribute a ha).2 hn).apart

/-! ## Expressions among the children of elements -/

theorem Regular.apart_mappedLists (hd : d.Regular) : Apart d.mappedLists := by
  refine (ApartOn.filterMap_self hd.separated_inner hd.contentExpressions_nodup
    fun x hx r hr => ?_).apart
  obtain ⟨f, hf, rfl⟩ := Option.map_eq_some_iff.mp hr
  refine ⟨?_, d.remark_shows x _⟩
  rw [mapper?] at hf
  split at hf
  next hkind =>
    exact hd.inner_of_kind (exists_of_mem_contentExpressions hx).1 (by rw [hkind]; decide)
  next => cases hf

/-- The expression that something shown leads back to: the arrow function around it, or itself. -/
def showing? (n : Node) : Option Node :=
  match n.climb? with
  | some p => if p.kind = "arrow_function" then some p else some n
  | none => none

theorem showing?_of_shown? {x : Node} (hx : x ∈ d.contentExpressions)
    (hn : shown? x = some n) : n ∈ d.root.nodes ∧ n.unwrap = n ∧ showing? n = some x := by
  obtain ⟨hmem, hunwrap, c, hclimb, hkind, _⟩ := exists_of_mem_contentExpressions hx
  rw [shown?] at hn
  split at hn
  next harrow =>
    have hwrapper : ¬ x.isWrapper = true :=
      Node.not_isWrapper_of_kind (List.mem_singleton.mpr harrow) (by decide)
    refine ⟨mem_of_operand? hmem hn, ?_, ?_⟩
    · obtain ⟨b, _, rfl⟩ := Option.map_eq_some_iff.mp hn
      exact b.unwrap_unwrap
    · rw [showing?, Node.climb?_operand? hn hwrapper]
      exact if_pos harrow
  next =>
    obtain rfl := Option.some_inj.mp hn
    refine ⟨hmem, hunwrap, ?_⟩
    rw [showing?, hclimb]
    exact if_neg (by rw [hkind]; decide)

private theorem kind_of_showsConditionally (h : d.showsConditionally n = true) :
    n.kind ∈ ["binary_expression", "ternary_expression"] := by
  rw [showsConditionally] at h
  split at h
  next hkind => rw [hkind]; decide
  next =>
    split at h
    next hkind => rw [hkind]; decide
    next => cases h

theorem Regular.apart_conditionalMarkup (hd : d.Regular) : Apart d.conditionalMarkup := by
  refine (ApartOn.map_remark hd.separated_inner (List.Nodup.filter _ ?_) fun n hn => ?_).apart
  · exact nodup_filterMap_of_back hd.contentExpressions_nodup showing? fun x hx n hn =>
      (showing?_of_shown? hx hn).2.2
  · obtain ⟨hn, hshows⟩ := List.mem_filter.mp hn
    obtain ⟨x, hx, hn⟩ := List.mem_filterMap.mp hn
    obtain ⟨hmem, hunwrap, _⟩ := showing?_of_shown? hx hn
    rw [hunwrap] at hshows
    have hfirm : ∀ kind ∈ ["binary_expression", "ternary_expression"], kind ∈ firmKinds := by
      decide
    exact hd.inner_of_kind hmem (hfirm _ (kind_of_showsConditionally hshows))

end CodeConventions.Document
