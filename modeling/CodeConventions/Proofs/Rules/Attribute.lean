import CodeConventions.Proofs.Rules.Apart
import CodeConventions.Proofs.Tree.Argument
import CodeConventions.Proofs.Tree.Attribute
import CodeConventions.Rules.Attribute
import CodeConventions.Rules.EventHandler
import CodeConventions.Rules.StyleAttribute

/-!
# Rules on attributes keep their remarks apart

These rules show attributes, or the names of attributes.  An attribute and its name may have one
range, so a rule that shows both, such as the one on handlers, must not show both of one attribute.

One rule does: of an attribute for the children of an element it may say both that it is repeated
and that the element has children besides.
-/

namespace CodeConventions.Document

variable {d : Document} {a b m n o tag : Node} {rs : List Remark}

/-! ## Remarks about attributes -/

private theorem Regular.apart_attributeRemarks (hd : d.Regular)
    (fault : Node → Node → Option String) :
    Apart (d.tags.flatMap fun tag => tag.namedAttributes.filterMap fun a =>
      (fault tag a).map (d.remark a)) := by
  refine (ApartOn.flatMap (A := fun tag n => n ∈ tag.namedAttributes) hd.separated_outer
    hd.tags_nodup Node.parent? (fun tag htag => ?_) fun tag htag a ha => ?_).apart
  · refine (ApartOn.filterMap_self hd.separated_outer (hd.namedAttributesOf_nodup htag)
      fun a ha r hr => ?_).mono fun _ hn => hn.1
    obtain ⟨message, _, rfl⟩ := Option.map_eq_some_iff.mp hr
    exact ⟨hd.outer_of_isAttribute (isAttribute_of_mem_namedAttributes htag ha),
      d.remark_shows a message⟩
  · obtain ⟨hattribute, _⟩ := mem_attributes_of_mem_namedAttributes ha
    exact ⟨hd.outer_of_isAttribute ⟨tag, htag, hattribute⟩, parent?_of_mem_attributes hattribute⟩

theorem Regular.apart_foreignNames (hd : d.Regular) : Apart d.foreignNames :=
  hd.apart_attributeRemarks fun tag a =>
    (d.attributeName? a).bind (foreignNameFault? (d.isNative tag))

theorem Regular.apart_rawMarkup (hd : d.Regular) (options : RawMarkupOptions) :
    Apart (d.rawMarkup options) :=
  hd.apart_attributeRemarks fun tag a => d.rawMarkupAttributeFault? options tag a

theorem Regular.apart_scriptAddresses (hd : d.Regular) : Apart d.scriptAddresses := by
  refine (ApartOn.map_remark hd.separated_outer
    ((hd.namedAttributes_nodup (List.Sublist.refl _)).filter _) fun a ha => ?_).apart
  have ha := (List.mem_filter.mp ha).1
  exact hd.outer_of_isAttribute (isAttribute_of_mem_flatMap (List.Sublist.refl _) ha).1

theorem Regular.apart_arrayHandlers (hd : d.Regular) (h : d.arrayHandlers = .ok rs) :
    Apart rs := by
  refine (ApartOn.remarksFor (A := fun a n => n = a) hd.separated_outer
    (hd.namedAttributes_nodup List.filter_sublist) h some (fun a _ found hfound => ?_) ?_).apart
  · rw [arrayHandler] at hfound
    split at hfound
    · cases hfound
    · split at hfound
      · exact Except.ok.inj hfound ▸ ApartOn.self _
      · exact Except.ok.inj hfound ▸ ApartOn.nil
  · rintro a ha n rfl
    exact ⟨hd.outer_of_isAttribute (isAttribute_of_mem_flatMap List.filter_sublist ha).1, rfl⟩

theorem Regular.apart_joinedClasses (hd : d.Regular) (options : ClassListOptions) :
    Apart (d.joinedClasses options) := by
  refine (ApartOn.filterMap_self hd.separated_outer
    ((hd.namedAttributes_nodup List.filter_sublist).filter _) fun a ha r hr => ?_).apart
  obtain ⟨helper, _, rfl⟩ := Option.map_eq_some_iff.mp hr
  have ha := (List.mem_filter.mp ha).1
  exact ⟨hd.outer_of_isAttribute (isAttribute_of_mem_flatMap List.filter_sublist ha).1,
    d.remark_shows a _⟩

/-! ## Prefixes of names -/

/-- The node is the name of an attribute of the tag. -/
def IsNameOf (tag n : Node) : Prop := ∃ a ∈ tag.namedAttributes, a.firstPart? = some n

private theorem isNameOf_back (htag : tag ∈ d.tags) (hn : IsNameOf tag n) :
    d.Hangs "jsx_attribute" tagKinds n ∧ n.parent?.bind Node.parent? = some tag := by
  obtain ⟨a, ha, hn⟩ := hn
  obtain ⟨hattribute, hkind⟩ := mem_attributes_of_mem_namedAttributes ha
  refine ⟨hangs_of_firstPart? ⟨tag, htag, hattribute⟩ hkind hn, ?_⟩
  rw [Node.parent?_of_firstPart? hn, Option.bind_some, parent?_of_mem_attributes hattribute]

theorem Regular.apart_unknownPrefixes (hd : d.Regular) (options : PrefixOptions) :
    Apart (d.unknownPrefixes options) := by
  refine (ApartOn.flatMap (A := IsNameOf) hd.separated_names hd.tags_nodup
    (fun n => n.parent?.bind Node.parent?) (fun tag htag => ?_) fun tag htag n hn =>
      isNameOf_back htag hn).apart
  refine ApartOn.filterMap (A := fun a n => a.firstPart? = some n) hd.separated_names
    (hd.namedAttributesOf_nodup htag) Node.parent? (fun a ha r hr => ?_) fun a ha n hn =>
      ⟨(isNameOf_back htag ⟨a, ha, hn⟩).1, Node.parent?_of_firstPart? hn⟩
  cases hname : a.firstPart? with
  | none => simp only [hname, reduceCtorEq] at hr
  | some name =>
      simp only [hname] at hr
      split at hr
      next =>
        obtain ⟨message, _, rfl⟩ := Option.map_eq_some_iff.mp hr
        exact ⟨name, rfl, d.remark_shows name message⟩
      next => cases hr

/-! ## Handlers -/

/-- The node is the attribute or its name. -/
private def IsNamedPart (a n : Node) : Prop := n = a ∨ a.firstPart? = some n

/-- The node is an entry of an object that is spread into the tag. -/
private def IsSpreadPart (tag n : Node) : Prop :=
  ∃ a ∈ tag.attributes, ∃ o, spreadLiteral? a = some o ∧ n ∈ o.parts

private theorem Regular.eq_of_isNamedPart (hd : d.Regular) (ha : d.IsAttribute a)
    (hakind : a.kind = "jsx_attribute") (hb : d.IsAttribute b) (hbkind : b.kind = "jsx_attribute")
    (hm : IsNamedPart a m) (hn : IsNamedPart b n) (hspot : m.spot = n.spot) : a = b := by
  have hone : ∀ a b n, d.IsAttribute a → d.IsAttribute b → b.kind = "jsx_attribute" →
      b.firstPart? = some n → n.spot = a.spot → a = b := by
    intro a b n ha hb hbkind hn hspot
    have hparent := Node.parent?_of_firstPart? hn
    rcases hd.eq_or_holder_of_outer firmKinds_of_tagKinds (hangs_of_firstPart? hb hbkind hn)
      (hd.outer_of_isAttribute ha) hspot with rfl | ⟨_, hchild, _⟩
    · obtain ⟨tag, htag, hkind⟩ := ha.parent?
      rw [hparent, Option.some_inj] at htag
      rw [← htag, hbkind] at hkind
      exact absurd hkind (by decide)
    · exact Option.some_inj.mp ((Node.parent?_of_mem_children hchild).symm.trans hparent)
  rcases hm with rfl | hm
  · rcases hn with rfl | hn
    · exact hd.separated_outer m n (hd.outer_of_isAttribute ha) (hd.outer_of_isAttribute hb) hspot
    · exact hone m b n ha hb hbkind hn hspot.symm
  · rcases hn with rfl | hn
    · exact (hone n a m hb ha hakind hm hspot).symm
    · obtain rfl := hd.separated_names m n (hangs_of_firstPart? ha hakind hm)
        (hangs_of_firstPart? hb hbkind hn) hspot
      have hparent := Node.parent?_of_firstPart? hm
      exact Option.some_inj.mp (hparent.symm.trans
        (Node.parent?_of_firstPart? hn))

/-- The attribute that an object is spread by. -/
def spreadAttributeOf? (o : Node) : Option Node := o.climb?.bind Node.parent?

theorem spreadLiteral?_back (htag : tag ∈ d.tags) (ha : a ∈ tag.attributes)
    (ho : spreadLiteral? a = some o) :
    o ∈ d.root.nodes ∧ o.kind = "object" ∧ spreadAttributeOf? o = some a := by
  obtain ⟨ho, hkind⟩ := Option.filter_eq_some_iff.mp ho
  obtain ⟨x, hx, rfl⟩ := Option.map_eq_some_iff.mp ho
  obtain ⟨s, hs, hx⟩ := Option.bind_eq_some_iff.mp hx
  rw [Node.braced?] at hs
  split at hs
  next hbraces =>
    obtain ⟨inner, hinner, rfl⟩ := Option.map_eq_some_iff.mp hs
    have hspread : inner.kind = "spread_element" := by
      rcases Bool.or_eq_true_iff.mp (List.mem_filter.mp ha).2 with h | h
      · rw [hbraces] at h
        exact absurd h (by decide)
      · have h := (Bool.and_eq_true_iff.mp h).2
        rw [Node.isSpreadAttribute, hinner, Option.any_some, beq_iff_eq] at h
        exact h
    have hwrapper : ¬ inner.isWrapper = true :=
      Node.not_isWrapper_of_kind (List.mem_singleton.mpr hspread) (by decide)
    rw [Node.unwrap_of_not_isWrapper hwrapper] at hx
    have hmem : inner ∈ d.root.nodes :=
      mem_of_firstPart? (IsAttribute.mem ⟨tag, htag, ha⟩) hinner
    refine ⟨mem_of_unwrap (mem_of_firstPart? hmem hx), beq_iff_eq.mp hkind, ?_⟩
    rw [spreadAttributeOf?, Node.climb?_unwrap,
      Node.climb?_of_mem_children (Node.mem_children_of_firstPart? hx) hwrapper, Option.bind_some,
      Node.parent?_of_firstPart? hinner]
  next => cases hs

private theorem Regular.isSpreadPart_back (hd : d.Regular) (htag : tag ∈ d.tags)
    (hn : IsSpreadPart tag n) :
    d.Outer n ∧ ∃ o, n.parent? = some o ∧ o.kind = "object" ∧
      (spreadAttributeOf? o).bind Node.parent? = some tag := by
  obtain ⟨a, ha, o, ho, hn⟩ := hn
  obtain ⟨hmem, hkind, hback⟩ := spreadLiteral?_back htag ha ho
  have hchild := Node.mem_children_of_mem_parts hn
  refine ⟨hd.outer_of_parent hmem hchild (by rw [hkind]; decide), o,
    Node.parent?_of_mem_children hchild, hkind, ?_⟩
  rw [hback, Option.bind_some, parent?_of_mem_attributes ha]

private theorem Regular.spot_ne_of_isSpreadPart (hd : d.Regular) (htag : tag ∈ d.tags)
    (hn : IsSpreadPart tag n) (ha : d.IsAttribute a) (hakind : a.kind = "jsx_attribute")
    (hm : IsNamedPart a m) : n.spot ≠ m.spot := by
  intro hspot
  obtain ⟨houter, o, ho, hokind, _⟩ := hd.isSpreadPart_back htag hn
  have hobject : o.kind ∉ tagKinds := by rw [hokind]; decide
  rcases hm with rfl | hm
  · obtain rfl := hd.separated_outer n m houter (hd.outer_of_isAttribute ha) hspot
    obtain ⟨p, hp, hkind⟩ := ha.parent?
    rw [ho, Option.some_inj] at hp
    exact hobject (hp ▸ hkind)
  · rcases hd.eq_or_holder_of_outer firmKinds_of_tagKinds (hangs_of_firstPart? ha hakind hm)
      houter hspot.symm with rfl | ⟨_, _, p, hp, hkind⟩
    · rw [Node.parent?_of_firstPart? hm, Option.some_inj] at ho
      rw [← ho, hakind] at hokind
      exact absurd hokind (by decide)
    · rw [ho, Option.some_inj] at hp
      exact hobject (hp ▸ hkind)

private theorem Regular.apartOn_spreadHandlers (hd : d.Regular) (htag : tag ∈ d.tags) :
    ApartOn (IsSpreadPart tag) (d.spreadHandlers tag) := by
  have hnodup : (tag.attributes.filterMap spreadLiteral?).Nodup := by
    refine nodup_filterMap_of_back (hd.attributesOf_nodup htag) spreadAttributeOf?
      fun a ha o ho => ?_
    exact (spreadLiteral?_back htag ha ho).2.2
  have hmem : ∀ o ∈ tag.attributes.filterMap spreadLiteral?, o ∈ d.root.nodes := by
    intro o ho
    obtain ⟨a, ha, ho⟩ := List.mem_filterMap.mp ho
    exact (spreadLiteral?_back htag ha ho).1
  have hpart : ∀ p ∈ (tag.attributes.filterMap spreadLiteral?).flatMap d.properties,
      IsSpreadPart tag p.node ∧ d.property? p.node = some p := by
    intro p hp
    obtain ⟨o, ho, hp⟩ := List.mem_flatMap.mp hp
    obtain ⟨a, ha, ho⟩ := List.mem_filterMap.mp ho
    exact ⟨⟨a, ha, o, ho, (mem_properties hp).1⟩, (mem_properties hp).2⟩
  refine (ApartOn.filterMap (A := fun p n => n = p.node) hd.separated_outer
    (nodup_flatMap_of_back hnodup (fun p => p.node.parent?) (fun o ho => ?_) fun o _ p hp => ?_)
    d.property? (fun p hp r hr => ?_) ?_).mono ?_
  · exact hd.properties_nodup (hmem o ho)
  · exact parent?_of_mem_properties hp
  · refine ⟨p.node, rfl, ?_⟩
    rw [spreadHandler?] at hr
    split at hr
    · split at hr
      · exact Option.some_inj.mp hr ▸ d.remark_shows p.node _
      · cases hr
    · cases hr
  · rintro p hp n rfl
    obtain ⟨hspread, hproperty⟩ := hpart p hp
    exact ⟨(hd.isSpreadPart_back htag hspread).1, hproperty⟩
  · rintro n ⟨p, hp, rfl⟩
    exact (hpart p hp).1

private theorem apartOn_handler {options : HandlerOptions} {name : Node}
    (hname : a.firstPart? = some name) (h : d.handler options a name = .ok rs) :
    ApartOn (IsNamedPart a) rs := by
  rw [handler] at h
  dsimp only at h
  split at h
  · exact Except.ok.inj h ▸ ApartOn.nil
  · obtain ⟨⟨isPlain, value⟩, _, rfl⟩ := Except.map_eq_ok_iff.mp h
    dsimp only
    split
    · exact ApartOn.singleton (Or.inl rfl) _
    · split
      · exact ApartOn.nil
      · cases handlerNameFault? (d.text name) with
        | none => exact ApartOn.nil
        | some message => exact ApartOn.singleton (Or.inr hname) message

private theorem Regular.apartOn_handlersOf (hd : d.Regular) {options : HandlerOptions}
    (htag : tag ∈ d.tags) (h : d.handlersOf options tag = .ok rs) :
    ApartOn (fun n => IsSpreadPart tag n ∨ ∃ a ∈ tag.namedAttributes, IsNamedPart a n) rs := by
  obtain ⟨named, hnamed, rfl⟩ := Except.map_eq_ok_iff.mp h
  have hattribute : ∀ a ∈ tag.namedAttributes, d.IsAttribute a ∧ a.kind = "jsx_attribute" :=
    fun a ha => ⟨isAttribute_of_mem_namedAttributes htag ha,
      (mem_attributes_of_mem_namedAttributes ha).2⟩
  refine ApartOn.append_of_ne ?_ (ApartOn.remarksFor_of_inj (A := IsNamedPart) ?_ hnamed
    (fun a _ found hfound => ?_) ?_) ?_
  · split
    · exact hd.apartOn_spreadHandlers htag
    · exact ApartOn.nil
  · exact hd.namedAttributesOf_nodup htag
  · split at hfound
    next name hname => exact apartOn_handler hname hfound
    next => exact Except.ok.inj hfound ▸ ApartOn.nil
  · intro a ha b hb m n
    exact hd.eq_of_isNamedPart (hattribute a ha).1 (hattribute a ha).2 (hattribute b hb).1
      (hattribute b hb).2
  · rintro m n hm ⟨a, ha, hn⟩
    exact hd.spot_ne_of_isSpreadPart htag hm (hattribute a ha).1 (hattribute a ha).2 hn

theorem Regular.apart_eventHandlers (hd : d.Regular) {options : HandlerOptions}
    (h : d.eventHandlers options = .ok rs) : Apart rs := by
  have htags : ∀ tag ∈ d.tags.filter d.isNative, tag ∈ d.tags := fun tag htag =>
    (List.mem_filter.mp htag).1
  refine (ApartOn.remarksFor_of_inj (hd.tags_nodup.filter _) h
    (fun tag htag _ => hd.apartOn_handlersOf (htags tag htag)) ?_).apart
  intro s hs t ht m n hm hn hspot
  replace hs := htags s hs
  replace ht := htags t ht
  rcases hm with hm | ⟨a, ha, hm⟩
  · rcases hn with hn | ⟨b, hb, hn⟩
    · obtain ⟨hmouter, o, ho, _, hback⟩ := hd.isSpreadPart_back hs hm
      obtain ⟨hnouter, o', ho', _, hback'⟩ := hd.isSpreadPart_back ht hn
      obtain rfl := hd.separated_outer m n hmouter hnouter hspot
      obtain rfl : o = o' := Option.some_inj.mp (ho.symm.trans ho')
      exact Option.some_inj.mp (hback.symm.trans hback')
    · exact absurd hspot (hd.spot_ne_of_isSpreadPart hs hm
        (isAttribute_of_mem_namedAttributes ht hb) (mem_attributes_of_mem_namedAttributes hb).2 hn)
  · have haattribute := isAttribute_of_mem_namedAttributes hs ha
    obtain ⟨hamem, hakind⟩ := mem_attributes_of_mem_namedAttributes ha
    rcases hn with hn | ⟨b, hb, hn⟩
    · exact absurd hspot.symm (hd.spot_ne_of_isSpreadPart ht hn haattribute hakind hm)
    · obtain ⟨hbmem, hbkind⟩ := mem_attributes_of_mem_namedAttributes hb
      obtain rfl := hd.eq_of_isNamedPart haattribute hakind
        (isAttribute_of_mem_namedAttributes ht hb) hbkind hm hn hspot
      have hparent := parent?_of_mem_attributes hamem
      exact Option.some_inj.mp (hparent.symm.trans
        (parent?_of_mem_attributes hbmem))

/-! ## Repeated attributes -/

/-- Of one attribute it is said that it is repeated, and that the element has children besides. -/
def childrenRepeated (r q : Remark) : Prop :=
  r.message = "Duplicate props are not allowed." ∧
    q.message = "Using `children` prop with JSX children is not allowed."

private theorem normalAttributeName_children (ignoreCase : Bool) :
    normalAttributeName ignoreCase "children" = "children" := by
  cases ignoreCase with
  | false => decide
  | true => decide

theorem repeatedFrom_sublist {α : Type} (seen : List String) (xs : List (α × String)) :
    (repeatedFrom seen xs).Sublist xs := by
  induction xs generalizing seen with
  | nil => exact List.Sublist.refl _
  | cons x xs ih =>
      obtain ⟨x, name⟩ := x
      rw [repeatedFrom]
      split
      · exact (ih (name :: seen)).cons_cons (x, name)
      · exact (ih (name :: seen)).cons (x, name)

theorem normalNames_eq_ok {options : RepeatedOptions} {attributes : List Node}
    {names : List (Node × String)} (h : d.normalNames options attributes = .ok names) :
    ∃ name : Node → Node, (∀ a ∈ attributes, a.firstPart? = some (name a)) ∧
      names = (attributes.map name).map fun n =>
        (n, normalAttributeName options.ignoreCase (d.text n)) := by
  obtain ⟨g, hg, rfl⟩ := Except.exists_map_of_mapM_eq_ok h
  have hname : ∀ a ∈ attributes, a.firstPart? = some (g a).1 ∧
      g a = ((g a).1, normalAttributeName options.ignoreCase (d.text (g a).1)) := fun a ha => by
    have hga := hg a ha
    split at hga
    next name hname =>
      rw [← Except.ok.inj hga]
      exact ⟨hname, rfl⟩
    next => cases hga
  refine ⟨fun a => (g a).1, fun a ha => (hname a ha).1, ?_⟩
  rw [List.map_map]
  exact List.map_congr_left fun a ha => (hname a ha).2

private theorem Regular.names_nodup (hd : d.Regular) {name : Node → Node} (htag : tag ∈ d.tags)
    (hname : ∀ a ∈ tag.namedAttributes, a.firstPart? = some (name a)) :
    (tag.namedAttributes.map name).Nodup := by
  refine List.Nodup.map_on (fun a ha b hb heq => ?_)
    (hd.namedAttributesOf_nodup htag)
  have hparent := Node.parent?_of_firstPart? (hname a ha)
  rw [heq, Node.parent?_of_firstPart? (hname b hb)] at hparent
  exact (Option.some_inj.mp hparent).symm

/-- The remarks about what is repeated in a tag are about different names of its attributes. -/
private theorem Regular.exists_map_repeated (hd : d.Regular) {options : RepeatedOptions}
    {names : List (Node × String)} (htag : tag ∈ d.tags)
    (h : d.normalNames options tag.namedAttributes = .ok names) :
    ∃ ns : List Node,
      ((repeatedFrom [] names).map fun (n, name) => d.remark n (repeatedAttribute name)) =
        ns.map (fun n => d.remark n
          (repeatedAttribute (normalAttributeName options.ignoreCase (d.text n)))) ∧
      ns.Nodup ∧ ∀ n ∈ ns, IsNameOf tag n := by
  obtain ⟨name, hname, rfl⟩ := normalNames_eq_ok h
  obtain ⟨ns, hns, heq⟩ := List.sublist_map_iff.mp (repeatedFrom_sublist [] _)
  refine ⟨ns, ?_, (hd.names_nodup htag hname).sublist hns, fun n hn => ?_⟩
  · rw [heq, List.map_map]
    rfl
  · obtain ⟨a, ha, rfl⟩ := List.mem_map.mp (hns.subset hn)
    exact ⟨a, ha, hname a ha⟩

theorem childrenTwice_eq_ok {names : List (Node × String)}
    (h : d.childrenTwice tag names = .ok rs) :
    rs = [] ∨ ∃ n, IsNameOf tag n ∧ d.text n = "children" ∧
      rs = [d.remark n "Using `children` prop with JSX children is not allowed."] := by
  rw [childrenTwice] at h
  split at h
  · obtain ⟨r, hr, rfl⟩ := Except.map_eq_ok_iff.mp h
    cases hname : (d.attribute? tag "children").bind Node.firstPart? with
    | none =>
        rw [hname] at hr
        cases hr
    | some n =>
        rw [hname] at hr
        obtain ⟨a, ha, hn⟩ := Option.bind_eq_some_iff.mp hname
        obtain ⟨hmem, htext⟩ := of_attribute? ha
        rw [hn, Option.map_some, Option.some_inj] at htext
        exact Or.inr ⟨n, ⟨a, hmem, hn⟩, htext, by rw [← Except.ok.inj hr]⟩
  · exact Or.inl (Except.ok.inj h).symm

/-- Remarks of one range about a tag are those about an attribute for its children. -/
private theorem Regular.pairwise_repeatedInTag (hd : d.Regular) {options : RepeatedOptions}
    (htag : tag ∈ d.tags) (h : d.repeatedInTag options tag = .ok rs) :
    (rs.Pairwise fun r q => r.spot = q.spot → childrenRepeated r q) ∧
      ∀ r ∈ rs, ∃ n, IsNameOf tag n ∧ r.Shows n := by
  obtain ⟨names, hnames, h⟩ := Except.bind_eq_ok_iff.mp h
  obtain ⟨twice, htwice, h⟩ := Except.bind_eq_ok_iff.mp h
  obtain rfl := Except.ok.inj h
  obtain ⟨ns, heq, hnodup, hns⟩ := hd.exists_map_repeated htag hnames
  have hapart : ∀ message : Node → String, Apart (ns.map fun n => d.remark n (message n)) :=
    fun _ => (ApartOn.map_remark hd.separated_names hnodup
      fun n hn => (isNameOf_back htag (hns n hn)).1).apart
  rw [heq]
  constructor
  · refine List.pairwise_append.mpr ⟨?_, ?_, fun r hr q hq hspot => ?_⟩
    · exact (List.pairwise_map.mp (hapart _)).imp fun hne hspot => absurd hspot hne
    · rcases childrenTwice_eq_ok htwice with rfl | ⟨n, _, _, rfl⟩
      · exact List.Pairwise.nil
      · exact List.pairwise_singleton _ _
    · rcases childrenTwice_eq_ok htwice with rfl | ⟨n, hn, htext, rfl⟩
      · exact absurd hq List.not_mem_nil
      · obtain rfl := List.mem_singleton.mp hq
        obtain ⟨m, hm, rfl⟩ := List.mem_map.mp hr
        obtain rfl := hd.separated_names m n (isNameOf_back htag (hns m hm)).1
          (isNameOf_back htag hn).1 ((d.remark_shows m _).spot_eq (d.remark_shows n _) hspot)
        refine ⟨?_, rfl⟩
        change repeatedAttribute (normalAttributeName options.ignoreCase (d.text m)) = _
        rw [htext, normalAttributeName_children]
        decide
  · intro r hr
    rcases List.mem_append.mp hr with hr | hr
    · obtain ⟨n, hn, rfl⟩ := List.mem_map.mp hr
      exact ⟨n, hns n hn, d.remark_shows n _⟩
    · rcases childrenTwice_eq_ok htwice with rfl | ⟨n, hn, _, rfl⟩
      · exact absurd hr List.not_mem_nil
      · obtain rfl := List.mem_singleton.mp hr
        exact ⟨n, hn, d.remark_shows n _⟩

theorem Regular.pairwise_repeatedAttributes (hd : d.Regular) {options : RepeatedOptions}
    (h : d.repeatedAttributes options = .ok rs) :
    rs.Pairwise fun r q => r.spot = q.spot → childrenRepeated r q := by
  obtain ⟨g, hg, rfl⟩ := remarksFor_eq_ok h
  rw [List.pairwise_flatMap]
  refine ⟨fun tag htag => (hd.pairwise_repeatedInTag htag (hg tag htag)).1, ?_⟩
  refine hd.tags_nodup.imp_of_mem fun {s t} hs ht hne r hr q hq hspot => ?_
  obtain ⟨m, hm, hrm⟩ := (hd.pairwise_repeatedInTag hs (hg s hs)).2 r hr
  obtain ⟨n, hn, hqn⟩ := (hd.pairwise_repeatedInTag ht (hg t ht)).2 q hq
  obtain ⟨hmhangs, hms⟩ := isNameOf_back hs hm
  obtain ⟨hnhangs, hnt⟩ := isNameOf_back ht hn
  obtain rfl := hd.separated_names m n hmhangs hnhangs (hrm.spot_eq hqn hspot)
  exact absurd (Option.some_inj.mp (hms.symm.trans hnt)) hne

end CodeConventions.Document
