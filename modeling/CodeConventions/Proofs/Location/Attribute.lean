import CodeConventions.Proofs.Location.Remark
import CodeConventions.Proofs.Rules.Attribute
import CodeConventions.Proofs.Rules.Markup

/-!
# Where the rules on attributes find something

These rules go through the tags of the tree and their attributes.  A remark is on the attribute, on
its name, on a component's name, or on an entry of an object that the attribute sets or spreads.
-/

namespace CodeConventions.Document

variable {d : Document} {a n tag : Node} {rs : List Remark}

/-- An attribute of a tag that begins with a name. -/
theorem mem_of_mem_namedAttributes (htag : tag ∈ d.tags) (ha : a ∈ tag.namedAttributes) :
    a ∈ d.root.nodes :=
  (isAttribute_of_mem_namedAttributes htag ha).mem

theorem mem_of_mem_flatMap_namedAttributes {tags : List Node} (htags : tags.Sublist d.tags)
    (ha : a ∈ tags.flatMap Node.namedAttributes) : a ∈ d.root.nodes :=
  (isAttribute_of_mem_flatMap htags ha).1.mem

/-! ## Attributes -/

/-- Remarks on attributes of tags, whatever is wrong about them. -/
private theorem onNodes_attributeRemarks (fault : Node → Node → Option String) :
    d.OnNodes (d.tags.flatMap fun tag => tag.namedAttributes.filterMap fun a =>
      (fault tag a).map (d.remark a)) :=
  onNodes_flatMap fun _ htag => onNodes_filterMap fun _ ha _ hr =>
    isOnNode_of_map (mem_of_mem_namedAttributes htag ha) hr

theorem onNodes_rawMarkup (d : Document) (options : RawMarkupOptions) :
    d.OnNodes (d.rawMarkup options) :=
  onNodes_attributeRemarks (d.rawMarkupAttributeFault? options)

theorem onNodes_foreignNames (d : Document) : d.OnNodes d.foreignNames :=
  onNodes_attributeRemarks fun tag a =>
    (d.attributeName? a).bind (foreignNameFault? (d.isNative tag))

theorem onNodes_scriptAddresses (d : Document) : d.OnNodes d.scriptAddresses :=
  onNodes_map fun _ ha =>
    mem_of_mem_flatMap_namedAttributes (List.Sublist.refl _) (List.mem_filter.mp ha).1

theorem onNodes_joinedClasses (d : Document) (options : ClassListOptions) :
    d.OnNodes (d.joinedClasses options) := by
  refine onNodes_filterMap fun a ha r hr => ?_
  obtain ⟨helper, _, rfl⟩ := Option.map_eq_some_iff.mp hr
  refine isOnNode_remark ?_ _
  exact mem_of_mem_flatMap_namedAttributes List.filter_sublist (List.mem_filter.mp ha).1

theorem onNodes_arrayHandlers (h : d.arrayHandlers = .ok rs) : d.OnNodes rs := by
  refine onNodes_remarksFor h fun a ha found hfound => ?_
  have hmem := mem_of_mem_flatMap_namedAttributes List.filter_sublist ha
  unfold arrayHandler at hfound
  split at hfound
  · cases hfound
  · split at hfound
    · exact Except.ok.inj hfound ▸ onNodes_singleton hmem _
    · exact Except.ok.inj hfound ▸ onNodes_nil

/-! ## Names of attributes -/

theorem onNodes_unknownPrefixes (d : Document) (options : PrefixOptions) :
    d.OnNodes (d.unknownPrefixes options) := by
  refine onNodes_flatMap fun tag htag => onNodes_filterMap fun a ha r hr => ?_
  split at hr
  · cases hr
  next name hname =>
    split at hr
    · exact isOnNode_of_map (mem_of_firstPart? (mem_of_mem_namedAttributes htag ha) hname) hr
    · cases hr

theorem onNodes_repeatedAttributes {options : RepeatedOptions}
    (h : d.repeatedAttributes options = .ok rs) : d.OnNodes rs := by
  refine onNodes_remarksFor h fun tag htag found hfound => ?_
  have hnamed : ∀ a ∈ tag.namedAttributes, ∀ n, a.firstPart? = some n → n ∈ d.root.nodes :=
    fun a ha n => mem_of_firstPart? (mem_of_mem_namedAttributes htag ha)
  obtain ⟨names, hnames, hfound⟩ := Except.bind_eq_ok_iff.mp hfound
  obtain ⟨twice, htwice, hfound⟩ := Except.bind_eq_ok_iff.mp hfound
  rw [← Except.ok.inj hfound]
  refine OnNodes.append (fun r hr => ?_) ?_
  · obtain ⟨entry, hentry, rfl⟩ := List.mem_map.mp hr
    obtain ⟨name, hname, rfl⟩ := normalNames_eq_ok hnames
    obtain ⟨n, hn, hnormal⟩ := List.mem_map.mp ((repeatedFrom_sublist _ _).subset hentry)
    obtain ⟨a, ha, rfl⟩ := List.mem_map.mp hn
    rw [← hnormal]
    exact isOnNode_remark (hnamed a ha _ (hname a ha)) _
  · rcases childrenTwice_eq_ok htwice with rfl | ⟨n, ⟨a, ha, hn⟩, _, rfl⟩
    · exact onNodes_nil
    · exact onNodes_singleton (hnamed a ha n hn) _

theorem onNodes_undefinedNames {options : UndefinedOptions}
    (h : d.undefinedNames options = .ok rs) : d.OnNodes rs := by
  obtain ⟨directives, hdirectives, rfl⟩ := Except.map_eq_ok_iff.mp h
  refine OnNodes.append (onNodes_filterMap fun tag htag r hr => ?_)
    (onNodes_remarksFor hdirectives fun a ha found hfound => ?_)
  · obtain ⟨n, message, ⟨name, hname, hroot⟩, rfl⟩ := remark_of_undefinedTag? hr
    have hmem := mem_of_child? (mem_of_mem_tags htag).1 hname
    exact isOnNode_remark (mem_of_mem_nodes hmem (Node.mem_nodes_of_rootIdentifier? hroot)) _
  · have hmem := mem_of_mem_flatMap_namedAttributes (List.Sublist.refl _) ha
    unfold undefinedDirective at hfound
    split at hfound
    · cases hfound
    next name hname =>
      split at hfound
      · split at hfound
        next use directive hparts =>
          split at hfound
          · refine Except.ok.inj hfound ▸ onNodes_singleton ?_ _
            refine mem_of_mem_parts (mem_of_firstPart? hmem hname) ?_
            rw [hparts]
            exact List.mem_cons_of_mem _ List.mem_cons_self
          · exact Except.ok.inj hfound ▸ onNodes_nil
        next => exact Except.ok.inj hfound ▸ onNodes_nil
      · exact Except.ok.inj hfound ▸ onNodes_nil

/-! ## Event handlers -/

private theorem onNodes_spreadHandlers (htag : tag ∈ d.tags) :
    d.OnNodes (d.spreadHandlers tag) := by
  refine onNodes_filterMap fun p hp r hr => ?_
  obtain ⟨o, ho, hp⟩ := List.mem_flatMap.mp hp
  obtain ⟨a, ha, ho⟩ := List.mem_filterMap.mp ho
  have hmem := mem_of_mem_parts (spreadLiteral?_back htag ha ho).1 (mem_properties hp).1
  unfold spreadHandler? at hr
  split at hr
  · split at hr
    · exact Option.some_inj.mp hr ▸ isOnNode_remark hmem _
    · cases hr
  · cases hr

private theorem onNodes_handler {options : HandlerOptions} {name : Node} (ha : a ∈ d.root.nodes)
    (hname : name ∈ d.root.nodes) (h : d.handler options a name = .ok rs) : d.OnNodes rs := by
  unfold handler at h
  dsimp only at h
  split at h
  · exact Except.ok.inj h ▸ onNodes_nil
  · obtain ⟨⟨isPlain, value⟩, _, rfl⟩ := Except.map_eq_ok_iff.mp h
    dsimp only
    split_ifs
    · exact onNodes_singleton ha _
    · exact onNodes_nil
    · intro r hr
      exact isOnNode_of_map hname (Option.mem_toList.mp hr)

theorem onNodes_eventHandlers {options : HandlerOptions}
    (h : d.eventHandlers options = .ok rs) : d.OnNodes rs := by
  refine onNodes_remarksFor h fun tag htag found hfound => ?_
  have htag := (List.mem_filter.mp htag).1
  obtain ⟨named, hnamed, rfl⟩ := Except.map_eq_ok_iff.mp hfound
  refine OnNodes.append ?_ (onNodes_remarksFor hnamed fun a ha more hmore => ?_)
  · split
    · exact onNodes_spreadHandlers htag
    · exact onNodes_nil
  · have hmem := mem_of_mem_namedAttributes htag ha
    split at hmore
    next name hname => exact onNodes_handler hmem (mem_of_firstPart? hmem hname) hmore
    next => exact Except.ok.inj hmore ▸ onNodes_nil

/-! ## Elements and styles -/

theorem onNodes_emptyElements (d : Document) (options : EmptyElementOptions) :
    d.OnNodes (d.emptyElements options) :=
  onNodes_find

theorem onNodes_styles (d : Document) (options : StyleOptions) : d.OnNodes (d.styles options) := by
  refine onNodes_flatMap fun a ha => ?_
  obtain ⟨hattribute, hkind⟩ :=
    isAttribute_of_mem_flatMap (List.Sublist.refl _) (List.mem_filter.mp ha).1
  unfold styleRemarks
  split
  · exact onNodes_nil
  next value hvalue =>
    split
    · split
      · exact onNodes_nil
      · exact onNodes_singleton hattribute.mem _
    · split
      · refine onNodes_filterMap fun p hp r hr => ?_
        obtain ⟨hpart, hproperty⟩ := mem_properties hp
        obtain ⟨_, n, message, hn, rfl⟩ := remark_of_styleEntry? hproperty hr
        have hmem := mem_of_mem_nodes hattribute.mem (attributeExpression?_back hkind hvalue).1
        exact isOnNode_remark (mem_of_mem_children (mem_of_mem_parts hmem hpart) hn) _
      · exact onNodes_nil

end CodeConventions.Document
