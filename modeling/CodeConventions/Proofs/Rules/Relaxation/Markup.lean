import CodeConventions.Proofs.Rules.Relaxation.Basic

/-!
# Markup and query rules under options that let more pass

Most options of these rules are conditions for remarking nothing.  Two do more: whether static
markup is looked at decides which of several faults it has, and the names that a query key need not
hold change the list of those that it lacks.  Neither changes what is remarked.
-/

namespace CodeConventions.Document

variable {d : Document}

/-! ## Raw markup -/

/-- Raw markup that is not looked at is always remarked. -/
theorem rawMarkupAttributeFault?_eq_none {o o' : RawMarkupOptions} (h : o.RelaxesTo o')
    {tag attr : Node} (hnone : d.rawMarkupAttributeFault? o tag attr = none) :
    d.rawMarkupAttributeFault? o' tag attr = none := by
  unfold rawMarkupAttributeFault? at hnone ⊢
  dsimp only at hnone ⊢
  split at hnone
  next => exact nomatch hnone
  next hforeign =>
  rw [if_neg hforeign]
  split at hnone
  next hraw =>
    have hstatic : o.allowStatic = true := by
      by_contra hlooked
      rw [if_neg hlooked] at hnone
      exact nomatch hnone
    rw [if_pos hraw, if_pos (h.allowStatic hstatic)]
    rwa [if_pos hstatic] at hnone
  next hraw => exact if_neg hraw

theorem covers_rawMarkup {o o' : RawMarkupOptions} (h : o.RelaxesTo o') :
    Covers (d.rawMarkup o) (d.rawMarkup o') := by
  refine Covers.flatMap (List.Subset.refl _) fun tag _ => Covers.filterMap fun a _ r hr => ?_
  exact Covers.exists_map_remark (rawMarkupAttributeFault?_eq_none h) hr

/-! ## Names of attributes -/

theorem narrowsTo_repeatedAttributes {o o' : RepeatedOptions} (h : o.RelaxesTo o') :
    NarrowsTo (d.repeatedAttributes o) (d.repeatedAttributes o') := by
  obtain rfl : o = o' := by
    cases o
    cases o'
    exact congrArg RepeatedOptions.mk h.ignoreCase
  exact NarrowsTo.refl _

theorem prefixFault?_eq_none {o o' : PrefixOptions} (h : o.RelaxesTo o') {native : Bool}
    {before : String} (hnone : prefixFault? o native before = none) :
    prefixFault? o' native before = none := by
  unfold prefixFault? at hnone ⊢
  split at hnone
  next => exact nomatch hnone
  next hnative =>
  split at hnone
  next => exact nomatch hnone
  next hstyle =>
  split at hnone
  next hknown =>
    have hknown' := contains_append_mono _ h.allowedNamespaces before hknown
    rw [if_neg hnative, if_neg hstyle, if_pos hknown']
  next => exact nomatch hnone

theorem covers_unknownPrefixes {o o' : PrefixOptions} (h : o.RelaxesTo o') :
    Covers (d.unknownPrefixes o) (d.unknownPrefixes o') := by
  refine Covers.flatMap (List.Subset.refl _) fun tag _ => Covers.filterMap fun a _ r hr => ?_
  cases hname : a.firstPart? with
  | none =>
      rw [hname] at hr
      exact nomatch hr
  | some name =>
  rw [hname] at hr
  dsimp only at hr ⊢
  split at hr
  next hprefixed =>
    rw [if_pos hprefixed]
    exact Covers.exists_map_remark (prefixFault?_eq_none h) hr
  next => exact nomatch hr

/-! ## Event handlers -/

theorem narrowsTo_handler {o o' : HandlerOptions} (h : o.RelaxesTo o') (attr name : Node) :
    NarrowsTo (d.handler o attr name) (d.handler o' attr name) := by
  refine NarrowsTo.guarded id fun _ => NarrowsTo.map fun a a' ha ha' => ?_
  obtain rfl := Except.ok.inj (ha.symm.trans ha')
  dsimp only
  split
  · exact Covers.refl _
  · exact Covers.guarded h.ignoreCase fun _ => Covers.refl _

theorem narrowsTo_handlersOf {o o' : HandlerOptions} (h : o.RelaxesTo o') (tag : Node) :
    NarrowsTo (d.handlersOf o tag) (d.handlersOf o' tag) := by
  refine NarrowsTo.append (Covers.conditional h.warnOnSpread (Covers.refl _)) ?_
  refine NarrowsTo.remarksFor fun a _ => ?_
  split
  next name _ => exact narrowsTo_handler h a name
  next => exact NarrowsTo.nil _

theorem narrowsTo_eventHandlers {o o' : HandlerOptions} (h : o.RelaxesTo o') :
    NarrowsTo (d.eventHandlers o) (d.eventHandlers o') :=
  NarrowsTo.remarksFor fun tag _ => narrowsTo_handlersOf h tag

/-! ## Names without a declaration -/

section Undefined

variable {o o' : UndefinedOptions}

theorem isDefined_mono (h : o.RelaxesTo o') (name : Node) :
    d.isDefined o name ≤ d.isDefined o' name := by
  rw [isDefined, isDefined]
  exact sup_le_sup_right (inf_le_inf_right _ h.allowGlobals) _

theorem narrowsTo_undefinedDirective (h : o.RelaxesTo o') (attr : Node) :
    NarrowsTo (d.undefinedDirective o attr) (d.undefinedDirective o' attr) := by
  unfold undefinedDirective
  split
  · exact NarrowsTo.refl _
  split
  · split
    next use directive _ =>
      have hundefined := compl_le_compl (isDefined_mono (d := d) h directive)
      exact NarrowsTo.conditional (inf_le_inf_left _ hundefined) (NarrowsTo.refl _)
    next => exact NarrowsTo.refl _
  · exact NarrowsTo.refl _

theorem narrowsTo_undefinedNames (h : o.RelaxesTo o') :
    NarrowsTo (d.undefinedNames o) (d.undefinedNames o') := by
  refine NarrowsTo.append (Covers.filterMap fun tag _ r hr => ?_)
    (NarrowsTo.remarksFor fun a _ => narrowsTo_undefinedDirective h a)
  unfold undefinedTag? at hr ⊢
  cases hname : componentName? tag with
  | none =>
      rw [hname] at hr
      exact nomatch hr
  | some name =>
  rw [hname] at hr
  dsimp only at hr ⊢
  split at hr
  next => exact nomatch hr
  next hundefined =>
  obtain rfl := Option.some_inj.mp hr
  have hundefined' := mt (sup_le_sup_left (isDefined_mono h name) (isNativeName (d.text name))) hundefined
  exact ⟨_, if_neg hundefined', rfl⟩

end Undefined

/-! ## Elements without children -/

theorem covers_emptyElements {o o' : EmptyElementOptions} (h : o.RelaxesTo o') :
    Covers (d.emptyElements o) (d.emptyElements o') := by
  refine Covers.map_remark (List.monotone_filter_right _ fun e he => ?_).subset
  rw [Bool.and_eq_true, Option.any_eq_true] at he ⊢
  obtain ⟨⟨name, hname, hcovers⟩, hclose⟩ := he
  exact ⟨⟨name, hname, h.covers_le name hcovers⟩, hclose⟩

/-! ## Styles and classes -/

theorem covers_styleRemarks {o o' : StyleOptions} (h : o.RelaxesTo o') (attr : Node) :
    Covers (d.styleRemarks o attr) (d.styleRemarks o' attr) := by
  unfold styleRemarks
  split
  · exact Covers.refl _
  split
  · exact Covers.guarded h.allowString fun _ => Covers.refl _
  · exact Covers.refl _

theorem covers_styles {o o' : StyleOptions} (h : o.RelaxesTo o') :
    Covers (d.styles o) (d.styles o') := by
  refine Covers.flatMap (List.monotone_filter_right _ fun a ha => ?_).subset
    fun a _ => covers_styleRemarks h a
  rw [Option.any_eq_true] at ha ⊢
  obtain ⟨name, hname, hstyle⟩ := ha
  exact ⟨name, hname, contains_mono h.styleProps name hstyle⟩

theorem classHelper?_of_relaxesTo {o o' : ClassListOptions} (h : o.RelaxesTo o') {attr : Node}
    {helper : String} (hhelper : d.classHelper? o' attr = some helper) :
    d.classHelper? o attr = some helper := by
  unfold classHelper? at hhelper ⊢
  cases hvalue : attr.attributeExpression? with
  | none =>
      rw [hvalue] at hhelper
      exact nomatch hhelper
  | some value =>
  rw [hvalue] at hhelper
  dsimp only at hhelper ⊢
  split at hhelper
  next hcall =>
    rw [if_pos hcall]
    split at hhelper
    next callee argument _ _ =>
      split at hhelper
      next hjoins =>
        have hnamed := contains_mono h.classnames (d.text callee)
        exact (if_pos (inf_le_inf_right _ (inf_le_inf_left _ hnamed) hjoins)).trans hhelper
      next => exact nomatch hhelper
    next => exact nomatch hhelper
  next => exact nomatch hhelper

theorem covers_joinedClasses {o o' : ClassListOptions} (h : o.RelaxesTo o') :
    Covers (d.joinedClasses o) (d.joinedClasses o') := by
  refine Covers.filterMap fun a _ r hr => ?_
  obtain ⟨helper, hhelper, rfl⟩ := Option.map_eq_some_iff.mp hr
  exact ⟨_, Option.map_eq_some_iff.mpr ⟨helper, classHelper?_of_relaxesTo h hhelper, rfl⟩, rfl⟩

/-! ## Keys of queries -/

/-- A key that lacks a name still lacks it when fewer names are let pass. -/
theorem missingFromKey_subset {o o' : QueryKeyOptions} (h : o.RelaxesTo o') (q : KeyedQuery) :
    d.missingFromKey o' q ⊆ d.missingFromKey o q := by
  intro name hname
  rw [missingFromKey, List.mem_eraseDups] at hname ⊢
  refine List.map_subset _ (List.monotone_filter_right _ fun use => ?_).subset hname
  have hpresent := contains_append_mono (d.namesInKey q.key) h.allowlist (d.text use)
  exact inf_le_inf_right _ (compl_le_compl hpresent)

theorem covers_incompleteKeys {o o' : QueryKeyOptions} (h : o.RelaxesTo o') :
    Covers (d.incompleteKeys o) (d.incompleteKeys o') := by
  refine Covers.filterMap fun q _ r hr => ?_
  dsimp only at hr ⊢
  split at hr
  next => exact nomatch hr
  next hlacking =>
  obtain rfl := Option.some_inj.mp hr
  refine ⟨_, if_neg fun hcomplete => hlacking ?_, rfl⟩
  rw [List.isEmpty_iff] at hcomplete ⊢
  exact List.subset_nil.mp (hcomplete ▸ missingFromKey_subset h q)

end CodeConventions.Document
