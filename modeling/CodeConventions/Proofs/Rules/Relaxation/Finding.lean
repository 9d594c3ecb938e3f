import CodeConventions.Proofs.Rules.Loss
import CodeConventions.Proofs.Rules.Relaxation.Functional
import CodeConventions.Proofs.Rules.Relaxation.Markup

/-!
# Options that let more pass never add a finding

Under options that let at least as much pass, a check shows no span that it does not also show
under the first options, whatever it says of it (`Check.RelaxesTo.spans_subset`).

## Strategy

Each rule is a sequence of remarks about some nodes.  The nodes are the same under all options, and
so are the spans; the options only decide whether something is remarked, and they do so in
conditions that relaxing can only turn one way.

Functions that are said to track what they are given add tracked scopes and take none away
(`trackedScopes_subset`).  A tracked scope can only help a read: it may be noticed there, and if it
is not, the same span is remarked, perhaps with other words (`covers_lostRead`).
-/

namespace CodeConventions

section Reactivity

variable {d : Document} {custom more : List String} {c c' : ReactiveContext}

/-! ## Tracked scopes -/

namespace Document

/-- What is passed to a function that tracks it by its name is tracked with more such names. -/
theorem trackedByName_subset (hsubset : custom ⊆ more) (name : String)
    (scopes : List TrackedScope) :
    (if Reactive.isReactiveFunctionName name || custom.contains name then scopes else []) ⊆
      if Reactive.isReactiveFunctionName name || more.contains name then scopes else [] := by
  split
  next htracks =>
    have htracks' : (Reactive.isReactiveFunctionName name || more.contains name) = true :=
      sup_le_sup_left (contains_mono hsubset name) _ htracks
    rw [if_pos htracks']
    exact List.Subset.refl _
  next => exact List.nil_subset _

theorem scopesOfNamedCall_subset (hsubset : custom ⊆ more) (callee : Node)
    (arguments : List Node) :
    d.scopesOfNamedCall custom callee arguments ⊆ d.scopesOfNamedCall more callee arguments := by
  unfold scopesOfNamedCall
  dsimp only
  -- the names are looked at last
  split
  · exact List.Subset.refl _
  split
  · exact List.Subset.refl _
  split
  · exact List.Subset.refl _
  split
  · exact List.Subset.refl _
  split
  · exact List.Subset.refl _
  exact trackedByName_subset hsubset _ _

theorem scopesOfMethodCall_subset (hsubset : custom ⊆ more) (callee : Node)
    (arguments : List Node) :
    d.scopesOfMethodCall custom callee arguments ⊆ d.scopesOfMethodCall more callee arguments := by
  unfold scopesOfMethodCall
  dsimp only
  split
  · split
    · exact List.Subset.refl _
    · exact trackedByName_subset hsubset _ _
  · exact trackedByName_subset hsubset _ _

theorem scopesOfCall_subset (hsubset : custom ⊆ more) (call : Node) :
    d.scopesOfCall custom call ⊆ d.scopesOfCall more call := by
  unfold scopesOfCall
  split
  · exact List.Subset.refl _
  next callee _ =>
    split
    · exact scopesOfNamedCall_subset hsubset callee _
    split
    · exact scopesOfMethodCall_subset hsubset callee _
    · exact List.Subset.refl _

theorem trackedScopes_subset (hsubset : custom ⊆ more) :
    d.trackedScopes custom ⊆ d.trackedScopes more := by
  intro s hs
  simp only [trackedScopes, List.mem_append] at hs ⊢
  refine hs.imp_left (Or.imp_right fun hcall => ?_)
  obtain ⟨call, hmem, hs⟩ := List.mem_flatMap.mp hcall
  exact List.mem_flatMap.mpr ⟨call, hmem, scopesOfCall_subset hsubset call hs⟩

end Document

namespace ReactiveContext

/-- The same functions run at once in both contexts, and the second tracks at least as much. -/
structure Extends (c c' : ReactiveContext) : Prop where
  synchronous : c.synchronous = c'.synchronous
  scopes : c.scopes ⊆ c'.scopes

theorem Extends.scopesOf_subset (h : c.Extends c') (owner : Node) :
    c.scopesOf owner ⊆ c'.scopesOf owner :=
  List.map_subset _ (List.filter_subset _ h.scopes)

theorem Extends.any_scopesOf (h : c.Extends c') (owner : Node) {p : TrackedScope → Bool} :
    (c.scopesOf owner).any p ≤ (c'.scopesOf owner).any p := by
  intro hany
  rw [List.any_eq_true] at hany ⊢
  exact hany.imp fun s hs => hs.imp_left fun hmem => h.scopesOf_subset owner hmem

end ReactiveContext

/-! ## Reads -/

namespace Document

/-- A read that is lost although more is tracked is lost when less is tracked. -/
theorem covers_lostRead (h : c.Extends c') (owner use shown : Node) (name : String) :
    Covers (d.lostRead c owner use shown name) (d.lostRead c' owner use shown name) := by
  refine Covers.guarded (h.any_scopesOf owner) fun _ => ?_
  -- what is said depends on the scopes around the read
  split <;> split <;> exact Covers.singleton shown _ _

theorem covers_signalUse (h : c.Extends c') (v : ReactiveVariable) (use : Node) :
    Covers (d.signalUse c v use) (d.signalUse c' v use) := by
  unfold signalUse
  dsimp only
  split
  next call _ => exact covers_lostRead h _ use call _
  next => exact Covers.conditional id (covers_lostRead h _ use use _)

theorem covers_propsUse (h : c.Extends c') (v : ReactiveVariable) (use : Node) :
    Covers (d.propsUse c v use) (d.propsUse c' v use) := by
  unfold propsUse
  split
  · exact Covers.refl _
  split
  · exact Covers.guarded id fun _ => covers_lostRead h _ use _ _
  · exact Covers.refl _

theorem covers_reactiveUse (h : c.Extends c') (v : ReactiveVariable) (use : Node) :
    Covers (d.reactiveUse c v use) (d.reactiveUse c' v use) := by
  unfold reactiveUse
  rw [h.synchronous]
  split
  · exact Covers.refl _
  refine Covers.guarded id fun _ => ?_
  split
  · exact covers_signalUse h v use
  · exact covers_propsUse h v use

theorem covers_reactivity {o o' : ReactivityOptions} (h : o.RelaxesTo o') :
    Covers (d.reactivity o) (d.reactivity o') := by
  unfold reactivity
  dsimp only
  refine Covers.append (Covers.refl _) (Covers.flatMap (List.Subset.refl _) fun v _ =>
    Covers.flatMap (List.Subset.refl _) fun use _ => covers_reactiveUse ?_ v use)
  refine ⟨rfl, List.map_subset _ ?_⟩
  split
  · exact List.Subset.refl _
  · exact trackedScopes_subset h.customReactiveFunctions

end Document

end Reactivity

/-! ## All checks -/

namespace Check

variable {d : Document} {c c' : Check}

/-- A check that relaxes remarks no new spans. -/
theorem RelaxesTo.narrowsTo_remarks (h : c.RelaxesTo c') :
    NarrowsTo (c.remarks d) (c'.remarks d) := by
  cases h with
  | reassignableBindings h => exact Document.narrowsTo_reassignableBindings h
  | throws h => exact NarrowsTo.ok (Document.covers_throws h)
  | changesToConstants h => exact Document.narrowsTo_changesToConstants h
  | methodSignatures h => exact NarrowsTo.ok (Document.covers_methodSignatures h)
  | writtenTypes h => exact Document.narrowsTo_writtenTypes h
  | declaredTypes h => exact Document.narrowsTo_declaredTypes h
  | reactivity h => exact NarrowsTo.ok (Document.covers_reactivity h)
  | rawMarkup h => exact NarrowsTo.ok (Document.covers_rawMarkup h)
  | repeatedAttributes h => exact Document.narrowsTo_repeatedAttributes h
  | unknownPrefixes h => exact NarrowsTo.ok (Document.covers_unknownPrefixes h)
  | eventHandlers h => exact Document.narrowsTo_eventHandlers h
  | undefinedNames h => exact Document.narrowsTo_undefinedNames h
  | emptyElements h => exact NarrowsTo.ok (Document.covers_emptyElements h)
  | styles h => exact NarrowsTo.ok (Document.covers_styles h)
  | joinedClasses h => exact NarrowsTo.ok (Document.covers_joinedClasses h)
  | incompleteKeys h => exact NarrowsTo.ok (Document.covers_incompleteKeys h)

theorem span_toFinding (rule : String) (rs : List Remark) :
    (rs.map (Remark.toFinding rule)).map Finding.span = rs.map Remark.span := by
  rw [List.map_map]
  rfl

end Check

end CodeConventions
