import CodeConventions.Proofs.Rules.Relaxation.Basic

/-!
# Functional rules under options that let more pass

The options of these rules decide whether anything is remarked of a node and never where.  So it
is enough to see that the conditions for remarking nothing hold more often: a name that matches
some patterns matches more of them, and flags that are set stay set.  Such conditions are truth
values, and they are compared in the order in which false comes before true.
-/

namespace CodeConventions.Document

variable {d : Document}

/-! ## Reassignable bindings -/

section Reassignable

variable {o o' : ReassignableOptions}

theorem narrowsTo_reassignable (h : o.RelaxesTo o') (keyword : String) (name : Option Node) :
    NarrowsTo (d.reassignable o keyword name) (d.reassignable o' keyword name) :=
  NarrowsTo.unlessMatching h.ignoreIdentifierPattern (NarrowsTo.refl _)

theorem narrowsTo_reassignableInStatement (h : o.RelaxesTo o') (statement : Node) :
    NarrowsTo (d.reassignableInStatement o statement) (d.reassignableInStatement o' statement) := by
  have hinit := inf_le_inf_right (isForInitializer statement) h.allowInForLoopInit
  refine NarrowsTo.guarded id fun _ => NarrowsTo.guarded hinit fun _ => ?_
  exact NarrowsTo.remarksFor fun v _ => narrowsTo_reassignable h _ _

theorem narrowsTo_reassignableInHead (h : o.RelaxesTo o') (loop : Node) :
    NarrowsTo (d.reassignableInHead o loop) (d.reassignableInHead o' loop) := by
  unfold reassignableInHead
  split
  next keyword left _ _ =>
    have hpass := sup_le_sup_left h.allowInForLoopInit (!reassignableKeywords.contains keyword)
    exact NarrowsTo.guarded hpass fun _ => narrowsTo_reassignable h keyword _
  next => exact NarrowsTo.nil _

theorem narrowsTo_reassignableBindings (h : o.RelaxesTo o') :
    NarrowsTo (d.reassignableBindings o) (d.reassignableBindings o') := by
  unfold reassignableBindings
  refine NarrowsTo.sequence fun rs rs' hrs hrs' => NarrowsTo.append ?_ ?_
  · exact NarrowsTo.remarksFor (fun s _ => narrowsTo_reassignableInStatement h s) rs rs' hrs hrs'
  · exact NarrowsTo.remarksFor fun l _ => narrowsTo_reassignableInHead h l

end Reassignable

/-! ## Exceptions -/

theorem covers_throws {o o' : ThrowOptions} (h : o.RelaxesTo o') :
    Covers (d.throws o) (d.throws o') := by
  refine Covers.map_remark (List.monotone_filter_right _ fun s => ?_).subset
  exact compl_le_compl (inf_le_inf_right _ h.allowInAsyncFunctions)

/-! ## Changes to constants -/

section Mutation

variable {o o' : MutationOptions}

/-- Fewer constants are judged, and they are the same. -/
theorem changedConstant?_mono (h : o.RelaxesTo o') {target : Option Node} {c c' : Option Node}
    (hc : d.changedConstant? o target = .ok c) (hc' : d.changedConstant? o' target = .ok c') :
    c' = none ∨ c' = c := by
  unfold changedConstant? at hc hc'
  cases htarget : target.bind Node.rootIdentifier? with
  | none =>
      rw [htarget] at hc'
      exact Or.inl (Except.ok.inj hc').symm
  | some root =>
      rw [htarget] at hc hc'
      obtain ⟨b, hb, rfl⟩ := Except.map_eq_ok_iff.mp hc
      obtain ⟨b', hb', rfl⟩ := Except.map_eq_ok_iff.mp hc'
      match b, b', matchesAny_mono h.ignoreIdentifierPattern hb hb' with
      | _, true, _ => exact Or.inl rfl
      | false, false, _ => exact Or.inr rfl

/-- Remarks about a constant narrow, if those about each one do. -/
theorem narrowsTo_changedConstant? (h : o.RelaxesTo o') (target : Option Node)
    {f g : Option Node → List Remark} (hnone : g none = []) (hfg : ∀ c, Covers (f c) (g c)) :
    NarrowsTo ((d.changedConstant? o target).map f) ((d.changedConstant? o' target).map g) := by
  refine NarrowsTo.map fun c c' hc hc' => ?_
  rcases changedConstant?_mono h hc hc' with rfl | rfl
  · rw [hnone]
    exact Covers.nil _
  · exact hfg _

theorem narrowsTo_memberChanges (h : o.RelaxesTo o') (n : Node) :
    NarrowsTo (d.memberChanges o n) (d.memberChanges o' n) := by
  unfold memberChanges
  split
  · exact NarrowsTo.nil _
  next target _ =>
    have hpass := sup_le_sup_left (inf_le_inf_right n.isInsideClass h.ignoreClasses)
      (!target.isOneOf Node.accessKinds)
    refine NarrowsTo.guarded hpass fun _ => ?_
    exact narrowsTo_changedConstant? h _ rfl fun c => Covers.refl _

theorem narrowsTo_assignedInto (h : o.RelaxesTo o') (call : Node) :
    NarrowsTo (d.assignedInto o call) (d.assignedInto o' call) := by
  unfold assignedInto
  split
  · exact NarrowsTo.nil _
  split
  · exact narrowsTo_changedConstant? h _ rfl fun c => Covers.refl _
  · exact NarrowsTo.nil _

theorem narrowsTo_methodChanges (h : o.RelaxesTo o') (call callee : Node) :
    NarrowsTo (d.methodChanges o call callee) (d.methodChanges o' call callee) := by
  refine narrowsTo_changedConstant? h _ rfl fun c => ?_
  cases c with
  | none => exact Covers.nil _
  | some c =>
  dsimp only
  split
  next =>
    have hjudged := compl_le_compl h.ignoreMapsAndSets
    exact Covers.conditional (inf_le_inf_right _ (inf_le_inf_right _ hjudged)) (Covers.refl _)
  next => exact Covers.refl _

theorem narrowsTo_callChanges (h : o.RelaxesTo o') (call : Node) :
    NarrowsTo (d.callChanges o call) (d.callChanges o' call) := by
  unfold callChanges
  split
  · exact NarrowsTo.nil _
  next callee _ =>
    have hpass := inf_le_inf_right call.isInsideClass h.ignoreClasses
    refine NarrowsTo.guarded hpass fun _ => ?_
    split
    · exact narrowsTo_assignedInto h call
    split
    · exact narrowsTo_methodChanges h call callee
    · exact NarrowsTo.nil _

theorem narrowsTo_changesToConstants (h : o.RelaxesTo o') :
    NarrowsTo (d.changesToConstants o) (d.changesToConstants o') := by
  unfold changesToConstants
  refine NarrowsTo.sequence fun rs rs' hrs hrs' => NarrowsTo.append ?_ ?_
  · exact NarrowsTo.remarksFor (fun n _ => narrowsTo_memberChanges h n) rs rs' hrs hrs'
  · exact NarrowsTo.remarksFor fun call _ => narrowsTo_callChanges h call

end Mutation

/-! ## Types -/

theorem covers_methodSignatures {o o' : SignatureOptions} (h : o.RelaxesTo o') :
    Covers (d.methodSignatures o) (d.methodSignatures o') := by
  refine Covers.map_remark (List.monotone_filter_right _ fun m => ?_).subset
  exact inf_le_inf_left _ (compl_le_compl (inf_le_inf_right _ h.ignoreIfReadonlyWrapped))

theorem narrowsTo_writtenType {o o' : TypeFamilyOptions} (h : o.RelaxesTo o') (n : Node)
    (type : Option Node) (name : Option String) (message : String) :
    NarrowsTo (d.writtenType o n type name message) (d.writtenType o' n type name message) := by
  refine NarrowsTo.guarded h.enforcement fun _ => NarrowsTo.map fun b b' hb hb' => ?_
  have hmono : b ≤ b' := by
    cases name with
    | none => exact (Except.ok.inj (hb.symm.trans hb')).le
    | some s => exact matchesAny_mono h.ignoreNamePattern hb hb'
  match b, b', hmono with
  | _, true, _ => exact Covers.nil _
  | false, false, _ => exact Covers.refl _

theorem narrowsTo_annotated {o o' : TypeFamilyOptions} (h : o.RelaxesTo o')
    (role message : String) (n : Node) :
    NarrowsTo (d.annotated o role message n) (d.annotated o' role message n) :=
  narrowsTo_writtenType h n _ _ message

section Written

variable {o o' : WrittenTypeOptions}

theorem narrowsTo_functionTypes (h : o.RelaxesTo o') (fn : Node) :
    NarrowsTo (d.functionTypes o fn) (d.functionTypes o' fn) := by
  unfold functionTypes
  refine NarrowsTo.sequence fun rs rs' hrs hrs' => ?_
  have hcovers : Covers rs rs' :=
    NarrowsTo.remarksFor (fun p _ => narrowsTo_annotated h.parameters _ _ p) rs rs' hrs hrs'
  split
  next written type _ _ =>
    exact NarrowsTo.append hcovers (narrowsTo_writtenType h.returnTypes written _ _ _)
  next => exact NarrowsTo.ok hcovers

theorem narrowsTo_writtenTypes (h : o.RelaxesTo o') :
    NarrowsTo (d.writtenTypes o) (d.writtenTypes o') := by
  have hannotated (kinds : List String) (message : String) :=
    NarrowsTo.remarksFor fun n (_ : n ∈ d.find kinds) =>
      narrowsTo_annotated (d := d) h.variableTypes "name" message n
  refine NarrowsTo.bind fun rs rs' hrs hrs' => NarrowsTo.bind fun vs vs' hvs hvs' =>
    NarrowsTo.bind fun ps ps' hps hps' => NarrowsTo.ok ?_
  refine Covers.append (Covers.append ?_ ?_) ?_
  · exact NarrowsTo.remarksFor (fun fn _ => narrowsTo_functionTypes h fn) rs rs' hrs hrs'
  · exact hannotated _ _ vs vs' hvs hvs'
  · exact hannotated _ _ ps ps' hps hps'

end Written

theorem narrowsTo_declaredTypes {o o' : DeclaredTypeOptions} (h : o.RelaxesTo o') :
    NarrowsTo (d.declaredTypes o) (d.declaredTypes o') := by
  refine NarrowsTo.remarksFor fun declaration _ => ?_
  have hpass :=
    inf_le_inf_right (declaration.kind == "interface_declaration") h.ignoreInterfaces
  refine NarrowsTo.guarded hpass fun _ => ?_
  exact NarrowsTo.unlessMatching h.identifiers (NarrowsTo.refl _)

end CodeConventions.Document
