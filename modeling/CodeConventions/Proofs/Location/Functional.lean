import CodeConventions.Proofs.Location.Remark
import CodeConventions.Proofs.Rules.Functional

/-!
# Where functional rules find something

These rules look at statements, expressions and types, and each remark is on the node looked at, on
its name, or on one of its members.
-/

namespace CodeConventions.Document

variable {d : Document} {n : Node} {rs : List Remark}

/-! ## Reassignable bindings -/

private theorem onNodes_reassignable {options : ReassignableOptions} {keyword : String}
    {name : Option Node} (hname : ∀ n ∈ name, n ∈ d.root.nodes)
    (h : d.reassignable options keyword name = .ok rs) : d.OnNodes rs := by
  unfold reassignable at h
  split at h
  · cases h
  · exact Except.ok.inj h ▸ onNodes_nil
  · obtain ⟨r, hr, rfl⟩ := Except.map_eq_ok_iff.mp h
    cases name with
    | none => cases hr
    | some n => exact Except.ok.inj hr ▸ onNodes_singleton (hname n rfl) _

theorem onNodes_reassignableBindings {options : ReassignableOptions}
    (h : d.reassignableBindings options = .ok rs) : d.OnNodes rs := by
  unfold reassignableBindings at h
  split at h
  · cases h
  next inStatements hstatements =>
    obtain ⟨inHeads, hheads, rfl⟩ := Except.map_eq_ok_iff.mp h
    refine OnNodes.append (onNodes_remarksFor hstatements ?_) (onNodes_remarksFor hheads ?_)
    · intro statement hstatement found hfound
      have hmem := (mem_of_mem_find hstatement).1
      unfold reassignableInStatement at hfound
      dsimp only at hfound
      split at hfound
      · exact Except.ok.inj hfound ▸ onNodes_nil
      split at hfound
      · exact Except.ok.inj hfound ▸ onNodes_nil
      refine onNodes_remarksFor hfound fun v hv more hmore => onNodes_reassignable ?_ hmore
      intro name hname
      exact mem_of_child? (mem_of_mem_parts hmem (List.mem_filter.mp hv).1) hname
    · intro loop hloop found hfound
      unfold reassignableInHead at hfound
      split at hfound
      next keyword left _ hleft =>
        split at hfound
        · exact Except.ok.inj hfound ▸ onNodes_nil
        · refine onNodes_reassignable (fun n hn => ?_) hfound
          rw [← Option.some_inj.mp hn]
          exact mem_of_child? (mem_of_mem_find hloop).1 hleft
      next => exact Except.ok.inj hfound ▸ onNodes_nil

/-! ## Exceptions and rejections -/

theorem onNodes_throws (d : Document) (options : ThrowOptions) : d.OnNodes (d.throws options) :=
  onNodes_find

theorem onNodes_rejections (d : Document) : d.OnNodes d.rejections := by
  refine onNodes_map fun call hcall => ?_
  rcases List.mem_append.mp hcall with hcall | hcall
  · exact (mem_of_mem_find (List.mem_filter.mp hcall).1).1
  · obtain ⟨construction, hconstruction, hcall⟩ := List.mem_flatMap.mp hcall
    obtain ⟨executor, _, hexecutor, _, hcall⟩ := exists_of_mem_rejectionsIn hcall
    have hmem := (mem_of_executor? (mem_of_mem_find hconstruction).1 hexecutor).1
    exact mem_of_mem_nodes hmem (callee?_of_mem_callsOf hcall).1

/-! ## Changes to constants -/

private theorem onNodes_memberChanges {options : MutationOptions} (hn : n ∈ d.root.nodes)
    (h : d.memberChanges options n = .ok rs) : d.OnNodes rs := by
  unfold memberChanges at h
  split at h
  · exact Except.ok.inj h ▸ onNodes_nil
  split at h
  · exact Except.ok.inj h ▸ onNodes_nil
  obtain ⟨constant, _, rfl⟩ := Except.map_eq_ok_iff.mp h
  cases constant with
  | none => exact onNodes_nil
  | some c => exact onNodes_singleton hn _

private theorem onNodes_callChanges {options : MutationOptions} {call : Node}
    (hcall : call ∈ d.root.nodes) (h : d.callChanges options call = .ok rs) : d.OnNodes rs := by
  unfold callChanges at h
  split at h
  · exact Except.ok.inj h ▸ onNodes_nil
  split at h
  · exact Except.ok.inj h ▸ onNodes_nil
  split at h
  · unfold assignedInto at h
    split at h
    · exact Except.ok.inj h ▸ onNodes_nil
    split at h
    · obtain ⟨constant, _, rfl⟩ := Except.map_eq_ok_iff.mp h
      split
      · exact onNodes_singleton hcall _
      · exact onNodes_nil
    · exact Except.ok.inj h ▸ onNodes_nil
  split at h
  · obtain ⟨constant, _, rfl⟩ := Except.map_eq_ok_iff.mp h
    cases constant with
    | none => exact onNodes_nil
    | some c =>
      dsimp only
      split_ifs
      · exact onNodes_singleton hcall _
      · exact onNodes_nil
      · exact onNodes_singleton hcall _
      · exact onNodes_nil
  · exact Except.ok.inj h ▸ onNodes_nil

theorem onNodes_changesToConstants {options : MutationOptions}
    (h : d.changesToConstants options = .ok rs) : d.OnNodes rs := by
  unfold changesToConstants at h
  split at h
  · cases h
  next members hmembers =>
    obtain ⟨calls, hcalls, rfl⟩ := Except.map_eq_ok_iff.mp h
    refine OnNodes.append (onNodes_remarksFor hmembers ?_) (onNodes_remarksFor hcalls ?_)
    · exact fun n hn found => onNodes_memberChanges (mem_of_mem_find hn).1
    · exact fun call hcall found => onNodes_callChanges (mem_of_mem_find hcall).1

/-! ## Types -/

private theorem onNodes_members {shapes : List Node} (hshapes : shapes.Sublist d.shapes)
    {p : Node → Bool} {message : String} :
    d.OnNodes (((shapes.flatMap Node.parts).filter p).map fun m => d.remark m message) := by
  refine onNodes_map fun m hm => ?_
  obtain ⟨shape, hshape, hm⟩ := List.mem_flatMap.mp (List.mem_filter.mp hm).1
  exact mem_of_mem_parts (mem_of_mem_find (hshapes.subset hshape)).1 hm

theorem onNodes_writableMembers (d : Document) : d.OnNodes d.writableMembers :=
  onNodes_members List.filter_sublist

theorem onNodes_methodSignatures (d : Document) (options : SignatureOptions) :
    d.OnNodes (d.methodSignatures options) :=
  onNodes_members (List.Sublist.refl _)

private theorem onNodes_writtenType {options : TypeFamilyOptions} {type : Option Node}
    {name : Option String} {message : String} (hn : n ∈ d.root.nodes)
    (h : d.writtenType options n type name message = .ok rs) : d.OnNodes rs := by
  unfold writtenType at h
  split at h
  · exact Except.ok.inj h ▸ onNodes_nil
  · obtain ⟨ignored, _, rfl⟩ := Except.map_eq_ok_iff.mp h
    split
    · exact onNodes_singleton hn message
    · exact onNodes_nil

private theorem onNodes_functionTypes {options : WrittenTypeOptions} {fn : Node}
    (hfn : fn ∈ d.root.nodes) (h : d.functionTypes options fn = .ok rs) : d.OnNodes rs := by
  unfold functionTypes at h
  dsimp only at h
  split at h
  · cases h
  next parameters hparameters =>
    have hon : d.OnNodes parameters := onNodes_remarksFor hparameters fun p hp found =>
      onNodes_writtenType (mem_of_mem_writtenParameters hfn hp)
    split at h
    next written type hwritten _ =>
      obtain ⟨returned, hreturned, rfl⟩ := Except.map_eq_ok_iff.mp h
      exact hon.append (onNodes_writtenType (mem_of_child? hfn hwritten) hreturned)
    next => exact Except.ok.inj h ▸ hon

theorem onNodes_writtenTypes {options : WrittenTypeOptions}
    (h : d.writtenTypes options = .ok rs) : d.OnNodes rs := by
  have hannotated {kinds : List String} {role message : String} {found : List Remark}
      (h : remarksFor (d.find kinds) (d.annotated options.variableTypes role message) =
        .ok found) : d.OnNodes found :=
    onNodes_remarksFor h fun n hn more => onNodes_writtenType (mem_of_mem_find hn).1
  unfold writtenTypes at h
  obtain ⟨ofFunctions, hfunctions, h⟩ := Except.bind_eq_ok_iff.mp h
  obtain ⟨ofVariables, hvariables, h⟩ := Except.bind_eq_ok_iff.mp h
  obtain ⟨ofProperties, hproperties, h⟩ := Except.bind_eq_ok_iff.mp h
  rw [← Except.ok.inj h]
  refine OnNodes.append (OnNodes.append ?_ (hannotated hvariables)) (hannotated hproperties)
  exact onNodes_remarksFor hfunctions fun fn hfn found =>
    onNodes_functionTypes (mem_of_mem_find hfn).1

theorem onNodes_declaredTypes {options : DeclaredTypeOptions}
    (h : d.declaredTypes options = .ok rs) : d.OnNodes rs := by
  refine onNodes_remarksFor h fun declaration hdeclaration found hfound => ?_
  unfold declaredType at hfound
  split at hfound
  · exact Except.ok.inj hfound ▸ onNodes_nil
  dsimp only at hfound
  split at hfound
  · cases hfound
  · exact Except.ok.inj hfound ▸ onNodes_nil
  split at hfound
  · obtain ⟨r, hr, rfl⟩ := Except.map_eq_ok_iff.mp hfound
    cases hname : declaration.child? "name" with
    | none =>
      rw [hname] at hr
      cases hr
    | some name =>
      rw [hname] at hr
      rw [← Except.ok.inj hr]
      exact onNodes_singleton (mem_of_child? (mem_of_mem_find hdeclaration).1 hname) _
  · exact Except.ok.inj hfound ▸ onNodes_nil

end CodeConventions.Document
