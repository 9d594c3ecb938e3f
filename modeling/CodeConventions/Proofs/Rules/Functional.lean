import CodeConventions.Proofs.Rules.Apart
import CodeConventions.Proofs.Tree.Argument
import CodeConventions.Rules.Check

/-!
# Functional rules keep their remarks apart

Most of these rules show the statements and expressions that they look at, which are firm.  The
exceptions are names of declarators, which hang on a declarator that may be nothing but the name,
and members of object types, which are told apart by what is around them.

Two rules look at declared types.  One goes down from a declaration to the object type that it
declares, the other goes up from every object type to a declaration around it.  They are compared by
what they say of a name and of a member: the name of an object type is shown exactly where a member
of it is, unless it says that the type permits change (`declaredTypes_iff_writableMembers`).
-/

namespace CodeConventions.Document

variable {d : Document} {m n : Node} {rs : List Remark}

/-! ## Reassignable bindings -/

private theorem apartOn_reassignable {options : ReassignableOptions} {keyword : String}
    {name : Option Node} (h : d.reassignable options keyword name = .ok rs) :
    ApartOn (name = some ·) rs := by
  rw [reassignable] at h
  split at h
  · cases h
  · exact Except.ok.inj h ▸ ApartOn.nil
  · obtain ⟨r, hr, rfl⟩ := Except.map_eq_ok_iff.mp h
    cases name with
    | none => cases hr
    | some n => exact Except.ok.inj hr ▸ ApartOn.singleton (P := (some n = some ·)) rfl _

/-- The node is the name of a declarator of the statement. -/
private def IsNameIn (statement n : Node) : Prop :=
  ∃ v ∈ statement.declarators, v.child? "name" = some n

/-- The node is the name of a declarator, or stands in the head of a loop. -/
private def IsDeclared (d : Document) (n : Node) : Prop :=
  d.Hangs "variable_declarator" variableStatementKinds n ∨
    ∃ loop ∈ d.root.nodes, loop.kind = "for_in_statement" ∧ n ∈ loop.children

private theorem Regular.separated_isDeclared (hd : d.Regular) : Separated d.IsDeclared := by
  have hkinds : ∀ kind ∈ variableStatementKinds, kind ∈ firmKinds := by decide
  have hmixed : ∀ m n, d.Hangs "variable_declarator" variableStatementKinds m →
      (∃ loop ∈ d.root.nodes, loop.kind = "for_in_statement" ∧ n ∈ loop.children) →
      m.spot = n.spot → m = n := by
    rintro m n hm ⟨loop, hloop, hkind, hn⟩ hspot
    have houter := hd.outer_of_parent hloop hn (by rw [hkind]; decide)
    rcases hd.eq_or_holder_of_outer hkinds hm houter hspot with heq | ⟨_, _, p, hp, hpkind⟩
    · exact heq.symm
    · obtain rfl : loop = p := Option.some_inj.mp ((Node.parent?_of_mem_children hn).symm.trans hp)
      rw [hkind] at hpkind
      exact absurd hpkind (by decide)
  rintro m n (hm | hm) (hn | hn) hspot
  · exact hd.separated_hangs hkinds (by decide) m n hm hn hspot
  · exact hmixed m n hm hn hspot
  · exact (hmixed n m hn hm hspot.symm).symm
  · obtain ⟨loop, hloop, hkind, hm⟩ := hm
    obtain ⟨other, hother, hkind', hn⟩ := hn
    exact hd.separated_outer m n (hd.outer_of_parent hloop hm (by rw [hkind]; decide))
      (hd.outer_of_parent hother hn (by rw [hkind']; decide)) hspot

private theorem isDeclared_of_isNameIn {statement : Node}
    (hs : statement ∈ d.find variableStatementKinds) (hn : IsNameIn statement n) :
    d.IsDeclared n ∧ ∃ v, n.parent? = some v ∧ v.kind = "variable_declarator" ∧
      v.parent? = some statement := by
  obtain ⟨hmem, hkind⟩ := mem_of_mem_find hs
  obtain ⟨v, hv, hn⟩ := hn
  obtain ⟨hpart, hdeclarator⟩ := List.mem_filter.mp hv
  have hchild := Node.mem_children_of_mem_parts hpart
  have hname := Node.mem_children_of_child? hn
  rw [beq_iff_eq] at hdeclarator
  exact ⟨Or.inl ⟨v, statement, hmem, hkind, hchild, hdeclarator, hname⟩, v,
    Node.parent?_of_mem_children hname, hdeclarator, Node.parent?_of_mem_children hchild⟩

private theorem Regular.apartOn_reassignableInStatement (hd : d.Regular)
    {options : ReassignableOptions} {statement : Node}
    (hs : statement ∈ d.find variableStatementKinds)
    (h : d.reassignableInStatement options statement = .ok rs) :
    ApartOn (IsNameIn statement) rs := by
  rw [reassignableInStatement] at h
  split at h
  · exact Except.ok.inj h ▸ ApartOn.nil
  · split at h
    · exact Except.ok.inj h ▸ ApartOn.nil
    · refine ApartOn.remarksFor hd.separated_isDeclared
        ((hd.parts_nodup (mem_of_mem_find hs).1).filter _) h Node.parent?
        (fun v _ found hfound => apartOn_reassignable hfound) fun v hv n hn => ?_
      exact ⟨(isDeclared_of_isNameIn hs ⟨v, hv, hn⟩).1,
        Node.parent?_of_child? hn⟩

private theorem apartOn_reassignableInHead {options : ReassignableOptions} {loop : Node}
    (h : d.reassignableInHead options loop = .ok rs) :
    ApartOn (loop.child? "left" = some ·) rs := by
  rw [reassignableInHead] at h
  split at h
  next keyword left hkeyword hleft =>
    split at h
    · exact Except.ok.inj h ▸ ApartOn.nil
    · rw [hleft]
      exact apartOn_reassignable h
  next => exact Except.ok.inj h ▸ ApartOn.nil

theorem Regular.apart_reassignableBindings (hd : d.Regular) {options : ReassignableOptions}
    (h : d.reassignableBindings options = .ok rs) : Apart rs := by
  rw [reassignableBindings] at h
  split at h
  · cases h
  next inStatements hstatements =>
    obtain ⟨inHeads, hheads, rfl⟩ := Except.map_eq_ok_iff.mp h
    have hloop : ∀ loop ∈ d.find ["for_in_statement"], ∀ n, loop.child? "left" = some n →
        d.IsDeclared n ∧ n.parent? = some loop := fun loop hl n hn => by
      obtain ⟨hmem, hkind⟩ := mem_of_mem_find hl
      have hchild := Node.mem_children_of_child? hn
      exact ⟨Or.inr ⟨loop, hmem, List.mem_singleton.mp hkind, hchild⟩,
        Node.parent?_of_mem_children hchild⟩
    have hrs := ApartOn.remarksFor hd.separated_isDeclared (hd.find_nodup _) hstatements
      (fun n => n.parent?.bind Node.parent?)
      (fun s hs _ hfound => hd.apartOn_reassignableInStatement hs hfound) fun s hs n hn => by
        obtain ⟨hdeclared, v, hv, _, hparent⟩ := isDeclared_of_isNameIn hs hn
        exact ⟨hdeclared, by rw [hv, Option.bind_some, hparent]⟩
    have hqs := ApartOn.remarksFor hd.separated_isDeclared (hd.find_nodup _) hheads Node.parent?
      (fun _ _ _ hfound => apartOn_reassignableInHead hfound) hloop
    refine (hrs.append hd.separated_isDeclared hqs ?_ ?_ ?_).apart
    · rintro n ⟨s, hs, hn⟩
      exact (isDeclared_of_isNameIn hs hn).1
    · rintro n ⟨loop, hl, hn⟩
      exact (hloop loop hl n hn).1
    · rintro n ⟨s, hs, hn⟩ ⟨loop, hl, hn'⟩
      obtain ⟨_, v, hv, hkind, _⟩ := isDeclared_of_isNameIn hs hn
      obtain rfl : v = loop := Option.some_inj.mp (hv.symm.trans (hloop loop hl n hn').2)
      have hloopkind := (mem_of_mem_find hl).2
      rw [hkind] at hloopkind
      exact absurd hloopkind (by decide)

/-! ## Exceptions and rejections -/

theorem Regular.apart_throws (hd : d.Regular) (options : ThrowOptions) :
    Apart (d.throws options) :=
  (hd.apartOn_find List.filter_sublist (by decide)).apart

theorem exists_of_mem_rejectionsIn {construction call : Node}
    (h : call ∈ d.rejectionsIn construction) :
    ∃ executor reject, d.executor? construction = some executor ∧
      rejector? executor = some reject ∧ call ∈ d.callsOf reject executor := by
  rw [rejectionsIn] at h
  split at h
  · exact absurd h List.not_mem_nil
  next executor hexecutor =>
    split at h
    · exact absurd h List.not_mem_nil
    next reject hreject => exact ⟨executor, reject, hexecutor, hreject, h⟩

theorem mem_of_executor? {construction executor : Node}
    (hmem : construction ∈ d.root.nodes) (h : d.executor? construction = some executor) :
    executor ∈ d.root.nodes ∧ executor.isFunction = true ∧
      executor.callOf? = some construction := by
  rw [executor?] at h
  split at h
  · cases h
  · split at h
    · obtain ⟨h, hfunction⟩ := Option.filter_eq_some_iff.mp h
      obtain ⟨hexecutor, hback⟩ := firstArgument_back hmem h
      exact ⟨hexecutor, hfunction, hback⟩
    · cases h

private theorem Regular.mem_of_rejector? (hd : d.Regular) {executor reject : Node}
    (hmem : executor ∈ d.root.nodes) (hfunction : executor.isFunction = true)
    (h : rejector? executor = some reject) :
    reject ∈ d.root.nodes ∧ reject.kind = "identifier" ∧
      reject.enclosingFunction? = some executor := by
  obtain ⟨h, hkind⟩ := Option.filter_eq_some_iff.mp h
  obtain ⟨hreject, henclosing⟩ :=
    hd.enclosingFunction?_of_mem_parameters hmem hfunction (List.mem_of_getElem? h)
  exact ⟨hreject, beq_iff_eq.mp hkind, henclosing⟩

theorem callee?_of_mem_callsOf {declaration root call : Node}
    (h : call ∈ d.callsOf declaration root) :
    call ∈ root.nodes ∧ call.kind = "call_expression" ∧ ∃ c, call.operand? "function" = some c ∧
      c.kind = "identifier" ∧ ∃ m, d.resolve? c = some m ∧ declaration.same m = true := by
  obtain ⟨hfind, hcallee⟩ := List.mem_filter.mp h
  obtain ⟨hmem, hkind⟩ := List.mem_filter.mp hfind
  obtain ⟨c, hc, hcond⟩ := (Option.any_eq_true _ _).mp hcallee
  obtain ⟨hckind, hresolve⟩ := Bool.and_eq_true_iff.mp hcond
  rw [Node.isOneOf_iff, List.mem_singleton] at hkind
  rw [Node.callee?, if_neg (by rw [hkind]; decide)] at hc
  obtain ⟨m, hm, hsame⟩ := (Option.any_eq_true _ _).mp hresolve
  exact ⟨hmem, hkind, c, hc, beq_iff_eq.mp hckind, m, hm, hsame⟩

/-- A call rejects one promise only. -/
private theorem Regular.eq_of_mem_rejectionsIn (hd : d.Regular) {p q call : Node}
    (hp : p ∈ d.root.nodes) (hq : q ∈ d.root.nodes) (hcp : call ∈ d.rejectionsIn p)
    (hcq : call ∈ d.rejectionsIn q) : p = q := by
  obtain ⟨f, r, hf, hr, hcf⟩ := exists_of_mem_rejectionsIn hcp
  obtain ⟨g, s, hg, hs, hcg⟩ := exists_of_mem_rejectionsIn hcq
  obtain ⟨hfmem, hffunction, hfp⟩ := mem_of_executor? hp hf
  obtain ⟨hgmem, hgfunction, hgq⟩ := mem_of_executor? hq hg
  obtain ⟨hrmem, hrkind, hrf⟩ := hd.mem_of_rejector? hfmem hffunction hr
  obtain ⟨hsmem, hskind, hsg⟩ := hd.mem_of_rejector? hgmem hgfunction hs
  obtain ⟨_, _, c, hc, _, m, hm, hrm⟩ := callee?_of_mem_callsOf hcf
  obtain ⟨_, _, e, he, _, n, hn, hsn⟩ := callee?_of_mem_callsOf hcg
  obtain rfl : c = e := Option.some_inj.mp (hc.symm.trans he)
  obtain rfl : m = n := Option.some_inj.mp (hm.symm.trans hn)
  -- the two parameters are the same as what the callee stands for
  have hsame : r.same s = true := by
    rw [Node.same, beq_iff_eq] at hrm hsn ⊢
    rw [hrm, hsn]
  obtain rfl := hd.eq_of_same hrmem hsmem (by rw [hrkind]; decide) hsame
  obtain rfl : f = g := Option.some_inj.mp (hrf.symm.trans hsg)
  exact Option.some_inj.mp (hfp.symm.trans hgq)

private theorem Regular.not_mem_callsOfPath_of_mem_rejectionsIn (hd : d.Regular)
    {construction call : Node} (hmem : construction ∈ d.root.nodes)
    (h : call ∈ d.rejectionsIn construction) : call ∉ d.callsOfPath "Promise.reject" := by
  intro hpath
  obtain ⟨executor, reject, hexecutor, _, hcall⟩ := exists_of_mem_rejectionsIn h
  obtain ⟨hbelow, _, c, hc, hkind, _⟩ := callee?_of_mem_callsOf hcall
  have hcallmem := mem_of_mem_nodes (mem_of_executor? hmem hexecutor).1 hbelow
  have hcmem := mem_of_operand? hcallmem hc
  obtain ⟨f, hf, rfl⟩ := Option.map_eq_some_iff.mp hc
  have hpath := (List.mem_filter.mp hpath).2
  rw [beq_iff_eq, hf, Option.bind_some, memberPath?] at hpath
  simp only [hkind, decide_true, Bool.true_or, if_true] at hpath
  have hdot := hd.named _ hcmem hkind
  rw [Option.some_inj.mp hpath] at hdot
  exact absurd hdot (by decide)

theorem Regular.apart_rejections (hd : d.Regular) : Apart d.rejections := by
  have hin : ∀ p ∈ d.find ["new_expression"], ∀ call ∈ d.rejectionsIn p,
      call ∈ d.find ["call_expression"] := fun p hp call hcall => by
    obtain ⟨executor, reject, hexecutor, _, hcall⟩ := exists_of_mem_rejectionsIn hcall
    obtain ⟨hbelow, hkind, _⟩ := callee?_of_mem_callsOf hcall
    refine List.mem_filter.mpr ⟨?_, Node.isOneOf_iff.mpr (by rw [hkind]; decide)⟩
    exact mem_of_mem_nodes (mem_of_executor? (mem_of_mem_find hp).1 hexecutor).1 hbelow
  refine (ApartOn.map_remark hd.separated_inner ?_ fun call hcall => ?_).apart
  · rw [List.nodup_append]
    refine ⟨(hd.find_nodup _).filter _, ?_, fun call hcall other hother heq => ?_⟩
    · refine nodup_flatMap_of_inj (hd.find_nodup _) (fun p hp => ?_) fun p hp q hq call => ?_
      · rw [rejectionsIn]
        split
        · exact List.nodup_nil
        next executor hexecutor =>
          split
          · exact List.nodup_nil
          · have hmem := (mem_of_executor? (mem_of_mem_find hp).1 hexecutor).1
            exact ((hd.nodes_nodup hmem).filter _).filter _
      · exact hd.eq_of_mem_rejectionsIn (mem_of_mem_find hp).1 (mem_of_mem_find hq).1
    · obtain ⟨p, hp, hother⟩ := List.mem_flatMap.mp hother
      exact hd.not_mem_callsOfPath_of_mem_rejectionsIn (mem_of_mem_find hp).1 hother (heq ▸ hcall)
  · rcases List.mem_append.mp hcall with hcall | hcall
    · exact hd.inner_of_mem_find (List.mem_filter.mp hcall).1 (by decide)
    · obtain ⟨p, hp, hcall⟩ := List.mem_flatMap.mp hcall
      exact hd.inner_of_mem_find (hin p hp call hcall) (by decide)

/-! ## Changes to constants -/

private theorem apartOn_memberChanges {options : MutationOptions}
    (h : d.memberChanges options n = .ok rs) : ApartOn (· = n) rs := by
  rw [memberChanges] at h
  split at h
  · exact Except.ok.inj h ▸ ApartOn.nil
  · split at h
    · exact Except.ok.inj h ▸ ApartOn.nil
    · obtain ⟨constant, _, rfl⟩ := Except.map_eq_ok_iff.mp h
      cases constant with
      | none => exact ApartOn.nil
      | some c => exact ApartOn.self _

private theorem apartOn_assignedInto {options : MutationOptions}
    (h : d.assignedInto options n = .ok rs) : ApartOn (· = n) rs := by
  rw [assignedInto] at h
  split at h
  · exact Except.ok.inj h ▸ ApartOn.nil
  · split at h
    · obtain ⟨constant, _, rfl⟩ := Except.map_eq_ok_iff.mp h
      split
      · exact ApartOn.self _
      · exact ApartOn.nil
    · exact Except.ok.inj h ▸ ApartOn.nil

private theorem apartOn_methodChanges {options : MutationOptions} {callee : Node}
    (h : d.methodChanges options n callee = .ok rs) : ApartOn (· = n) rs := by
  rw [methodChanges] at h
  obtain ⟨constant, _, rfl⟩ := Except.map_eq_ok_iff.mp h
  cases constant with
  | none => exact ApartOn.nil
  | some c =>
      dsimp only
      split
      · split
        · exact ApartOn.self _
        · exact ApartOn.nil
      · split
        · exact ApartOn.self _
        · exact ApartOn.nil

private theorem apartOn_callChanges {options : MutationOptions}
    (h : d.callChanges options n = .ok rs) : ApartOn (· = n) rs := by
  rw [callChanges] at h
  split at h
  · exact Except.ok.inj h ▸ ApartOn.nil
  · split at h
    · exact Except.ok.inj h ▸ ApartOn.nil
    · split at h
      · exact apartOn_assignedInto h
      · split at h
        · exact apartOn_methodChanges h
        · exact Except.ok.inj h ▸ ApartOn.nil

theorem Regular.apart_changesToConstants (hd : d.Regular) {options : MutationOptions}
    (h : d.changesToConstants options = .ok rs) : Apart rs := by
  rw [changesToConstants] at h
  split at h
  · cases h
  next members hmembers =>
    obtain ⟨calls, hcalls, rfl⟩ := Except.map_eq_ok_iff.mp h
    have hrs := hd.apartOn_remarksFor_find (by decide) hmembers fun _ _ => apartOn_memberChanges
    have hqs := hd.apartOn_remarksFor_find (by decide) hcalls fun _ _ => apartOn_callChanges
    exact (hd.apartOn_append_innerOf hrs hqs (by decide)).apart

/-! ## Members of object types -/

/-- The members of object types are told apart by their ranges. -/
private theorem Regular.apart_members (hd : d.Regular) {shapes : List Node}
    (hshapes : shapes.Sublist d.shapes) (p : Node → Bool) (message : String) :
    Apart (((shapes.flatMap Node.parts).filter p).map fun m => d.remark m message) := by
  have hmem : ∀ s ∈ shapes, s ∈ d.root.nodes ∧ s.kind ∈ shapeKinds := fun s hs =>
    mem_of_mem_find (hshapes.subset hs)
  refine (ApartOn.map_remark hd.separated_outer (List.Nodup.filter _ ?_) fun m hm => ?_).apart
  · refine nodup_flatMap_of_back ((hd.find_nodup _).sublist hshapes) Node.parent?
      (fun s hs => hd.parts_nodup (hmem s hs).1) fun s _ m hm => ?_
    exact Node.parent?_of_mem_parts hm
  · obtain ⟨s, hs, hm⟩ := List.mem_flatMap.mp (List.mem_filter.mp hm).1
    obtain ⟨hsmem, hkind⟩ := hmem s hs
    have hfirm : ∀ kind ∈ shapeKinds, kind ∈ firmKinds := by decide
    exact hd.outer_of_parent hsmem (Node.mem_children_of_mem_parts hm) (hfirm _ hkind)

theorem Regular.apart_writableMembers (hd : d.Regular) : Apart d.writableMembers :=
  hd.apart_members List.filter_sublist Node.isWritableMember _

theorem Regular.apart_methodSignatures (hd : d.Regular) (options : SignatureOptions) :
    Apart (d.methodSignatures options) :=
  hd.apart_members (List.Sublist.refl _) _ _

/-! ## Written types -/

/-- The kinds of types whose values may be changed. -/
def changeableKinds : List String :=
  shapeKinds ++ ["array_type", "tuple_type", "generic_type"] ++ combinedTypeKinds ++
    ["parenthesized_type"]

theorem kind_mem_of_permitsChange? (h : d.permitsChange? n = some true) :
    n.kind ∈ changeableKinds := by
  obtain ⟨⟨l, ts⟩, above⟩ := n
  change l.kind ∈ changeableKinds
  rw [permitsChange?, typePermitsChange?] at h
  simp only [changeableKinds, shapeKinds, combinedTypeKinds, constantTypeKinds] at h ⊢
  by_contra hkind
  simp only [List.mem_append, List.mem_cons, List.not_mem_nil, or_false, not_or] at hkind
  simp [hkind] at h
  split_ifs at h
  · exact absurd h (by decide)
  · exact absurd h (by decide)

private theorem apartOn_writtenType {options : TypeFamilyOptions} {type : Option Node}
    {name : Option String} {message : String}
    (h : d.writtenType options n type name message = .ok rs) :
    ApartOn (fun m => m = n ∧ ∃ t, type = some t ∧ d.permitsChange? t = some true) rs := by
  unfold writtenType at h
  split at h
  · exact Except.ok.inj h ▸ ApartOn.nil
  · obtain ⟨ignored, _, rfl⟩ := Except.map_eq_ok_iff.mp h
    split
    next hcond =>
      rw [Bool.and_eq_true, beq_iff_eq] at hcond
      exact ApartOn.singleton ⟨rfl, Option.bind_eq_some_iff.mp hcond.2⟩ _
    next => exact ApartOn.nil

private theorem apartOn_annotated {options : TypeFamilyOptions} {role message : String}
    (h : d.annotated options role message n = .ok rs) :
    ApartOn (fun m => m = n ∧ (n.child? "type").isSome) rs := by
  rw [annotated] at h
  refine (apartOn_writtenType h).mono fun m ⟨hm, t, ht, _⟩ => ⟨hm, ?_⟩
  rw [Node.typeIn?] at ht
  split at ht
  · cases ht
  next htype => rw [htype, Option.isSome_some]

/-- The node is a parameter of the function with a type, or the type of what it returns. -/
private def IsTypedIn (fn n : Node) : Prop :=
  n ∈ fn.writtenParameters ∧ (n.child? "type").isSome ∨
    fn.child? "return_type" = some n ∧ n.kind ∈ "type_annotation" :: changeableKinds

private theorem Regular.mem_of_mem_writtenParameters (hd : d.Regular) {fn : Node}
    (hfn : fn ∈ d.find typedFunctionKinds) (hn : n ∈ fn.writtenParameters) :
    n ∈ d.root.nodes ∧ n.enclosingFunction? = some fn ∧
      n.kind ∈ "identifier" :: Node.parameterKinds := by
  obtain ⟨hmem, hkind⟩ := mem_of_mem_find hfn
  have hkinds : ∀ kind ∈ typedFunctionKinds, kind ∈ functionKinds := by decide
  have hfunction : fn.isFunction = true := Node.isOneOf_iff.mpr (hkinds _ hkind)
  rw [Node.writtenParameters] at hn
  split at hn
  next p hp =>
    obtain rfl := List.mem_singleton.mp hn
    rw [hd.parameter fn hmem hfunction n hp]
    exact ⟨mem_of_child? hmem hp, enclosingFunction?_of_child? hfunction hp, by decide⟩
  next =>
    obtain ⟨hn, hkind⟩ := List.mem_filter.mp hn
    obtain ⟨hnmem, henclosing⟩ := hd.enclosingFunction?_of_parameterList hmem hfunction hn
    exact ⟨hnmem, henclosing, List.mem_cons_of_mem _ (Node.isOneOf_iff.mp hkind)⟩

private theorem Regular.writtenParameters_nodup (hd : d.Regular) {fn : Node}
    (hfn : fn ∈ d.root.nodes) : fn.writtenParameters.Nodup := by
  rw [Node.writtenParameters]
  split
  · exact List.nodup_singleton _
  · rw [Node.parameterList]
    split
    next list hlist => exact (hd.parts_nodup (mem_of_child? hfn hlist)).filter _
    next => exact List.nodup_nil

private theorem Regular.isTypedIn (hd : d.Regular) {fn : Node}
    (hfn : fn ∈ d.find typedFunctionKinds) (hn : IsTypedIn fn n) :
    d.Inner n ∧ n.enclosingFunction? = some fn ∧
      n.kind ∈ "identifier" :: Node.parameterKinds ++ "type_annotation" :: changeableKinds := by
  obtain ⟨hmem, hkind⟩ := mem_of_mem_find hfn
  rcases hn with ⟨hn, htype⟩ | ⟨hn, hnkind⟩
  · obtain ⟨hnmem, henclosing, hnkind⟩ := hd.mem_of_mem_writtenParameters hfn hn
    exact ⟨⟨hnmem, hd.typed n hnmem htype⟩, henclosing, List.mem_append_left _ hnkind⟩
  · have hkinds : ∀ kind ∈ typedFunctionKinds, kind ∈ functionKinds := by decide
    have hfirm : ∀ kind ∈ "type_annotation" :: changeableKinds, kind ∈ firmKinds := by decide
    exact ⟨hd.inner_of_kind (mem_of_child? hmem hn) (hfirm _ hnkind),
      enclosingFunction?_of_child? (Node.isOneOf_iff.mpr (hkinds _ hkind)) hn,
      List.mem_append_right _ hnkind⟩

private theorem apartOn_returnType {options : TypeFamilyOptions} {fn written type : Node}
    {name : Option String} {message : String} (hwritten : fn.child? "return_type" = some written)
    (htype : fn.typeIn? "return_type" = some type)
    (h : d.writtenType options written (some type) name message = .ok rs) :
    ApartOn (fun m => fn.child? "return_type" = some m ∧
      m.kind ∈ "type_annotation" :: changeableKinds) rs := by
  refine (apartOn_writtenType h).mono ?_
  rintro m ⟨rfl, t, ht, hchange⟩
  obtain rfl := Option.some_inj.mp ht
  refine ⟨hwritten, ?_⟩
  rw [Node.typeIn?, hwritten] at htype
  dsimp only at htype
  split at htype
  next hkind => rw [hkind]; exact List.mem_cons_self ..
  next =>
    obtain rfl := Option.some_inj.mp htype
    exact List.mem_cons_of_mem _ (kind_mem_of_permitsChange? hchange)

private theorem Regular.apartOn_functionTypes (hd : d.Regular) {options : WrittenTypeOptions}
    {fn : Node} (hfn : fn ∈ d.find typedFunctionKinds) (h : d.functionTypes options fn = .ok rs) :
    ApartOn (IsTypedIn fn) rs := by
  rw [functionTypes] at h
  split at h
  · cases h
  next parameters hparameters =>
    have hps := ApartOn.remarksFor hd.separated_inner
      (hd.writtenParameters_nodup (mem_of_mem_find hfn).1) hparameters some
      (fun _ _ _ => apartOn_annotated) fun p hp m ⟨hm, htype⟩ =>
        ⟨hm ▸ (hd.isTypedIn hfn (Or.inl ⟨hp, htype⟩)).1, hm ▸ rfl⟩
    replace hps := hps.mono
        (Q := fun m => m ∈ fn.writtenParameters ∧ (m.child? "type").isSome) <| by
      rintro m ⟨p, hp, rfl, htype⟩
      exact ⟨hp, htype⟩
    split at h
    next written type hwritten htype =>
      obtain ⟨found, hfound, rfl⟩ := Except.map_eq_ok_iff.mp h
      refine hps.append hd.separated_inner (apartOn_returnType hwritten htype hfound)
        (fun n hn => (hd.isTypedIn hfn (Or.inl hn)).1)
        (fun n hn => (hd.isTypedIn hfn (Or.inr hn)).1) fun n hn hn' => ?_
      have hkinds : ∀ kind ∈ "identifier" :: Node.parameterKinds,
          kind ∉ "type_annotation" :: changeableKinds := by decide
      exact hkinds n.kind (hd.mem_of_mem_writtenParameters hfn hn.1).2.2 hn'.2
    next =>
      obtain rfl := Except.ok.inj h
      exact hps.mono fun n hn => Or.inl hn

/-- The node is of the kind and has a type. -/
private def IsTypedOf (d : Document) (kind : String) (n : Node) : Prop :=
  n ∈ d.find [kind] ∧ (n.child? "type").isSome

private theorem Regular.apartOn_annotatedOf (hd : d.Regular) {options : TypeFamilyOptions}
    {role message kind : String}
    (h : remarksFor (d.find [kind]) (d.annotated options role message) = .ok rs) :
    ApartOn (d.IsTypedOf kind) rs := by
  refine (ApartOn.remarksFor hd.separated_inner (hd.find_nodup _) h some
    (fun _ _ _ => apartOn_annotated) ?_).mono ?_
  · rintro n hn m ⟨rfl, htype⟩
    have hmem := (mem_of_mem_find hn).1
    exact ⟨⟨hmem, hd.typed m hmem htype⟩, rfl⟩
  · rintro m ⟨n, hn, rfl, htype⟩
    exact ⟨hn, htype⟩

private theorem Regular.inner_of_isTypedOf (hd : d.Regular) {kind : String}
    (hn : d.IsTypedOf kind n) : d.Inner n ∧ n.kind = kind := by
  obtain ⟨hmem, hkind⟩ := mem_of_mem_find hn.1
  exact ⟨⟨hmem, hd.typed n hmem hn.2⟩, List.mem_singleton.mp hkind⟩

theorem Regular.apart_writtenTypes (hd : d.Regular) {options : WrittenTypeOptions}
    (h : d.writtenTypes options = .ok rs) : Apart rs := by
  obtain ⟨ofFunctions, hfunctions, h⟩ := Except.bind_eq_ok_iff.mp h
  obtain ⟨ofVariables, hvariables, h⟩ := Except.bind_eq_ok_iff.mp h
  obtain ⟨ofProperties, hproperties, h⟩ := Except.bind_eq_ok_iff.mp h
  obtain rfl := Except.ok.inj h
  have hfs := ApartOn.remarksFor hd.separated_inner (hd.find_nodup _) hfunctions
    Node.enclosingFunction? (fun fn hfn _ => hd.apartOn_functionTypes hfn) fun fn hfn n hn =>
      ⟨(hd.isTypedIn hfn hn).1, (hd.isTypedIn hfn hn).2.1⟩
  have hvs := hd.apartOn_annotatedOf hvariables
  have hps := hd.apartOn_annotatedOf hproperties
  have hfinner : ∀ n, (∃ fn ∈ d.find typedFunctionKinds, IsTypedIn fn n) → d.Inner n :=
    fun n ⟨fn, hfn, hn⟩ => (hd.isTypedIn hfn hn).1
  have hfkind : ∀ kind ∈ ["variable_declarator", "property_signature"], ∀ n,
      (∃ fn ∈ d.find typedFunctionKinds, IsTypedIn fn n) → ¬ d.IsTypedOf kind n := by
    rintro kind hkind n ⟨fn, hfn, hn⟩ hn'
    have hkinds : ∀ kind ∈ ["variable_declarator", "property_signature"],
        kind ∉ "identifier" :: Node.parameterKinds ++ "type_annotation" :: changeableKinds := by
      decide
    refine hkinds kind hkind ?_
    rw [← (hd.inner_of_isTypedOf hn').2]
    exact (hd.isTypedIn hfn hn).2.2
  have hfvs := hfs.append hd.separated_inner hvs hfinner
    (fun n hn => (hd.inner_of_isTypedOf hn).1) (hfkind _ (by decide))
  refine (hfvs.append hd.separated_inner hps ?_ (fun n hn => (hd.inner_of_isTypedOf hn).1) ?_).apart
  · rintro n (hn | hn)
    · exact hfinner n hn
    · exact (hd.inner_of_isTypedOf hn).1
  · rintro n (hn | hn) hn'
    · exact hfkind _ (by decide) n hn hn'
    · have hvariable := (hd.inner_of_isTypedOf hn).2
      rw [(hd.inner_of_isTypedOf hn').2] at hvariable
      exact absurd hvariable (by decide)

/-! ## Declared types -/

private theorem apartOn_declaredType {options : DeclaredTypeOptions} {declaration : Node}
    (h : d.declaredType options declaration = .ok rs) :
    ApartOn (declaration.child? "name" = some ·) rs := by
  rw [declaredType] at h
  split at h
  · exact Except.ok.inj h ▸ ApartOn.nil
  · dsimp only at h
    split at h
    · cases h
    · exact Except.ok.inj h ▸ ApartOn.nil
    · split at h
      · obtain ⟨r, hr, rfl⟩ := Except.map_eq_ok_iff.mp h
        cases hname : declaration.child? "name" with
        | none =>
            rw [hname] at hr
            cases hr
        | some n =>
            rw [hname] at hr
            exact Except.ok.inj hr ▸ ApartOn.singleton (P := (some n = some ·)) rfl _
      · exact Except.ok.inj h ▸ ApartOn.nil

theorem Regular.apart_declaredTypes (hd : d.Regular) {options : DeclaredTypeOptions}
    (h : d.declaredTypes options = .ok rs) : Apart rs := by
  refine (ApartOn.remarksFor hd.separated_outer (hd.find_nodup _) h Node.parent?
    (fun _ _ _ => apartOn_declaredType) fun declaration hdeclaration n hn => ?_).apart
  obtain ⟨hmem, hkind⟩ := mem_of_mem_find hdeclaration
  have hfirm : ∀ kind ∈ typeDeclarationKinds, kind ∈ firmKinds := by decide
  have hchild := Node.mem_children_of_child? hn
  exact ⟨hd.outer_of_parent hmem hchild (hfirm _ hkind), Node.parent?_of_mem_children hchild⟩

/-! ## Declared types and their members -/

variable {declaration name body : Node}

/-- An object type permits change exactly where one of its members can be written to. -/
theorem permitsChange?_of_shape (hkind : n.kind ∈ shapeKinds) :
    d.permitsChange? n = some (n.parts.any Node.isWritableMember) := by
  obtain ⟨⟨l, ts⟩, above⟩ := n
  have hshape : shapeKinds.contains l.kind = true := List.contains_iff_mem.mpr hkind
  rw [permitsChange?, typePermitsChange?, if_pos hshape, Node.parts, List.any_map, List.any_filter]
  rfl

/-- What is said by default of the declaration of a type: it is said of its name. -/
def saidOfDeclaredType (d : Document) (declaration : Node) : List (Node × String) :=
  ((declaration.child? "name").bind fun name =>
    (((declaredShape? declaration).bind d.permitsChange?).bind
      (declaredTypeFault? (d.text name))).map (Prod.mk name)).toList

theorem declaredType_default (hname : declaration.child? "name" = some name) :
    d.declaredType {} declaration =
      .ok ((d.saidOfDeclaredType declaration).map fun p => d.remark p.1 p.2) := by
  rw [declaredType, saidOfDeclaredType, hname, Option.bind_some]
  cases hfault : ((declaredShape? declaration).bind d.permitsChange?).bind
      (declaredTypeFault? (d.text name)) with
  | none => simp [matchesAny, text?, hfault]
  | some message => simp [matchesAny, text?, hfault, remark?, Except.map]

theorem child?_name_of_mem_saidOfDeclaredType {p : Node × String}
    (hp : p ∈ d.saidOfDeclaredType declaration) : declaration.child? "name" = some p.1 := by
  obtain ⟨name, hname, hp⟩ := Option.bind_eq_some_iff.mp (Option.mem_toList.mp hp)
  obtain ⟨message, _, rfl⟩ := Option.map_eq_some_iff.mp hp
  exact hname

/-- What is said of the declaration of an object type. -/
theorem saidOfDeclaredType_of_shape (hname : declaration.child? "name" = some name)
    (hbody : declaredShape? declaration = some body) (hkind : body.kind ∈ shapeKinds) :
    d.saidOfDeclaredType declaration =
      ((declaredTypeFault? (d.text name) (body.parts.any Node.isWritableMember)).map
        (Prod.mk name)).toList := by
  rw [saidOfDeclaredType, hname, Option.bind_some, hbody, Option.bind_some,
    permitsChange?_of_shape hkind, Option.bind_some]

/-- The rule finds what is said of one declaration after the other. -/
theorem findings_declaredTypes
    (hnamed : ∀ n ∈ d.find typeDeclarationKinds, (n.child? "name").isSome) :
    (Check.declaredTypes {}).findings d =
      .ok (((d.find typeDeclarationKinds).flatMap d.saidOfDeclaredType).map
        (d.findingOn "functional/type-declaration-immutability")) := by
  have hremarks : ∀ declaration ∈ d.find typeDeclarationKinds, d.declaredType {} declaration =
      .ok ((d.saidOfDeclaredType declaration).map fun p => d.remark p.1 p.2) := by
    intro declaration hdeclaration
    obtain ⟨name, hname⟩ := Option.isSome_iff_exists.mp (hnamed declaration hdeclaration)
    exact declaredType_default hname
  rw [Check.findings, Check.remarks, declaredTypes, remarksFor_eq_flatMap hremarks, Except.map,
    ← List.map_flatMap, List.map_map]
  rfl

/-- The members that can be written to, of all object types that are part of a declaration. -/
def declaredMembers (d : Document) : List Node :=
  ((d.shapes.filter Node.isDeclaredShape).flatMap Node.parts).filter Node.isWritableMember

theorem exists_shape_of_mem_declaredMembers (h : m ∈ d.declaredMembers) :
    ∃ shape ∈ d.shapes, m ∈ shape.parts := by
  obtain ⟨shape, hshape, hm⟩ := List.mem_flatMap.mp (List.mem_filter.mp h).1
  exact ⟨shape, (List.mem_filter.mp hshape).1, hm⟩

theorem findings_writableMembers (d : Document) :
    Check.writableMembers.findings d = .ok (d.declaredMembers.map fun m =>
      d.findingOn "functional/readonly-type" (m, "A readonly modifier is required.")) := by
  rw [Check.findings, Check.remarks, writableMembers, Except.map, List.map_map]
  rfl

/-- The members of a declared type are looked at: nothing stands between it and its declaration. -/
theorem isDeclaredShape_of_declaredShape? (hkind : declaration.kind ∈ typeDeclarationKinds)
    (hbody : declaredShape? declaration = some body) : body.isDeclaredShape = true := by
  have hdeclares : declaration.isOneOf typeDeclarationKinds = true := Node.isOneOf_iff.mpr hkind
  rw [Node.isDeclaredShape,
    Node.ancestors_of_mem_children (Node.mem_children_of_child? hbody),
    List.find?_cons_of_pos (by rw [hdeclares, Bool.true_or]), Option.any_some, hdeclares]

/-- The object types and the declarations of types are more than any of their children. -/
def FirmShapes (d : Document) : Prop :=
  ∀ n ∈ d.root.nodes, n.kind ∈ shapeKinds ++ typeDeclarationKinds → n.IsInnermost

theorem FirmShapes.outer_of_child (hfirm : d.FirmShapes) {p : Node} (hp : p ∈ d.root.nodes)
    (hkind : p.kind ∈ shapeKinds ++ typeDeclarationKinds) (hn : n ∈ p.children) : d.Outer n :=
  ⟨mem_of_mem_children hp hn, Node.isOutermost_of_mem_children hn (hfirm p hp hkind)⟩

/-- A member of a declared type is among those that can be written to exactly if it is one. -/
theorem mem_declaredMembers_iff (hdeclaration : declaration ∈ d.find typeDeclarationKinds)
    (hbody : declaredShape? declaration = some body) (hkind : body.kind ∈ shapeKinds)
    (hm : m ∈ body.parts) : m ∈ d.declaredMembers ↔ m.isWritableMember = true := by
  obtain ⟨hmem, hdeclares⟩ := mem_of_mem_find hdeclaration
  have hshape : body ∈ d.shapes := List.mem_filter.mpr
    ⟨mem_of_mem_children hmem (Node.mem_children_of_child? hbody), Node.isOneOf_iff.mpr hkind⟩
  have hdeclared := isDeclaredShape_of_declaredShape? hdeclares hbody
  rw [declaredMembers, List.mem_filter, and_iff_right]
  exact List.mem_flatMap.mpr ⟨body, List.mem_filter.mpr ⟨hshape, hdeclared⟩, hm⟩

/-- A member of an object type is shown exactly if it is among those that can be written to. -/
theorem findingsAt_declaredMembers (hd : d.Nested) (hfirm : d.FirmShapes) (rule message : String)
    (hbody : body ∈ d.shapes) (hm : m ∈ body.parts) :
    d.findingsAt (d.declaredMembers.map fun m => d.findingOn rule (m, message)) m ≠ [] ↔
      m ∈ d.declaredMembers := by
  have houter : ∀ s ∈ d.shapes, ∀ c ∈ s.parts, d.Outer c := fun s hs c hc =>
    hfirm.outer_of_child (mem_of_mem_find hs).1
      (List.mem_append_left _ (mem_of_mem_find hs).2) (Node.mem_children_of_mem_parts hc)
  constructor
  · intro hfound
    obtain ⟨f, hf⟩ := List.exists_mem_of_ne_nil _ hfound
    obtain ⟨hf, hspan⟩ := List.mem_filter.mp hf
    obtain ⟨c, hc, rfl⟩ := List.mem_map.mp hf
    obtain ⟨s, hs, hcs⟩ := exists_shape_of_mem_declaredMembers hc
    have hspot : c.spot = m.spot := spanOf_eq_iff.mp (of_decide_eq_true hspan)
    exact hd.separated_outer c m (houter s hs c hcs) (houter body hbody m hm) hspot ▸ hc
  · intro hmember
    exact List.ne_nil_of_mem (List.mem_filter.mpr ⟨List.mem_map_of_mem hmember, decide_eq_true rfl⟩)

/-- What is found at the name of a declaration is what is said of the declaration. -/
theorem findingsAt_saidOfDeclaredType (hd : d.Nested) (hfirm : d.FirmShapes) (rule : String)
    (hdeclaration : declaration ∈ d.find typeDeclarationKinds)
    (hname : declaration.child? "name" = some name) :
    d.findingsAt (((d.find typeDeclarationKinds).flatMap d.saidOfDeclaredType).map
      (d.findingOn rule)) name = (d.saidOfDeclaredType declaration).map (d.findingOn rule) := by
  have houter : ∀ p ∈ d.find typeDeclarationKinds, ∀ n, p.child? "name" = some n → d.Outer n :=
    fun p hp n hn => hfirm.outer_of_child (mem_of_mem_find hp).1
      (List.mem_append_right _ (mem_of_mem_find hp).2) (Node.mem_children_of_child? hn)
  rw [findingsAt_map_findingOn, saidOf_flatMap (hd.find_nodup _) hdeclaration]
  · exact map_saidOf_of_forall _ fun p hp => Option.some_inj.mp
      ((child?_name_of_mem_saidOfDeclaredType hp).symm.trans hname)
  · intro other _ hne p hp hpname
    have hother := child?_name_of_mem_saidOfDeclaredType hp
    rw [hpname] at hother
    exact hne (Option.some_inj.mp
      ((Node.parent?_of_child? hother).symm.trans (Node.parent?_of_child? hname)))
  · intro p hp hspot
    obtain ⟨other, hother, hp⟩ := List.mem_flatMap.mp hp
    exact hd.separated_outer p.1 name
      (houter other hother p.1 (child?_name_of_mem_saidOfDeclaredType hp))
      (houter declaration hdeclaration name hname) hspot

/-- The two rules on declared types agree, with their default options.  The name of the declaration
of an object type is shown once if it does not say that the type permits change, and a member of the
type is shown; or if it says so, and no member is shown.  It is not shown otherwise.  Where ranges
tell these nodes apart, what is shown can be read off the ranges. -/
theorem declaredTypes_iff_writableMembers
    (hnamed : ∀ n ∈ d.find typeDeclarationKinds, (n.child? "name").isSome) :
    ∃ (said : Node → List (Node × String)) (members : List Node) (fs ms : List Finding),
      (Check.declaredTypes {}).findings d = .ok fs ∧
      Check.writableMembers.findings d = .ok ms ∧
      fs = ((d.find typeDeclarationKinds).flatMap said).map
        (d.findingOn "functional/type-declaration-immutability") ∧
      ms = members.map (fun m =>
        d.findingOn "functional/readonly-type" (m, "A readonly modifier is required.")) ∧
      (∀ m ∈ members, ∃ shape ∈ d.shapes, m ∈ shape.parts) ∧
      ∀ declaration ∈ d.find typeDeclarationKinds,
        (∀ p ∈ said declaration, declaration.child? "name" = some p.1) ∧
        ∀ name body, declaration.child? "name" = some name →
          declaredShape? declaration = some body → body.kind ∈ shapeKinds →
          (isMutableTypeName (d.text name) = false →
            said declaration =
              if ∃ m ∈ body.parts, m ∈ members then
                [(name, s!"{d.text name} should be a fully readonly type.")]
              else []) ∧
          (isMutableTypeName (d.text name) = true →
            said declaration =
              if ∃ m ∈ body.parts, m ∈ members then []
              else [(name, s!"{d.text name} is named as mutable but is fully readonly.")]) ∧
          (d.Nested → d.FirmShapes →
            d.findingsAt fs name =
              (said declaration).map (d.findingOn "functional/type-declaration-immutability") ∧
            ∀ m ∈ body.parts, d.findingsAt ms m ≠ [] ↔ m ∈ members) := by
  refine ⟨d.saidOfDeclaredType, d.declaredMembers, _, _, findings_declaredTypes hnamed,
    d.findings_writableMembers, rfl, rfl, fun m => exists_shape_of_mem_declaredMembers,
    fun declaration hdeclaration => ⟨fun p => child?_name_of_mem_saidOfDeclaredType, ?_⟩⟩
  intro name body hname hbody hkind
  have hmembers : (∃ m ∈ body.parts, m ∈ d.declaredMembers) ↔
      body.parts.any Node.isWritableMember = true := by
    rw [List.any_eq_true]
    exact exists_congr fun m => and_congr_right fun hm =>
      mem_declaredMembers_iff hdeclaration hbody hkind hm
  rw [saidOfDeclaredType_of_shape hname hbody hkind, if_congr hmembers rfl rfl,
    if_congr hmembers rfl rfl, declaredTypeFault?]
  refine ⟨fun hmutable => ?_, fun hmutable => ?_, fun hd hfirm => ⟨?_, fun m hm => ?_⟩⟩
  · rw [hmutable]
    cases body.parts.any Node.isWritableMember <;> rfl
  · rw [hmutable]
    cases body.parts.any Node.isWritableMember <;> rfl
  · rw [findingsAt_saidOfDeclaredType hd hfirm _ hdeclaration hname,
      saidOfDeclaredType_of_shape hname hbody hkind, declaredTypeFault?]
  · have hshape : body ∈ d.shapes := List.mem_filter.mpr
      ⟨mem_of_mem_children (mem_of_mem_find hdeclaration).1 (Node.mem_children_of_child? hbody),
        Node.isOneOf_iff.mpr hkind⟩
    exact findingsAt_declaredMembers hd hfirm _ _ hshape hm

instance (d : Document) : Decidable d.FirmShapes :=
  inferInstanceAs (Decidable (∀ n ∈ d.root.nodes,
    n.kind ∈ shapeKinds ++ typeDeclarationKinds → n.IsInnermost))

/-- The file
`function f() { interface A { x: string } type MutableB = { readonly y: string } }`. -/
def localTypes : Document :=
  ⟨"a.tsx",
    .ofString
      "function f() \x7b interface A \x7b x: string \x7d type MutableB = \x7b readonly y: string \x7d \x7d",
    .node ⟨"program", true, false, none, 0, 81⟩ [
      .node ⟨"function_declaration", true, false, none, 0, 81⟩ [
        .node ⟨"function", false, false, none, 0, 8⟩ [],
        .node ⟨"identifier", true, false, some "name", 9, 10⟩ [],
        .node ⟨"formal_parameters", true, false, some "parameters", 10, 12⟩ [
          .node ⟨"(", false, false, none, 10, 11⟩ [],
          .node ⟨")", false, false, none, 11, 12⟩ []],
        .node ⟨"statement_block", true, false, some "body", 13, 81⟩ [
          .node ⟨"\x7b", false, false, none, 13, 14⟩ [],
          .node ⟨"interface_declaration", true, false, none, 15, 40⟩ [
            .node ⟨"interface", false, false, none, 15, 24⟩ [],
            .node ⟨"type_identifier", true, false, some "name", 25, 26⟩ [],
            .node ⟨"interface_body", true, false, some "body", 27, 40⟩ [
              .node ⟨"\x7b", false, false, none, 27, 28⟩ [],
              .node ⟨"property_signature", true, false, none, 29, 38⟩ [
                .node ⟨"property_identifier", true, false, some "name", 29, 30⟩ [],
                .node ⟨"type_annotation", true, false, some "type", 30, 38⟩ [
                  .node ⟨":", false, false, none, 30, 31⟩ [],
                  .node ⟨"predefined_type", true, false, none, 32, 38⟩ [
                    .node ⟨"string", false, false, none, 32, 38⟩ []]]],
              .node ⟨"\x7d", false, false, none, 39, 40⟩ []]],
          .node ⟨"type_alias_declaration", true, false, none, 41, 79⟩ [
            .node ⟨"type", false, false, none, 41, 45⟩ [],
            .node ⟨"type_identifier", true, false, some "name", 46, 54⟩ [],
            .node ⟨"=", false, false, none, 55, 56⟩ [],
            .node ⟨"object_type", true, false, some "value", 57, 79⟩ [
              .node ⟨"\x7b", false, false, none, 57, 58⟩ [],
              .node ⟨"property_signature", true, false, none, 59, 77⟩ [
                .node ⟨"readonly", false, false, none, 59, 67⟩ [],
                .node ⟨"property_identifier", true, false, some "name", 68, 69⟩ [],
                .node ⟨"type_annotation", true, false, some "type", 69, 77⟩ [
                  .node ⟨":", false, false, none, 69, 70⟩ [],
                  .node ⟨"predefined_type", true, false, none, 71, 77⟩ [
                    .node ⟨"string", false, false, none, 71, 77⟩ []]]],
              .node ⟨"\x7d", false, false, none, 78, 79⟩ []]],
          .node ⟨"\x7d", false, false, none, 80, 81⟩ []]]]⟩

/-- The interface has a writable member and is shown; the type with the name that says it could be
changed has none, and is shown as well. -/
theorem declaredTypes_iff_writableMembers_localTypes :
    localTypes.Nested ∧ localTypes.FirmShapes ∧
      (∀ n ∈ localTypes.find typeDeclarationKinds, (n.child? "name").isSome) ∧
      ∃ fs, (Check.declaredTypes {}).findings localTypes = .ok fs ∧
        (∃ name ∈ localTypes.root.nodes, localTypes.text name = "A" ∧
          localTypes.findingsAt fs name =
            [⟨"functional/type-declaration-immutability", localTypes.spanOf name,
              "A should be a fully readonly type."⟩]) ∧
        ∃ name ∈ localTypes.root.nodes, localTypes.text name = "MutableB" ∧
          localTypes.findingsAt fs name =
            [⟨"functional/type-declaration-immutability", localTypes.spanOf name,
              "MutableB is named as mutable but is fully readonly."⟩] := by
  have hnested : localTypes.Nested := by decide +kernel
  have hfirm : localTypes.FirmShapes := by decide +kernel
  have hnamed : ∀ n ∈ localTypes.find typeDeclarationKinds, (n.child? "name").isSome := by
    decide +kernel
  obtain ⟨said, members, fs, ms, hfs, hms, -, -, -, hall⟩ :=
    declaredTypes_iff_writableMembers hnamed
  have hmembers : ms =
      [⟨"functional/readonly-type", ⟨29, 38, 1, 30, 1, 39⟩, "A readonly modifier is required."⟩] :=
    Except.ok.inj (hms.symm.trans (Except.toOption_eq_some_iff.mp (by decide +kernel)))
  subst hmembers
  have hinterface : ∃ declaration ∈ localTypes.find typeDeclarationKinds,
      ∃ name ∈ (declaration.child? "name").toList, ∃ body ∈ (declaredShape? declaration).toList,
        body.kind ∈ shapeKinds ∧ localTypes.text name = "A" ∧
        ∃ m ∈ body.parts, localTypes.findingsAt [⟨"functional/readonly-type",
          ⟨29, 38, 1, 30, 1, 39⟩, "A readonly modifier is required."⟩] m ≠ [] := by decide +kernel
  have halias : ∃ declaration ∈ localTypes.find typeDeclarationKinds,
      ∃ name ∈ (declaration.child? "name").toList, ∃ body ∈ (declaredShape? declaration).toList,
        body.kind ∈ shapeKinds ∧ localTypes.text name = "MutableB" ∧
        ¬∃ m ∈ body.parts, localTypes.findingsAt [⟨"functional/readonly-type",
          ⟨29, 38, 1, 30, 1, 39⟩, "A readonly modifier is required."⟩] m ≠ [] := by decide +kernel
  refine ⟨hnested, hfirm, hnamed, fs, hfs, ?_, ?_⟩
  · obtain ⟨declaration, hmem, name, hname, body, hbody, hkind, htext, hshown⟩ := hinterface
    rw [Option.mem_toList] at hname hbody
    obtain ⟨hreadonly, _, hranges⟩ := (hall declaration hmem).2 name body hname hbody hkind
    obtain ⟨hfound, hmembers⟩ := hranges hnested hfirm
    refine ⟨name, mem_of_child? (mem_of_mem_find hmem).1 hname, htext, ?_⟩
    obtain ⟨m, hm, hm'⟩ := hshown
    rw [hfound, hreadonly (by rw [htext]; decide), if_pos ⟨m, hm, (hmembers m hm).mp hm'⟩, htext]
    rfl
  · obtain ⟨declaration, hmem, name, hname, body, hbody, hkind, htext, hshown⟩ := halias
    rw [Option.mem_toList] at hname hbody
    obtain ⟨_, hmutable, hranges⟩ := (hall declaration hmem).2 name body hname hbody hkind
    obtain ⟨hfound, hmembers⟩ := hranges hnested hfirm
    refine ⟨name, mem_of_child? (mem_of_mem_find hmem).1 hname, htext, ?_⟩
    have hnone : ¬∃ m ∈ body.parts, m ∈ members := by
      rintro ⟨m, hm, hmember⟩
      exact hshown ⟨m, hm, (hmembers m hm).mpr hmember⟩
    rw [hfound, hmutable (by rw [htext]; decide), if_neg hnone, htext]
    rfl

end CodeConventions.Document
