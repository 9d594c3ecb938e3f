import CodeConventions.Proofs.Tree.Argument
import CodeConventions.Proofs.Tree.Separated
import CodeConventions.Rules.Reactivity.Variable

/-!
# Reactive variables and their declarations

A declaration makes reactive variables of one kind, for one function.  A declarator with a value is
innermost, and so is a parameter that is a name, so a declaration is known by its range.

A pattern may bind a name twice, as far as the grammar is concerned.  Then one declaration makes two
variables of one name.
-/

namespace CodeConventions.Document

variable {d : Document} {declarator fn n p : Node} {v w : ReactiveVariable} {made : MadeVariable}
  {synchronous : List NodeKey}

/-! ## Variables made by calls -/

/-- The variable that a declarator makes by a call of the library. -/
private def madeBy? (d : Document) (declarator : Node) : Option MadeVariable :=
  match declarator.declaredValue?, declarator.child? "name" with
  | some value, some pattern =>
    if value.kind = "call_expression" then
      (d.libraryCallee? Reactive.library value).map fun maker => ⟨declarator, pattern, maker⟩
    else none
  | _, _ => none

private theorem of_madeBy? (h : d.madeBy? declarator = some made) :
    made.declaration = declarator ∧ (declarator.child? "value").isSome ∧
      declarator.child? "name" = some made.pattern := by
  rw [madeBy?] at h
  split at h
  next value pattern hvalue hpattern =>
    split at h
    · obtain ⟨maker, _, rfl⟩ := Option.map_eq_some_iff.mp h
      refine ⟨rfl, ?_, hpattern⟩
      rw [Node.declaredValue?] at hvalue
      split at hvalue
      · obtain ⟨c, hc, _⟩ := Option.map_eq_some_iff.mp hvalue
        rw [hc, Option.isSome_some]
      · cases hvalue
    · cases h
  next => cases h

private theorem of_mem_madeVariables (h : made ∈ d.madeVariables) :
    made.declaration ∈ d.find ["variable_declarator"] ∧
      d.madeBy? made.declaration = some made := by
  obtain ⟨declarator, hdeclarator, hmade⟩ := List.mem_filterMap.mp h
  rw [(of_madeBy? hmade).1]
  exact ⟨hdeclarator, hmade⟩

private theorem Nested.madeVariables_nodup (hd : d.Nested) : d.madeVariables.Nodup :=
  nodup_filterMap_of_back (hd.find_nodup _) (fun made => some made.declaration)
    fun _ _ _ hmade => congrArg some (of_madeBy? hmade).1

private theorem Nested.reactiveElements_nodup (hd : d.Nested) (hmem : made.pattern ∈ d.root.nodes) :
    (reactiveElements made).Nodup := by
  rw [reactiveElements]
  split
  · cases made.pattern.nameAt? 0 with
    | none => exact List.nodup_nil
    | some name => exact List.nodup_singleton name
  · split
    · exact (hd.parts_nodup hmem).filter _
    · exact List.nodup_nil

/-- A declaration makes variables of different names, of one kind and for one function. -/
private theorem exists_reactiveNames (hmem : made.pattern ∈ d.root.nodes)
    (synchronous : List NodeKey) :
    ∃ (names : List Node) (kind : ReactiveKind), (d.Nested → names.Nodup) ∧
      d.reactiveNames synchronous made = names.map fun name =>
        ⟨name, made.declaration, d.ownerOf synchronous made.declaration, kind⟩ := by
  rw [reactiveNames]
  dsimp only
  split_ifs
  · exact ⟨_, _, fun hd => hd.reactiveElements_nodup hmem, rfl⟩
  · exact ⟨_, _, fun hd => hd.reactiveElements_nodup hmem, rfl⟩
  · exact ⟨[made.pattern], .signal, fun _ => List.nodup_singleton _, rfl⟩
  · exact ⟨[made.pattern], .props, fun _ => List.nodup_singleton _, rfl⟩
  · exact ⟨[], .props, fun _ => List.nodup_nil, rfl⟩
  · exact ⟨[], .props, fun _ => List.nodup_nil, rfl⟩

theorem pattern_mem (h : made ∈ d.madeVariables) : made.pattern ∈ d.root.nodes := by
  obtain ⟨hdeclarator, hmade⟩ := of_mem_madeVariables h
  exact mem_of_child? (mem_of_mem_find hdeclarator).1 (of_madeBy? hmade).2.2

theorem mem_of_elementFrom {c : Node} {cs : List Node} {k : Nat}
    (h : Node.elementFrom k cs = some c) : c ∈ cs := by
  induction cs generalizing k with
  | nil => cases h
  | cons x xs ih =>
      unfold Node.elementFrom at h
      split at h
      · cases k with
        | zero => cases h
        | succ j => exact List.mem_cons_of_mem x (ih h)
      · split at h
        · exact List.mem_cons_of_mem x (ih h)
        · cases k with
          | zero => exact Option.some_inj.mp h ▸ List.mem_cons_self
          | succ j => exact List.mem_cons_of_mem x (ih h)

theorem mem_children_of_nameAt? {k : Nat} (h : n.nameAt? k = some p) : p ∈ n.children :=
  List.mem_of_mem_drop (mem_of_elementFrom (Option.filter_eq_some_iff.mp h).1)

private theorem mem_children_of_mem_reactiveElements (h : n ∈ reactiveElements made) :
    n ∈ made.pattern.children := by
  rw [reactiveElements] at h
  split_ifs at h
  · exact mem_children_of_nameAt? (Option.mem_toList.mp h)
  · exact Node.mem_children_of_mem_parts (List.mem_filter.mp h).1
  · exact absurd h List.not_mem_nil

/-- The names that a declaration makes stand in its pattern. -/
private theorem name_mem_nodes_pattern (h : v ∈ d.reactiveNames synchronous made) :
    v.name ∈ made.pattern.nodes := by
  have helement : ∀ name ∈ reactiveElements made, name ∈ made.pattern.nodes := fun _ hname =>
    Node.mem_nodes_of_mem_children (mem_children_of_mem_reactiveElements hname)
  rw [reactiveNames] at h
  dsimp only at h
  split_ifs at h
  · obtain ⟨name, hname, rfl⟩ := List.mem_map.mp h
    exact helement name hname
  · obtain ⟨name, hname, rfl⟩ := List.mem_map.mp h
    exact helement name hname
  · obtain rfl := List.mem_singleton.mp h
    exact made.pattern.self_mem_nodes
  · obtain rfl := List.mem_singleton.mp h
    exact made.pattern.self_mem_nodes
  · exact absurd h List.not_mem_nil
  · exact absurd h List.not_mem_nil

/-! ## Variables that hold properties -/

private theorem of_propsParameter? (h : d.propsParameter? fn = some p) :
    p ∈ fn.parameters ∧ p.kind = "identifier" := by
  rw [propsParameter?] at h
  split at h
  · cases h
  · split at h
    next q hparameters =>
      rw [hparameters, List.mem_singleton]
      split_ifs at h with hcond
      · simp only [Bool.or_eq_true, not_or, bne_iff_ne, ne_eq, not_not] at hcond
        exact Option.some_inj.mp h ▸ ⟨rfl, hcond.1⟩
      · simp only [Bool.or_eq_true, not_or, bne_iff_ne, ne_eq, not_not] at hcond
        exact Option.some_inj.mp h ▸ ⟨rfl, hcond.1⟩
    next => cases h

/-! ## Both -/

/-- Where a reactive variable comes from: a declarator, or a parameter. -/
theorem reactiveVariables_cases (h : v ∈ d.reactiveVariables synchronous) :
    (∃ made ∈ d.madeVariables, v ∈ d.reactiveNames synchronous made) ∨
      ∃ fn ∈ d.find functionKinds, ∃ p, d.propsParameter? fn = some p ∧ v = ⟨p, p, fn, .props⟩ := by
  rcases List.mem_append.mp h with h | h
  · exact Or.inl (List.mem_flatMap.mp h)
  · obtain ⟨fn, hfn, hv⟩ := List.mem_filterMap.mp h
    obtain ⟨p, hp, rfl⟩ := Option.map_eq_some_iff.mp hv
    exact Or.inr ⟨fn, (List.mem_filter.mp hfn).1, p, hp, rfl⟩

private theorem of_mem_reactiveNames (hmade : made ∈ d.madeVariables)
    (h : v ∈ d.reactiveNames synchronous made) :
    v.declaration = made.declaration ∧ v.owner = d.ownerOf synchronous made.declaration := by
  obtain ⟨names, kind, _, heq⟩ := exists_reactiveNames (pattern_mem hmade) synchronous
  rw [heq] at h
  obtain ⟨name, _, rfl⟩ := List.mem_map.mp h
  exact ⟨rfl, rfl⟩

private theorem Regular.of_parameter (hd : d.Regular) (hfn : fn ∈ d.find functionKinds)
    (hp : d.propsParameter? fn = some p) :
    d.Inner p ∧ p.kind = "identifier" ∧ p.enclosingFunction? = some fn := by
  obtain ⟨hmem, hkind⟩ := mem_of_mem_find hfn
  obtain ⟨hparameter, hpkind⟩ := of_propsParameter? hp
  obtain ⟨hpmem, henclosing⟩ :=
    hd.enclosingFunction?_of_mem_parameters hmem (Node.isOneOf_iff.mpr hkind) hparameter
  exact ⟨hd.inner_of_kind hpmem (by rw [hpkind]; decide), hpkind, henclosing⟩

private theorem Regular.of_declarator (hd : d.Regular) (hmade : made ∈ d.madeVariables) :
    d.Inner made.declaration ∧ made.declaration.kind = "variable_declarator" := by
  obtain ⟨hdeclarator, hmaking⟩ := of_mem_madeVariables hmade
  obtain ⟨hmem, hkind⟩ := mem_of_mem_find hdeclarator
  exact ⟨⟨hmem, hd.valued _ hmem (of_madeBy? hmaking).2.1⟩, List.mem_singleton.mp hkind⟩

/-- Declarations of reactive variables are told apart by their ranges. -/
theorem Regular.inner_declaration (hd : d.Regular) (h : v ∈ d.reactiveVariables synchronous) :
    d.Inner v.declaration := by
  rcases reactiveVariables_cases h with ⟨made, hmade, hv⟩ | ⟨fn, hfn, p, hp, rfl⟩
  · rw [(of_mem_reactiveNames hmade hv).1]
    exact (hd.of_declarator hmade).1
  · exact (hd.of_parameter hfn hp).1

theorem ownerOf_mem (hn : n ∈ d.root.nodes) : d.ownerOf synchronous n ∈ d.root.nodes := by
  rw [ownerOf]
  cases howner : n.ancestors.find? fun a => a.isFunction && !synchronous.contains a.key with
  | none => exact d.root.self_mem_nodes
  | some owner => exact (mem_of_mem_ancestors hn (List.mem_of_find?_eq_some howner)).1

theorem owner_mem (h : v ∈ d.reactiveVariables synchronous) : v.owner ∈ d.root.nodes := by
  rcases reactiveVariables_cases h with ⟨made, hmade, hv⟩ | ⟨fn, hfn, p, hp, rfl⟩
  · rw [(of_mem_reactiveNames hmade hv).2]
    exact ownerOf_mem (mem_of_mem_find (of_mem_madeVariables hmade).1).1
  · exact (mem_of_mem_find hfn).1

theorem name_mem (h : v ∈ d.reactiveVariables synchronous) : v.name ∈ d.root.nodes := by
  rcases reactiveVariables_cases h with ⟨made, hmade, hv⟩ | ⟨fn, hfn, p, hp, rfl⟩
  · exact mem_of_mem_nodes (pattern_mem hmade) (name_mem_nodes_pattern hv)
  · exact mem_of_mem_parameters (mem_of_mem_find hfn).1 (of_propsParameter? hp).1

/-- Variables of one declaration are of one kind, and belong to one function. -/
theorem Regular.owner_kind_eq (hd : d.Regular) (hv : v ∈ d.reactiveVariables synchronous)
    (hw : w ∈ d.reactiveVariables synchronous) (h : v.declaration = w.declaration) :
    v.owner = w.owner ∧ v.kind = w.kind := by
  have hmixed : ∀ made ∈ d.madeVariables, ∀ fn ∈ d.find functionKinds, ∀ p,
      d.propsParameter? fn = some p → made.declaration ≠ p := by
    rintro made hmade fn hfn p hp rfl
    have hkind := (hd.of_declarator hmade).2
    rw [(hd.of_parameter hfn hp).2.1] at hkind
    exact absurd hkind (by decide)
  rcases reactiveVariables_cases hv with ⟨made, hmade, hv⟩ | ⟨fn, hfn, p, hp, rfl⟩
  · have hvdeclaration := (of_mem_reactiveNames hmade hv).1
    rcases reactiveVariables_cases hw with ⟨other, hother, hw⟩ | ⟨fn, hfn, p, hp, rfl⟩
    · rw [hvdeclaration, (of_mem_reactiveNames hother hw).1] at h
      have hsame := (of_mem_madeVariables hmade).2
      rw [h, (of_mem_madeVariables hother).2, Option.some_inj] at hsame
      subst hsame
      obtain ⟨names, kind, _, heq⟩ := exists_reactiveNames (pattern_mem hmade) synchronous
      rw [heq] at hv hw
      obtain ⟨_, _, rfl⟩ := List.mem_map.mp hv
      obtain ⟨_, _, rfl⟩ := List.mem_map.mp hw
      exact ⟨rfl, rfl⟩
    · exact absurd (hvdeclaration.symm.trans h) (hmixed made hmade fn hfn p hp)
  · rcases reactiveVariables_cases hw with ⟨other, hother, hw⟩ | ⟨g, hg, q, hq, rfl⟩
    · exact absurd ((of_mem_reactiveNames hother hw).1.symm.trans h.symm)
        (hmixed other hother fn hfn p hp)
    · obtain rfl : p = q := h
      have hfg := (hd.of_parameter hfn hp).2.2
      rw [(hd.of_parameter hg hq).2.2, Option.some_inj] at hfg
      exact ⟨hfg.symm, rfl⟩

theorem Regular.reactiveVariables_nodup (hd : d.Regular) (synchronous : List NodeKey) :
    (d.reactiveVariables synchronous).Nodup := by
  rw [reactiveVariables, List.nodup_append]
  refine ⟨?_, ?_, ?_⟩
  · refine nodup_flatMap_of_back hd.madeVariables_nodup (fun v => d.madeBy? v.declaration)
      (fun made hmade => ?_) fun made hmade v hv => ?_
    · obtain ⟨names, kind, hnames, heq⟩ := exists_reactiveNames (pattern_mem hmade) synchronous
      rw [heq]
      exact (hnames hd.toNested).map fun m n hmn => congrArg ReactiveVariable.name hmn
    · rw [(of_mem_reactiveNames hmade hv).1, (of_mem_madeVariables hmade).2]
  · refine nodup_filterMap_of_back ((hd.find_nodup _).filter _) (fun v => some v.owner)
      fun fn _ v hv => ?_
    obtain ⟨p, _, rfl⟩ := Option.map_eq_some_iff.mp hv
    rfl
  · intro v hv w hw heq
    obtain ⟨made, hmade, hv⟩ := List.mem_flatMap.mp hv
    obtain ⟨fn, hfn, hw⟩ := List.mem_filterMap.mp hw
    obtain ⟨p, hp, rfl⟩ := Option.map_eq_some_iff.mp hw
    have hkind := (hd.of_declarator hmade).2
    rw [← (of_mem_reactiveNames hmade hv).1, heq] at hkind
    rw [(hd.of_parameter (List.mem_filter.mp hfn).1 hp).2.1] at hkind
    exact absurd hkind (by decide)

end CodeConventions.Document
