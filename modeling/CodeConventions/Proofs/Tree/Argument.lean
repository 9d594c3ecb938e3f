import CodeConventions.Expression.Member
import CodeConventions.Expression.ObjectLiteral
import CodeConventions.Proofs.Tree.Grammar
import CodeConventions.Proofs.Tree.Separated

/-!
# Arguments, parameters, bodies and entries

The arguments of a call lead back to the call, and the parameters and the body of a function to the
function.  An entry of an object literal is known by the part of the literal that it is read from.
-/

namespace CodeConventions

namespace Node

variable {a call fn n p : Node}

/-! ## Arguments -/

theorem exists_of_mem_arguments (h : a ∈ call.arguments) :
    ∃ list, call.child? "arguments" = some list ∧ list.kind = "arguments" ∧ a ∈ list.parts := by
  rw [arguments] at h
  cases hlist : call.child? "arguments" with
  | none =>
      rw [hlist] at h
      exact absurd h List.not_mem_nil
  | some list =>
      simp only [hlist] at h
      split at h
      next hkind => exact ⟨list, rfl, hkind, h⟩
      next => exact absurd h List.not_mem_nil

/-- The call in whose arguments the expression stands. -/
def callOf? (n : Node) : Option Node := n.climb?.bind parent?

theorem callOf?_of_mem_arguments (h : a ∈ call.arguments) : a.callOf? = some call := by
  obtain ⟨list, hlist, hkind, ha⟩ := exists_of_mem_arguments h
  have hwrapper := not_isWrapper_of_kind (List.mem_singleton.mpr hkind) (by decide)
  rw [callOf?, climb?_of_mem_children (mem_children_of_mem_parts ha) hwrapper, Option.bind_some,
    parent?_of_child? hlist]

@[simp] theorem callOf?_unwrap (n : Node) : n.unwrap.callOf? = n.callOf? := by
  rw [callOf?, climb?_unwrap, callOf?]

/-! ## Parameters -/

theorem exists_of_mem_parameterList (hp : p ∈ fn.parameterList) :
    ∃ list, fn.child? "parameters" = some list ∧ p ∈ list.parts := by
  rw [parameterList] at hp
  split at hp
  next list hlist => exact ⟨list, hlist, hp⟩
  next => exact absurd hp List.not_mem_nil

/-- The pattern of a parameter is the only name, stands in a node with room for an annotation, or
stands in the list itself. -/
theorem parameter_cases (hp : p ∈ fn.parameters) :
    fn.child? "parameter" = some p ∨
      (∃ q ∈ fn.parameterList, q.kind ∈ parameterKinds ∧ q.child? "pattern" = some p) ∨
      p ∈ fn.parameterList := by
  rw [parameters] at hp
  split at hp
  next q hq => exact Or.inl (List.mem_singleton.mp hp ▸ hq)
  next =>
    obtain ⟨q, hq, hp⟩ := List.mem_filterMap.mp hp
    split_ifs at hp with hwritten
    · exact Or.inr (Or.inl ⟨q, hq, isOneOf_iff.mp hwritten, hp⟩)
    · exact Or.inr (Or.inr (Option.some_inj.mp hp ▸ hq))

end Node

namespace Document

variable {d : Document} {a call fn n p : Node}

theorem mem_of_mem_arguments (hcall : call ∈ d.root.nodes) (ha : a ∈ call.arguments) :
    a ∈ d.root.nodes := by
  obtain ⟨list, hlist, _, ha⟩ := Node.exists_of_mem_arguments ha
  exact mem_of_mem_parts (mem_of_child? hcall hlist) ha

theorem mem_of_unwrap (hn : n ∈ d.root.nodes) : n.unwrap ∈ d.root.nodes :=
  mem_of_mem_nodes hn n.unwrap_mem_nodes

theorem mem_of_operand? {role : String} (hn : n ∈ d.root.nodes) (hp : n.operand? role = some p) :
    p ∈ d.root.nodes := by
  obtain ⟨c, hc, rfl⟩ := Option.map_eq_some_iff.mp hp
  exact mem_of_unwrap (mem_of_child? hn hc)

theorem mem_of_climb? (hn : n ∈ d.root.nodes) (hp : n.climb? = some p) : p ∈ d.root.nodes :=
  (mem_of_mem_ancestors hn (List.mem_of_find?_eq_some hp)).1

/-- An argument without its wrappers leads back to the call. -/
theorem unwrap_argument_back (hcall : call ∈ d.root.nodes) (ha : a ∈ call.arguments) :
    a.unwrap ∈ d.root.nodes ∧ a.unwrap.callOf? = some call := by
  refine ⟨mem_of_unwrap (mem_of_mem_arguments hcall ha), ?_⟩
  rw [Node.callOf?_unwrap, Node.callOf?_of_mem_arguments ha]

theorem firstArgument_back (hcall : call ∈ d.root.nodes)
    (h : call.arguments.head?.map Node.unwrap = some n) :
    n ∈ d.root.nodes ∧ n.callOf? = some call := by
  obtain ⟨a, ha, rfl⟩ := Option.map_eq_some_iff.mp h
  exact unwrap_argument_back hcall (List.mem_of_mem_head? ha)

/-! ## Parameters -/

theorem mem_of_mem_parameterList (hfn : fn ∈ d.root.nodes) (hp : p ∈ fn.parameterList) :
    p ∈ d.root.nodes := by
  obtain ⟨list, hlist, hp⟩ := Node.exists_of_mem_parameterList hp
  exact mem_of_mem_parts (mem_of_child? hfn hlist) hp

theorem mem_of_mem_parameters (hfn : fn ∈ d.root.nodes) (hp : p ∈ fn.parameters) :
    p ∈ d.root.nodes := by
  rcases Node.parameter_cases hp with honly | ⟨q, hq, _, hpattern⟩ | hlist
  · exact mem_of_child? hfn honly
  · exact mem_of_child? (mem_of_mem_parameterList hfn hq) hpattern
  · exact mem_of_mem_parameterList hfn hlist

theorem mem_of_mem_writtenParameters (hfn : fn ∈ d.root.nodes) (hp : p ∈ fn.writtenParameters) :
    p ∈ d.root.nodes := by
  unfold Node.writtenParameters at hp
  split at hp
  next q hq =>
    obtain rfl := List.mem_singleton.mp hp
    exact mem_of_child? hfn hq
  next => exact mem_of_mem_parameterList hfn (List.mem_filter.mp hp).1

/-- A parameter, with or without what is written around it, is below the list of parameters, or is
the only name. -/
theorem Regular.enclosingFunction?_of_parameterList (hd : d.Regular) (hfn : fn ∈ d.root.nodes)
    (hfunction : fn.isFunction = true) (hp : p ∈ fn.parameterList) :
    p ∈ d.root.nodes ∧ p.enclosingFunction? = some fn := by
  refine ⟨mem_of_mem_parameterList hfn hp, ?_⟩
  obtain ⟨list, hlist, hp⟩ := Node.exists_of_mem_parameterList hp
  have hkind := hd.parameters fn hfn hfunction list hlist
  have hnot := Node.not_isFunction_of_kind (List.mem_singleton.mpr hkind) (by decide)
  rw [Node.enclosingFunction?_of_mem_children (Node.mem_children_of_mem_parts hp), hnot,
    Node.enclosingFunction?_of_mem_children (Node.mem_children_of_child? hlist), hfunction]
  rfl

theorem enclosingFunction?_of_child? {role : String} (hfunction : fn.isFunction = true)
    (hp : fn.child? role = some p) : p.enclosingFunction? = some fn := by
  rw [Node.enclosingFunction?_of_mem_children (Node.mem_children_of_child? hp), hfunction]
  rfl

theorem Regular.enclosingFunction?_of_mem_parameters (hd : d.Regular) (hfn : fn ∈ d.root.nodes)
    (hfunction : fn.isFunction = true) (hp : p ∈ fn.parameters) :
    p ∈ d.root.nodes ∧ p.enclosingFunction? = some fn := by
  refine ⟨mem_of_mem_parameters hfn hp, ?_⟩
  rcases Node.parameter_cases hp with honly | ⟨q, hq, hkind, hpattern⟩ | hlist
  · exact enclosingFunction?_of_child? hfunction honly
  · have hnot := Node.not_isFunction_of_kind hkind (by decide)
    rw [Node.enclosingFunction?_of_mem_children (Node.mem_children_of_child? hpattern), hnot]
    exact (hd.enclosingFunction?_of_parameterList hfn hfunction hq).2
  · exact (hd.enclosingFunction?_of_parameterList hfn hfunction hlist).2

/-! ## Bodies -/

/-- Functions are not entered, so the function around is that around the whole. -/
theorem enclosingFunction?_of_mem_openNodes {m : Node}
    (h : m ∈ n.openNodes functionKinds.contains) : m.enclosingFunction? = n.enclosingFunction? := by
  induction n using Node.childrenInduction with
  | step n ih =>
      rw [Node.openNodes_eq] at h
      rcases List.mem_cons.mp h with rfl | h
      · rfl
      · split at h
        · exact absurd h List.not_mem_nil
        next hclosed =>
          obtain ⟨c, hc, hm⟩ := List.mem_flatMap.mp h
          rw [ih c hc hm, Node.enclosingFunction?_of_mem_children hc]
          exact if_neg hclosed

/-- A function is the function around what lies inside it, or what lies inside it has one around it
that lies inside it as well. -/
theorem exists_enclosingFunction?_of_mem_nodes {m : Node} (hfunction : n.isFunction = true)
    (hm : m ∈ n.nodes) (hne : m ≠ n) : ∃ g ∈ n.nodes, m.enclosingFunction? = some g := by
  obtain ⟨between, hlineage, hbetween⟩ := Node.exists_lineage_of_mem_nodes hm
  cases between with
  | nil => exact absurd (List.cons.inj hlineage).1 hne
  | cons a rest =>
      have hancestors : m.ancestors = rest ++ n.lineage := (List.cons.inj hlineage).2
      rw [Node.enclosingFunction?, hancestors, List.find?_append]
      cases hrest : rest.find? Node.isFunction with
      | some g =>
          exact ⟨g, (hbetween g (List.mem_cons_of_mem a (List.mem_of_find?_eq_some hrest))).1, rfl⟩
      | none =>
          rw [Node.lineage, List.find?_cons_of_pos hfunction]
          exact ⟨n, n.self_mem_nodes, rfl⟩

/-- Going down without entering functions leads to all that a function is around. -/
theorem mem_openNodes_of_enclosingFunction? {m : Node} (hsize : n.size < fn.size)
    (hm : m ∈ n.nodes) (henclosing : m.enclosingFunction? = some fn) :
    m ∈ n.openNodes functionKinds.contains := by
  induction n using Node.childrenInduction with
  | step n ih =>
      rw [Node.openNodes_eq]
      rcases Node.mem_nodes_iff.mp hm with rfl | ⟨c, hc, hmc⟩
      · exact List.mem_cons_self
      · have hclosed : ¬ n.isFunction = true := fun hfunction => by
          have hne : m ≠ n := fun heq => Node.not_mem_nodes_of_mem_children hc (heq ▸ hmc)
          obtain ⟨g, hg, hmg⟩ := exists_enclosingFunction?_of_mem_nodes hfunction hm hne
          obtain rfl : g = fn := Option.some_inj.mp (hmg.symm.trans henclosing)
          exact absurd (Node.size_le_of_mem_nodes hg) (not_le.mpr hsize)
        refine List.mem_cons_of_mem _ ?_
        rw [show functionKinds.contains n.kind = n.isFunction from rfl, if_neg hclosed]
        exact List.mem_flatMap.mpr
          ⟨c, hc, ih c hc ((Node.size_lt_of_mem_children hc).trans hsize) hmc⟩

/-- The own nodes of a function are those of its body that lie inside no other function. -/
theorem mem_ownNodes_iff {body m : Node} (hfunction : fn.isFunction = true)
    (hbody : fn.child? "body" = some body) :
    m ∈ fn.ownNodes ↔ m ∈ body.nodes ∧ m.enclosingFunction? = some fn := by
  rw [Node.ownNodes, hbody]
  constructor
  · intro hm
    refine ⟨(body.openNodes_sublist _).subset hm, ?_⟩
    rw [enclosingFunction?_of_mem_openNodes hm, enclosingFunction?_of_child? hfunction hbody]
  · rintro ⟨hm, henclosing⟩
    exact mem_openNodes_of_enclosingFunction?
      (Node.size_lt_of_mem_children (Node.mem_children_of_child? hbody)) hm henclosing

theorem ownNodes_nodup_of_nodup (hnodup : d.root.nodes.Nodup) (hfn : fn ∈ d.root.nodes) :
    fn.ownNodes.Nodup := by
  rw [Node.ownNodes]
  split
  next body hbody =>
    exact (hnodup.sublist (Node.nodes_sublist_of_mem_nodes (mem_of_child? hfn hbody))).sublist
      (body.openNodes_sublist _)
  next => exact List.nodup_nil

theorem Nested.ownNodes_nodup (hd : d.Nested) (hfn : fn ∈ d.root.nodes) : fn.ownNodes.Nodup :=
  ownNodes_nodup_of_nodup (hd.nodes_nodup d.root.self_mem_nodes) hfn

theorem mem_of_mem_ownNodes (hfn : fn ∈ d.root.nodes) (hfunction : fn.isFunction = true)
    (hn : n ∈ fn.ownNodes) : n ∈ d.root.nodes ∧ n.enclosingFunction? = some fn := by
  rw [Node.ownNodes] at hn
  split at hn
  next body hbody =>
    refine ⟨mem_of_mem_nodes (mem_of_child? hfn hbody)
      ((body.openNodes_sublist _).subset hn), ?_⟩
    rw [enclosingFunction?_of_mem_openNodes hn, enclosingFunction?_of_child? hfunction hbody]
  next => exact absurd hn List.not_mem_nil

end Document

/-! ## Entries of object literals -/

namespace Document

variable {d : Document} {n object part : Node} {p : Property}

theorem node_of_property? (h : d.property? part = some p) : p.node = part := by
  rw [property?] at h
  split_ifs at h
  · exact Option.some_inj.mp h ▸ rfl
  · exact Option.some_inj.mp h ▸ rfl
  · exact Option.some_inj.mp h ▸ rfl
  · exact Option.some_inj.mp h ▸ rfl

theorem mem_properties (h : p ∈ d.properties object) :
    p.node ∈ object.parts ∧ d.property? p.node = some p := by
  obtain ⟨part, hpart, hp⟩ := List.mem_filterMap.mp h
  obtain rfl := node_of_property? hp
  exact ⟨hpart, hp⟩

theorem parent?_of_mem_properties (h : p ∈ d.properties object) : p.node.parent? = some object :=
  Node.parent?_of_mem_parts (mem_properties h).1

theorem Nested.properties_nodup (hd : d.Nested) (hobject : object ∈ d.root.nodes) :
    (d.properties object).Nodup :=
  nodup_filterMap_of_back (hd.parts_nodup hobject) (fun p => some p.node)
    fun _ _ _ hp => congrArg some (node_of_property? hp)

theorem property?_pair (hkind : part.kind = "pair") (h : d.property? part = some p) :
    p.key = part.child? "key" ∧ p.value = part.child? "value" := by
  rw [property?, if_pos hkind] at h
  obtain rfl := Option.some_inj.mp h
  exact ⟨rfl, rfl⟩

/-- The value of an entry lies in the entry. -/
theorem mem_nodes_of_value {value : Node} (h : d.property? part = some p)
    (hvalue : p.value = some value) : value ∈ part.nodes := by
  rw [property?] at h
  split_ifs at h
  · obtain rfl := Option.some_inj.mp h
    exact Node.mem_nodes_of_mem_children (Node.mem_children_of_child? hvalue)
  · obtain rfl := Option.some_inj.mp h
    exact Option.some_inj.mp hvalue ▸ part.self_mem_nodes
  · obtain rfl := Option.some_inj.mp h
    exact Option.some_inj.mp hvalue ▸ part.self_mem_nodes
  · obtain rfl := Option.some_inj.mp h
    obtain ⟨a, ha, rfl⟩ := Option.map_eq_some_iff.mp hvalue
    exact Node.mem_nodes_trans (Node.mem_nodes_of_mem_children (Node.mem_children_of_firstPart? ha))
      a.unwrap_mem_nodes

/-- The key of a pair or a method is one of its children, and any other key is the whole entry. -/
theorem key_cases (h : d.property? part = some p) (hkey : p.key = some n) :
    (part.kind = "pair" ∨ part.kind = "method_definition") ∧ n ∈ part.children ∨
      part.kind ∉ ["pair", "method_definition"] ∧ n = part := by
  rw [property?] at h
  split_ifs at h with hpair hshorthand hmethod hspread
  · obtain rfl := Option.some_inj.mp h
    exact Or.inl ⟨Or.inl hpair, Node.mem_children_of_child? hkey⟩
  · obtain rfl := Option.some_inj.mp h
    exact Or.inr ⟨by rw [hshorthand]; decide, (Option.some_inj.mp hkey).symm⟩
  · obtain rfl := Option.some_inj.mp h
    exact Or.inl ⟨Or.inr hmethod, Node.mem_children_of_child? hkey⟩
  · obtain rfl := Option.some_inj.mp h
    exact Or.inr ⟨by rw [hspread]; decide, (Option.some_inj.mp hkey).symm⟩

/-- The value of a named property leads back to the entry, unless it is the whole entry. -/
theorem exists_of_property {name : String} {value : Node}
    (h : (d.property object name).bind Property.value = some value)
    (hkind : value.unwrap.kind ∉ ["shorthand_property_identifier", "method_definition"]) :
    ∃ pair ∈ object.parts, pair.kind = "pair" ∧ pair.child? "value" = some value ∧
      value.unwrap.climb? = some pair := by
  obtain ⟨p, hp, hvalue⟩ := Option.bind_eq_some_iff.mp h
  have hspread : p.spread = false := by
    have hfound := List.find?_some hp
    simp only [Bool.and_eq_true, Bool.not_eq_true'] at hfound
    exact hfound.2
  obtain ⟨hpart, hproperty⟩ := mem_properties (List.mem_of_find?_eq_some hp)
  have hnot : ∀ kind ∈ ["shorthand_property_identifier", "method_definition"],
      p.node.kind = kind → value ≠ p.node := by
    rintro kind hmem hnode rfl
    have hwrapper : ∀ kind ∈ ["shorthand_property_identifier", "method_definition"],
        kind ∉ wrapperKinds := by decide
    rw [Node.unwrap_of_not_isWrapper (Node.not_isWrapper_of_kind (hnode ▸ hmem) hwrapper)] at hkind
    exact hkind (hnode ▸ hmem)
  rw [property?] at hproperty
  split_ifs at hproperty with hpair hshorthand hmethod hspreads
  · obtain hproperty := Option.some_inj.mp hproperty
    rw [← hproperty] at hvalue
    refine ⟨p.node, hpart, hpair, hvalue, ?_⟩
    rw [Node.climb?_unwrap, Node.climb?_of_mem_children (Node.mem_children_of_child? hvalue)
      (Node.not_isWrapper_of_kind (List.mem_singleton.mpr hpair) (by decide))]
  · rw [← Option.some_inj.mp hproperty] at hvalue
    exact absurd (Option.some_inj.mp hvalue).symm (hnot _ (by decide) hshorthand)
  · rw [← Option.some_inj.mp hproperty] at hvalue
    exact absurd (Option.some_inj.mp hvalue).symm (hnot _ (by decide) hmethod)
  · rw [← Option.some_inj.mp hproperty] at hspread
    cases hspread

end Document

end CodeConventions
