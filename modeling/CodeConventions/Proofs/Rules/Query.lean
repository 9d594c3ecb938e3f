import CodeConventions.Proofs.Rules.Apart
import CodeConventions.Proofs.Tree.Argument
import CodeConventions.Rules.OptionOrder
import CodeConventions.Rules.QueryHook

/-!
# Rules on queries and options keep their remarks apart

An option is shown by its key, or as a whole, and leads back to its entry, to the object and to the
call.  A key of a query, a name among dependencies and a pattern lead back likewise.
-/

namespace CodeConventions

/-! ## Items that are misplaced -/

theorem misplaced_sublist {α : Type} (rank : α → Option Nat) (xs : List α) :
    ((misplaced rank xs).map Prod.fst).Sublist xs := by
  induction xs with
  | nil => exact List.Sublist.refl _
  | cons x xs ih =>
      rw [misplaced, List.map_append]
      split
      · exact ih.cons_cons x
      · exact ih.cons x

namespace Document

variable {d : Document} {m n o call : Node} {rs : List Remark}

/-! ## Options -/

theorem mem_of_optionsObject? (hcall : call ∈ d.root.nodes) (h : optionsObject? call = some o) :
    o ∈ d.root.nodes ∧ o.kind = "object" ∧ o.callOf? = some call := by
  obtain ⟨h, hkind⟩ := Option.filter_eq_some_iff.mp h
  obtain ⟨hmem, hback⟩ := firstArgument_back hcall h
  exact ⟨hmem, beq_iff_eq.mp hkind, hback⟩

/-- The node by which an entry of the object is shown. -/
private def IsShownEntry (d : Document) (o n : Node) : Prop :=
  ∃ p ∈ d.properties o, n = p.key.getD p.node

/-- The entry that a key or an entry leads back to. -/
private def entryOf? (n : Node) : Option Node :=
  match n.parent? with
  | some p => if p.kind ∈ ["pair", "method_definition"] then some p else some n
  | none => none

private theorem Regular.shownEntry_back (hd : d.Regular) (ho : o ∈ d.root.nodes)
    (hkind : o.kind = "object") {p : Property} (hp : p ∈ d.properties o)
    (hn : n = p.key.getD p.node) : d.Outer n ∧ entryOf? n = some p.node := by
  obtain ⟨hpart, hproperty⟩ := mem_properties hp
  have hchild := Node.mem_children_of_mem_parts hpart
  have hself : n = p.node → d.Outer n ∧ entryOf? n = some p.node := by
    rintro rfl
    refine ⟨hd.outer_of_parent ho hchild (by rw [hkind]; decide), ?_⟩
    rw [entryOf?, Node.parent?_of_mem_children hchild]
    exact if_neg (by rw [hkind]; decide)
  cases hkey : p.key with
  | none =>
      rw [hkey] at hn
      exact hself hn
  | some key =>
      rw [hkey, Option.getD_some] at hn
      rcases key_cases hproperty hkey with ⟨hentry, hkeychild⟩ | ⟨_, hwhole⟩
      · have hentry : p.node.kind ∈ ["pair", "method_definition"] := by
          rcases hentry with h | h
          · rw [h]
            decide
          · rw [h]
            decide
        have hfirm : ∀ kind ∈ ["pair", "method_definition"], kind ∈ firmKinds := by decide
        subst hn
        refine ⟨hd.outer_of_parent (mem_of_mem_children ho hchild) hkeychild (hfirm _ hentry), ?_⟩
        rw [entryOf?, Node.parent?_of_mem_children hkeychild]
        exact if_pos hentry
      · exact hself (hn.trans hwhole)

private theorem Regular.apartOn_optionOrder (hd : d.Regular) {order : PropertyOrder}
    {function : String} (ho : o ∈ d.root.nodes) (hkind : o.kind = "object") :
    ApartOn (d.IsShownEntry o) (d.optionOrder order function o) := by
  have hnodup : ((misorderedProperties order (d.properties o)).map Prod.fst).Nodup :=
    (hd.properties_nodup ho).sublist (misplaced_sublist _ _)
  have hmem : ∀ pair ∈ misorderedProperties order (d.properties o), pair.1 ∈ d.properties o :=
    fun pair hpair => (misplaced_sublist _ _).subset (List.mem_map_of_mem hpair)
  rw [optionOrder, List.map_eq_flatMap]
  refine (ApartOn.flatMap_of_inj (A := fun pair n => n = pair.1.key.getD pair.1.node)
    hnodup.of_map (fun pair _ => ApartOn.self _) ?_).mono ?_
  · rintro pair hpair other hother m n hm hn hspot
    obtain ⟨hmouter, hmback⟩ := hd.shownEntry_back ho hkind (hmem pair hpair) hm
    obtain ⟨hnouter, hnback⟩ := hd.shownEntry_back ho hkind (hmem other hother) hn
    obtain rfl := hd.separated_outer m n hmouter hnouter hspot
    have hnode := Option.some_inj.mp (hmback.symm.trans hnback)
    have hproperty := (mem_properties (hmem pair hpair)).2
    rw [hnode, (mem_properties (hmem other hother)).2, Option.some_inj] at hproperty
    exact (List.inj_on_of_nodup_map hnodup hother hpair hproperty).symm
  · rintro n ⟨pair, hpair, rfl⟩
    exact ⟨pair.1, hmem pair hpair, rfl⟩

private theorem Regular.isShownEntry_back (hd : d.Regular) (hcall : call ∈ d.root.nodes)
    (ho : optionsObject? call = some o) (hn : d.IsShownEntry o n) :
    d.Outer n ∧ ((entryOf? n).bind Node.parent?).bind Node.callOf? = some call := by
  obtain ⟨hmem, hkind, hback⟩ := mem_of_optionsObject? hcall ho
  obtain ⟨p, hp, hn⟩ := hn
  obtain ⟨houter, hentry⟩ := hd.shownEntry_back hmem hkind hp hn
  refine ⟨houter, ?_⟩
  rw [hentry, Option.bind_some, parent?_of_mem_properties hp, Option.bind_some, hback]

/-- Remarks about the order of options in calls are apart, whatever the calls and the orders are. -/
private theorem Regular.apart_optionOrders (hd : d.Regular) {f : Node → List Remark}
    (hf : ∀ call, f call = [] ∨ ∃ order function o, optionsObject? call = some o ∧
      f call = d.optionOrder order function o) :
    Apart ((d.find ["call_expression"]).flatMap f) := by
  refine (ApartOn.flatMap (A := fun call n => ∃ o, optionsObject? call = some o ∧
      d.IsShownEntry o n) hd.separated_outer (hd.find_nodup _)
    (fun n => ((entryOf? n).bind Node.parent?).bind Node.callOf?) (fun call hcall => ?_) ?_).apart
  · rcases hf call with heq | ⟨order, function, o, ho, heq⟩
    · exact heq ▸ ApartOn.nil
    · obtain ⟨hmem, hkind, _⟩ := mem_of_optionsObject? (mem_of_mem_find hcall).1 ho
      exact heq ▸ (hd.apartOn_optionOrder hmem hkind).mono fun n hn => ⟨o, ho, hn⟩
  · rintro call hcall n ⟨o, ho, hn⟩
    exact hd.isShownEntry_back (mem_of_mem_find hcall).1 ho hn

private theorem Regular.apart_fetchingOptions (hd : d.Regular) (functions : List String)
    (order : PropertyOrder) : Apart (d.fetchingOptions functions order) := by
  refine hd.apart_optionOrders fun call => ?_
  split
  next function o _ ho =>
    split
    · exact Or.inr ⟨order, function, o, ho, rfl⟩
    · exact Or.inl rfl
  next => exact Or.inl rfl

theorem Regular.apart_mutationOptions (hd : d.Regular) : Apart d.mutationOptions :=
  hd.apart_fetchingOptions _ _

theorem Regular.apart_infiniteQueryOptions (hd : d.Regular) : Apart d.infiniteQueryOptions :=
  hd.apart_fetchingOptions _ _

theorem Regular.apart_routeOptions (hd : d.Regular) : Apart d.routeOptions := by
  refine hd.apart_optionOrders fun call => ?_
  split
  next function o _ ho => exact Or.inr ⟨_, function, o, ho, rfl⟩
  next => exact Or.inl rfl

/-! ## Clients -/

theorem Regular.apart_renderedClients (hd : d.Regular) : Apart d.renderedClients :=
  (hd.apartOn_find List.filter_sublist (by decide)).apart

/-! ## Results taken apart -/

/-- The declaration that a pattern, or an element of an array pattern, leads back to. -/
def declaratorOf? (n : Node) : Option Node :=
  match n.parent? with
  | some p => if p.kind = "variable_declarator" then some p else p.parent?
  | none => none

private theorem kind_of_hasRest (h : n.hasRest = true) : n.kind = "object_pattern" :=
  beq_iff_eq.mp (Bool.and_eq_true_iff.mp h).1

private theorem gatheringPatterns_cases (d : Document) (v : Node) :
    d.gatheringPatterns v = [] ∨ ∃ pattern, v.child? "name" = some pattern ∧
      (d.gatheringPatterns v = [pattern] ∧ pattern.kind = "object_pattern" ∨
        d.gatheringPatterns v = pattern.parts.filter Node.hasRest ∧
          pattern.kind = "array_pattern") := by
  rw [gatheringPatterns]
  split
  next pattern value hpattern _ =>
    split_ifs with _ hrest _ harray hname
    · exact Or.inr ⟨pattern, hpattern, Or.inl ⟨rfl, kind_of_hasRest hrest⟩⟩
    · exact Or.inl rfl
    · exact Or.inr ⟨pattern, hpattern, Or.inr ⟨rfl, harray⟩⟩
    · exact Or.inl rfl
    · simp only [Bool.and_eq_true] at hname
      exact Or.inr ⟨pattern, hpattern, Or.inl ⟨rfl, kind_of_hasRest hname.1.2⟩⟩
    · exact Or.inl rfl
  next => exact Or.inl rfl

theorem declaratorOf?_of_mem_gatheringPatterns {v : Node}
    (hv : v ∈ d.find ["variable_declarator"]) (hn : n ∈ d.gatheringPatterns v) :
    n ∈ d.root.nodes ∧ n.kind = "object_pattern" ∧ declaratorOf? n = some v := by
  obtain ⟨hmem, hkind⟩ := mem_of_mem_find hv
  rw [List.mem_singleton] at hkind
  rcases d.gatheringPatterns_cases v with heq | ⟨pattern, hpattern, ⟨heq, hpkind⟩ | ⟨heq, hpkind⟩⟩
  · rw [heq] at hn
    exact absurd hn List.not_mem_nil
  · rw [heq] at hn
    obtain rfl := List.mem_singleton.mp hn
    refine ⟨mem_of_child? hmem hpattern, hpkind, ?_⟩
    rw [declaratorOf?, Node.parent?_of_child? hpattern]
    exact if_pos hkind
  · rw [heq] at hn
    obtain ⟨hn, hrest⟩ := List.mem_filter.mp hn
    refine ⟨mem_of_mem_parts (mem_of_child? hmem hpattern) hn, kind_of_hasRest hrest, ?_⟩
    rw [declaratorOf?, Node.parent?_of_mem_parts hn]
    dsimp only
    rw [if_neg (by rw [hpkind]; decide), Node.parent?_of_child? hpattern]

theorem Regular.apart_gatheredResults (hd : d.Regular) : Apart d.gatheredResults := by
  refine (ApartOn.map_remark hd.separated_inner ?_ fun n hn => ?_).apart
  · refine nodup_flatMap_of_back (hd.find_nodup _) declaratorOf? (fun v hv => ?_) fun v hv n hn =>
      (declaratorOf?_of_mem_gatheringPatterns hv hn).2.2
    rcases d.gatheringPatterns_cases v with heq | ⟨pattern, hpattern, ⟨heq, _⟩ | ⟨heq, _⟩⟩
    · exact heq ▸ List.nodup_nil
    · exact heq ▸ List.nodup_singleton _
    · exact heq ▸ (hd.parts_nodup (mem_of_child? (mem_of_mem_find hv).1 hpattern)).filter _
  · obtain ⟨v, hv, hn⟩ := List.mem_flatMap.mp hn
    obtain ⟨hmem, hkind, _⟩ := declaratorOf?_of_mem_gatheringPatterns hv hn
    exact hd.inner_of_kind hmem (by rw [hkind]; decide)

/-! ## Results as dependencies -/

/-- Different parts of a node surround different expressions. -/
theorem Nested.map_unwrap_nodup (hd : d.Nested) (hn : n ∈ d.root.nodes) :
    (n.parts.map Node.unwrap).Nodup := by
  refine (hd.parts_nodup hn).map_on fun a ha b hb heq => ?_
  exact hd.eq_of_mem_nodes_of_mem_nodes hn (Node.mem_children_of_mem_parts ha)
    (Node.mem_children_of_mem_parts hb) a.unwrap_mem_nodes (heq ▸ b.unwrap_mem_nodes)

theorem mem_of_dependencyArray? {array : Node} (hcall : call ∈ d.root.nodes)
    (h : dependencyArray? call = some array) :
    array ∈ d.root.nodes ∧ array.kind = "array" ∧ array.callOf? = some call := by
  rw [dependencyArray?] at h
  split at h
  next first last rest harguments =>
    obtain ⟨h, hkind⟩ := Option.filter_eq_some_iff.mp h
    obtain ⟨a, ha, rfl⟩ := Option.map_eq_some_iff.mp h
    have hargument : a ∈ call.arguments := by
      rw [harguments]
      exact List.mem_cons_of_mem _ (List.mem_of_getLast? ha)
    obtain ⟨hmem, hback⟩ := unwrap_argument_back hcall hargument
    exact ⟨hmem, beq_iff_eq.mp hkind, hback⟩
  next => cases h

/-- The node is a name in the array of dependencies of the call. -/
private def IsDependency (call n : Node) : Prop :=
  ∃ array, dependencyArray? call = some array ∧ n ∈ array.parts.map Node.unwrap ∧
    n.kind = "identifier"

private theorem Regular.isDependency_back (hd : d.Regular) (hcall : call ∈ d.root.nodes)
    (hn : IsDependency call n) :
    d.Inner n ∧ n.climb?.bind Node.callOf? = some call := by
  obtain ⟨array, harray, hn, hkind⟩ := hn
  obtain ⟨hmem, harraykind, hback⟩ := mem_of_dependencyArray? hcall harray
  obtain ⟨x, hx, rfl⟩ := List.mem_map.mp hn
  refine ⟨hd.inner_of_kind (mem_of_unwrap (mem_of_mem_parts hmem hx)) (by rw [hkind]; decide), ?_⟩
  rw [Node.climb?_unwrap, Node.climb?_of_mem_children (Node.mem_children_of_mem_parts hx)
    (Node.not_isWrapper_of_kind (List.mem_singleton.mpr harraykind) (by decide)),
    Option.bind_some, hback]

theorem Regular.apart_unstableDependencies (hd : d.Regular) : Apart d.unstableDependencies := by
  refine (ApartOn.flatMap hd.separated_inner (hd.find_nodup _)
    (fun n => n.climb?.bind Node.callOf?) (fun call hcall => ?_) fun call hcall n hn =>
      hd.isDependency_back (mem_of_mem_find hcall).1 hn).apart
  have hmem := (mem_of_mem_find hcall).1
  rw [unstableIn]
  split
  next hook array _ harray =>
    split
    · have hname : ∀ e ∈ (array.parts.map Node.unwrap).filter fun e => e.kind == "identifier",
          IsDependency call e := fun e he =>
        ⟨array, harray, (List.mem_filter.mp he).1, beq_iff_eq.mp (List.mem_filter.mp he).2⟩
      refine (ApartOn.filterMap_self hd.separated_inner
        ((hd.map_unwrap_nodup (mem_of_dependencyArray? hmem harray).1).filter _)
        fun e he r hr => ?_).mono fun e he => hname e he.1
      obtain ⟨result, _, rfl⟩ := Option.map_eq_some_iff.mp hr
      exact ⟨(hd.isDependency_back hmem (hname e he)).1, d.remark_shows e _⟩
    · exact ApartOn.nil
  next => exact ApartOn.nil

/-! ## Keys -/

/-- The node is the key of a query whose options are the object. -/
def IsQueryKey (d : Document) (object key : Node) : Prop :=
  key ∈ d.root.nodes ∧ key.kind = "array" ∧ key.climb?.bind Node.parent? = some object

theorem isQueryKey_of_keyedQuery? {q : KeyedQuery} (ho : o ∈ d.root.nodes)
    (h : d.keyedQuery? o = some q) : d.IsQueryKey o q.key := by
  rw [keyedQuery?] at h
  split at h
  next key function around hkey _ _ =>
    split at h
    next hcond =>
      obtain rfl := Option.some_inj.mp h
      have hkind : key.unwrap.kind = "array" := by
        simp only [Bool.and_eq_true, decide_eq_true_eq] at hcond
        exact hcond.1
      obtain ⟨pair, hpair, hpairkind, hvalue, hclimb⟩ :=
        exists_of_property hkey (by rw [hkind]; decide)
      refine ⟨mem_of_unwrap (mem_of_child? (mem_of_mem_parts ho hpair) hvalue), hkind, ?_⟩
      rw [hclimb, Option.bind_some, Node.parent?_of_mem_parts hpair]
    next => cases h
  next => cases h

theorem Regular.apart_incompleteKeys (hd : d.Regular) (options : QueryKeyOptions) :
    Apart (d.incompleteKeys options) := by
  rw [incompleteKeys, List.filterMap_filterMap]
  refine (ApartOn.filterMap (A := d.IsQueryKey) hd.separated_inner (hd.find_nodup _)
    (fun n => n.climb?.bind Node.parent?) (fun o ho r hr => ?_) ?_).apart
  · obtain ⟨q, hq, hr⟩ := Option.bind_eq_some_iff.mp hr
    dsimp only at hr
    split at hr
    · cases hr
    · obtain rfl := Option.some_inj.mp hr
      exact ⟨q.key, isQueryKey_of_keyedQuery? (mem_of_mem_find ho).1 hq, d.remark_shows q.key _⟩
  · rintro o _ n ⟨hmem, hkind, hback⟩
    exact ⟨hd.inner_of_kind hmem (by rw [hkind]; decide), hback⟩

end Document

end CodeConventions
