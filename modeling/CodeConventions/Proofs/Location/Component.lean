import CodeConventions.Proofs.Location.Remark
import CodeConventions.Proofs.Rules.Component
import CodeConventions.Proofs.Rules.Markup
import CodeConventions.Proofs.Rules.Query
import CodeConventions.Proofs.Rules.Reactivity.Read

/-!
# Where the rules on components and queries find something

Components and calls of the reactive library are found in the tree, and what the rules show is below
them, or around a use of a variable: going up from a node never leaves the tree.  The rules on queries
start from a call, a declaration or an object and go down, to an option, a pattern, a dependency or
a key.
-/

namespace CodeConventions.Document

variable {d : Document} {fn n : Node}

/-! ## Bodies of components -/

theorem onNodes_componentReturns (d : Document) : d.OnNodes d.componentReturns := by
  refine onNodes_flatMap fun fn hfn => ?_
  obtain ⟨hmem, hfunction⟩ := mem_of_mem_components hfn
  unfold returnsOf
  split
  · exact onNodes_nil
  next body hbody =>
    split
    · refine onNodes_filterMap fun statement hstatement r hr => isOnNode_of_map ?_ hr
      exact (mem_of_mem_ownNodes hmem hfunction (List.mem_filter.mp hstatement).1).1
    · split
      · exact onNodes_singleton (mem_of_unwrap (mem_of_child? hmem hbody)) _
      · exact onNodes_nil

theorem onNodes_destructuredComponents (d : Document) : d.OnNodes d.destructuredComponents := by
  refine onNodes_map fun n hn => ?_
  obtain ⟨fn, hfn, hn⟩ := List.mem_flatMap.mp hn
  obtain ⟨hmem, hfunction⟩ := mem_of_mem_components hfn
  unfold propsPatterns at hn
  split at hn
  · exact absurd hn List.not_mem_nil
  next props hprops =>
    split at hn
    · rw [List.mem_singleton.mp hn]
      exact mem_of_mem_parameters hmem (List.mem_of_mem_head? hprops)
    split at hn
    · obtain ⟨v, hv, _, hname, _⟩ := exists_of_mem_patternsFor hn
      exact mem_of_child? (mem_of_mem_ownNodes hmem hfunction hv).1 hname
    · exact absurd hn List.not_mem_nil

/-! ## The use of the library -/

theorem onNodes_dependencyLists (d : Document) : d.OnNodes d.dependencyLists := by
  refine onNodes_filterMap fun call hcall r hr => ?_
  split at hr
  · split at hr
    · obtain ⟨list, hlist, rfl⟩ := Option.map_eq_some_iff.mp hr
      refine isOnNode_remark ?_ _
      exact mem_of_mem_arguments (mem_of_mem_find hcall).1 (mem_arguments_of_dependencies? hlist)
    · cases hr
  · cases hr

theorem mem_of_mem_importStatements {statement : Node} (h : statement ∈ d.importStatements) :
    statement ∈ d.root.nodes :=
  mem_of_mem_parts d.root.self_mem_nodes (List.mem_filter.mp h).1

/-- What is imported is imported at a node of the tree. -/
theorem node_mem_of_mem_imports {b : ImportBinding} (h : b ∈ d.imports) :
    b.node ∈ d.root.nodes := by
  obtain ⟨statement, hstatement, h⟩ := List.mem_flatMap.mp (d.imports_sublist.subset h)
  obtain ⟨clause, hclause, h⟩ := List.mem_flatMap.mp h
  obtain ⟨part, hpart, h⟩ := List.mem_flatMap.mp h
  have hmem : part ∈ d.root.nodes := by
    refine mem_of_mem_parts (mem_of_mem_parts ?_ (List.mem_filter.mp hclause).1) hpart
    exact mem_of_mem_importStatements hstatement
  unfold partImports at h
  split at h
  · rw [List.mem_singleton.mp h]
    exact hmem
  split at h
  · split at h
    · rw [List.mem_singleton.mp h]
      exact hmem
    · exact absurd h List.not_mem_nil
  split at h
  · obtain ⟨specifier, hspecifier, rfl⟩ := List.mem_map.mp h
    exact mem_of_mem_parts hmem (List.mem_filter.mp hspecifier).1
  · exact absurd h List.not_mem_nil

theorem onNodes_misplacedImports (d : Document) : d.OnNodes d.misplacedImports := by
  refine onNodes_filterMap fun b hb r hr => ?_
  unfold misplacedImport? at hr
  split at hr
  · cases hr
  · obtain ⟨proper, _, rfl⟩ := Option.map_eq_some_iff.mp hr
    exact isOnNode_remark (node_mem_of_mem_imports hb) _

private theorem onNodes_madeProxies (d : Document) : d.OnNodes d.madeProxies := by
  refine onNodes_map fun n hn => ?_
  rcases List.mem_append.mp hn with hn | hn
  · exact (mem_of_mem_find (List.mem_filter.mp hn).1).1
  · exact (mem_of_mem_find (List.mem_filter.mp hn).1).1

private theorem onNodes_mergedFunctions (d : Document) : d.OnNodes d.mergedFunctions := by
  refine onNodes_map fun n hn => ?_
  obtain ⟨call, hcall, hn⟩ := List.mem_flatMap.mp (List.mem_filter.mp hn).1
  have hfound := (List.mem_filter.mp (List.mem_filter.mp hcall).1).1
  exact mem_of_mem_arguments (mem_of_mem_find hfound).1 hn

theorem onNodes_proxies (d : Document) : d.OnNodes d.proxies := by
  have himports : d.OnNodes d.storeImports := onNodes_map fun s hs =>
    mem_of_mem_importStatements (List.mem_filter.mp hs).1
  have hattributes : d.OnNodes ((d.tags.flatMap Node.attributes).filterMap d.spreadAttribute?) := by
    refine onNodes_filterMap fun a ha r hr => ?_
    have hmem : a ∈ d.root.nodes := by
      obtain ⟨tag, htag, ha⟩ := List.mem_flatMap.mp ha
      exact IsAttribute.mem ⟨tag, htag, ha⟩
    unfold spreadAttribute? at hr
    split at hr
    · cases hr
    · split_ifs at hr
      · exact Option.some_inj.mp hr ▸ isOnNode_remark hmem _
      · exact Option.some_inj.mp hr ▸ isOnNode_remark hmem _
  exact ((himports.append (onNodes_madeProxies d)).append hattributes).append
    (onNodes_mergedFunctions d)

/-! ## Expressions among the children of elements -/

theorem onNodes_mappedLists (d : Document) : d.OnNodes d.mappedLists := by
  refine onNodes_filterMap fun n hn r hr => ?_
  obtain ⟨f, _, rfl⟩ := Option.map_eq_some_iff.mp hr
  exact isOnNode_remark (exists_of_mem_contentExpressions hn).1 _

theorem onNodes_conditionalMarkup (d : Document) : d.OnNodes d.conditionalMarkup := by
  refine onNodes_map fun n hn => ?_
  obtain ⟨x, hx, hn⟩ := List.mem_filterMap.mp (List.mem_filter.mp hn).1
  exact (showing?_of_shown? hx hn).1

/-! ## Reactive variables -/

theorem wholeAccess_mem (hn : n ∈ d.root.nodes) : n.wholeAccess ∈ d.root.nodes := by
  induction n using Node.climbInduction with
  | step n ih =>
    rw [Node.wholeAccess]
    split
    next p hp =>
      split
      · exact ih p hp (mem_of_climb? hn hp)
      · exact hn
    next => exact hn

private theorem onNodes_lostRead {c : ReactiveContext} {owner use shown : Node} {name : String}
    (hshown : shown ∈ d.root.nodes) : d.OnNodes (d.lostRead c owner use shown name) := by
  rcases d.lostRead_cases c owner use shown name with heq | ⟨message, _, heq⟩
  · rw [heq]
    exact onNodes_nil
  · rw [heq]
    exact onNodes_singleton hshown message

private theorem onNodes_reactiveUse {c : ReactiveContext} {v : ReactiveVariable} {use : Node}
    (huse : use ∈ d.root.nodes) : d.OnNodes (d.reactiveUse c v use) := by
  unfold reactiveUse
  split
  · exact onNodes_singleton huse _
  split
  · exact onNodes_nil
  cases v.kind with
  | signal =>
    dsimp only
    unfold signalUse
    split
    next call hcall => exact onNodes_lostRead (mem_of_mem_find (mem_of_callAround? huse hcall)).1
    next =>
      split
      · exact onNodes_lostRead huse
      · exact onNodes_nil
  | props =>
    dsimp only
    unfold propsUse
    split
    · exact onNodes_nil
    next parent hparent =>
      split
      · split
        · exact onNodes_nil
        · exact onNodes_lostRead (wholeAccess_mem (mem_of_climb? huse hparent))
      · split
        · exact onNodes_singleton huse _
        · exact onNodes_nil

private theorem onNodes_uncalledAccessors (d : Document) : d.OnNodes d.uncalledAccessors := by
  unfold uncalledAccessors
  dsimp only
  split
  · exact onNodes_nil
  · refine onNodes_map fun n hn => ?_
    rcases List.mem_append.mp (List.mem_filter.mp hn).1 with hn | hn
    · exact (exists_of_mem_contentExpressions hn).1
    · obtain ⟨a, ha, hkind, hvalue⟩ := attributeExpression?_of_mem_valueExpressions hn
      exact mem_of_mem_nodes ha.mem (attributeExpression?_back hkind hvalue).1

private theorem onNodes_asynchronousScopes (d : Document) : d.OnNodes d.asynchronousScopes := by
  refine onNodes_map fun f hf => ?_
  obtain ⟨call, hcall, hf⟩ := List.mem_filterMap.mp (List.mem_filter.mp hf).1
  exact (firstArgument_back (mem_of_mem_find (List.mem_filter.mp hcall).1).1 hf).1

theorem onNodes_reactivity (d : Document) (options : ReactivityOptions) :
    d.OnNodes (d.reactivity options) := by
  refine OnNodes.append ((onNodes_uncalledAccessors d).append (onNodes_asynchronousScopes d)) ?_
  refine onNodes_flatMap fun v hv => onNodes_flatMap fun use huse => ?_
  exact onNodes_reactiveUse (of_mem_usesOf (owner_mem hv) huse).1

/-! ## Options of queries and routes -/

variable {o : Node}

/-- An entry of an object and its key are nodes of the tree. -/
theorem key_mem_of_mem_properties {p : Property} (ho : o ∈ d.root.nodes)
    (hp : p ∈ d.properties o) : p.key.getD p.node ∈ d.root.nodes := by
  obtain ⟨hpart, hproperty⟩ := mem_properties hp
  have hmem := mem_of_mem_parts ho hpart
  cases hkey : p.key with
  | none => exact hmem
  | some key =>
    rw [Option.getD_some]
    rcases key_cases hproperty hkey with ⟨_, hchild⟩ | ⟨_, rfl⟩
    · exact mem_of_mem_children hmem hchild
    · exact hmem

private theorem onNodes_optionOrder {order : PropertyOrder} {function : String}
    (ho : o ∈ d.root.nodes) : d.OnNodes (d.optionOrder order function o) := by
  intro r hr
  obtain ⟨pair, hpair, rfl⟩ := List.mem_map.mp hr
  refine isOnNode_remark (key_mem_of_mem_properties ho ?_) _
  exact (misplaced_sublist _ _).subset (List.mem_map_of_mem hpair)

private theorem onNodes_fetchingOptions (d : Document) (functions : List String)
    (order : PropertyOrder) : d.OnNodes (d.fetchingOptions functions order) := by
  refine onNodes_flatMap fun call hcall => ?_
  split
  next function options _ hoptions =>
    split
    · exact onNodes_optionOrder (mem_of_optionsObject? (mem_of_mem_find hcall).1 hoptions).1
    · exact onNodes_nil
  next => exact onNodes_nil

theorem onNodes_mutationOptions (d : Document) : d.OnNodes d.mutationOptions :=
  onNodes_fetchingOptions d _ _

theorem onNodes_infiniteQueryOptions (d : Document) : d.OnNodes d.infiniteQueryOptions :=
  onNodes_fetchingOptions d _ _

theorem onNodes_routeOptions (d : Document) : d.OnNodes d.routeOptions := by
  refine onNodes_flatMap fun call hcall => ?_
  split
  next function options _ hoptions =>
    exact onNodes_optionOrder (mem_of_optionsObject? (mem_of_mem_find hcall).1 hoptions).1
  next => exact onNodes_nil

/-! ## Clients, results and keys -/

theorem onNodes_renderedClients (d : Document) : d.OnNodes d.renderedClients := onNodes_find

theorem onNodes_gatheredResults (d : Document) : d.OnNodes d.gatheredResults := by
  refine onNodes_map fun n hn => ?_
  obtain ⟨v, hv, hn⟩ := List.mem_flatMap.mp hn
  exact (declaratorOf?_of_mem_gatheringPatterns hv hn).1

theorem onNodes_unstableDependencies (d : Document) : d.OnNodes d.unstableDependencies := by
  refine onNodes_flatMap fun call hcall => ?_
  unfold unstableIn
  split
  next hook array _ harray =>
    split
    · refine onNodes_filterMap fun e he r hr => ?_
      obtain ⟨x, hx, rfl⟩ := List.mem_map.mp (List.mem_filter.mp he).1
      obtain ⟨result, _, rfl⟩ := Option.map_eq_some_iff.mp hr
      have hmem := (mem_of_dependencyArray? (mem_of_mem_find hcall).1 harray).1
      exact isOnNode_remark (mem_of_unwrap (mem_of_mem_parts hmem hx)) _
    · exact onNodes_nil
  next => exact onNodes_nil

theorem onNodes_incompleteKeys (d : Document) (options : QueryKeyOptions) :
    d.OnNodes (d.incompleteKeys options) := by
  refine onNodes_filterMap fun q hq r hr => ?_
  obtain ⟨o, ho, hq⟩ := List.mem_filterMap.mp hq
  dsimp only at hr
  split at hr
  · cases hr
  · obtain rfl := Option.some_inj.mp hr
    exact isOnNode_remark (isQueryKey_of_keyedQuery? (mem_of_mem_find ho).1 hq).1 _

end CodeConventions.Document
