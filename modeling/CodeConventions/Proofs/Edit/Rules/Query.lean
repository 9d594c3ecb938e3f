import CodeConventions.Proofs.Edit.Markup
import CodeConventions.Rules.OptionOrder
import CodeConventions.Rules.QueryHook
import CodeConventions.Rules.RoutePath

/-!
# The rules on queries and routes in edited documents

What these rules remark in an edited document are their remarks about the document itself, moved.
The one remark that is not about a node, about a part of a path, lies at offsets that count on from
the literal that the path stands in, and moves with it.
-/

namespace CodeConventions

namespace Document

variable (e : Edit) (d : Document) (n : Node)

theorem propertyValue_edited (name : String) :
    ((d.edited e).property (n.edited e) name).bind Property.value =
      ((d.property n name).bind Property.value).map (Node.edited e) := by
  rw [property_edited]
  exact bind_map_image (Property.value_edited e) _

/-! ## The order of options -/

@[simp] theorem optionsObject?_edited :
    optionsObject? (n.edited e) = (optionsObject? n).map (Node.edited e) := by
  unfold optionsObject?
  rw [Node.firstArgument_edited, Option.filter_map]
  simp [Function.comp_def]

theorem optionOrder_edited (order : PropertyOrder) (function : String) (options : Node) :
    (d.edited e).optionOrder order function (options.edited e) =
      (d.optionOrder order function options).map (Remark.moved e) := by
  unfold optionOrder
  rw [properties_edited, misorderedProperties_edited, List.map_map, List.map_map]
  refine List.map_congr_left fun (p, other) _ => ?_
  have hshown : (p.edited e).key.getD (p.edited e).node = (p.key.getD p.node).edited e := by
    rw [Property.key_edited, Property.node_edited, Option.getD_map]
  simp only [Function.comp_apply, Prod.map_apply, hshown, remark_edited]
  rfl

theorem fetchingOptions_edited (functions : List String) (order : PropertyOrder) :
    (d.edited e).fetchingOptions functions order =
      (d.fetchingOptions functions order).map (Remark.moved e) := by
  unfold fetchingOptions
  rw [find_edited e d (by decide)]
  refine flatMap_map_image (fun call => ?_) _
  rw [libraryCallee?_edited, optionsObject?_edited]
  cases d.libraryCallee? Fetching.library call with
  | none => rfl
  | some function =>
    cases optionsObject? call with
    | none => rfl
    | some options =>
      simp only [Option.map_some, optionOrder_edited]
      split <;> rfl

theorem mutationOptions_edited :
    (d.edited e).mutationOptions = d.mutationOptions.map (Remark.moved e) :=
  fetchingOptions_edited e d _ _

theorem infiniteQueryOptions_edited :
    (d.edited e).infiniteQueryOptions = d.infiniteQueryOptions.map (Remark.moved e) :=
  fetchingOptions_edited e d _ _

@[simp] theorem routeMaker?_edited :
    (d.edited e).routeMaker? (n.edited e) = d.routeMaker? n := by
  unfold routeMaker?
  rw [libraryCallee?_edited, Node.callee?_edited]
  cases n.callee? <;> simp

theorem routeOptions_edited :
    (d.edited e).routeOptions = d.routeOptions.map (Remark.moved e) := by
  unfold routeOptions
  rw [find_edited e d (by decide)]
  refine flatMap_map_image (fun call => ?_) _
  rw [routeMaker?_edited, optionsObject?_edited]
  cases d.routeMaker? call with
  | none => rfl
  | some function =>
    cases optionsObject? call with
    | none => rfl
    | some options => exact optionOrder_edited e d _ function options

/-! ## Hooks -/

@[simp] theorem hookCalled?_edited (hooks : List String) (n : Option Node) :
    (d.edited e).hookCalled? hooks (n.map (Node.edited e)) = d.hookCalled? hooks n := by
  cases n <;> simp [hookCalled?]

@[simp] theorem callsHook_edited (hooks : List String) (n : Option Node) :
    (d.edited e).callsHook hooks (n.map (Node.edited e)) = d.callsHook hooks n := by
  simp [callsHook]

@[simp] theorem isRendering_edited : (d.edited e).isRendering (n.edited e) = d.isRendering n := by
  simp [isRendering]

theorem renderedClients_edited :
    (d.edited e).renderedClients = d.renderedClients.map (Remark.moved e) := by
  unfold renderedClients
  rw [find_edited e d (by decide)]
  simp [List.filter_map, Option.bind_map, Option.any_map, Function.comp_def]

@[simp] theorem hookOf?_edited (hooks : List String) :
    (d.edited e).hookOf? hooks (n.edited e) = d.hookOf? hooks n := by
  unfold hookOf?
  rw [resolve?_edited]
  cases d.resolve? n with
  | none => rfl
  | some v => simp [Option.any_map]

theorem gatheringPatterns_edited :
    (d.edited e).gatheringPatterns (n.edited e) = (d.gatheringPatterns n).map (Node.edited e) := by
  unfold gatheringPatterns
  rw [Node.child?_edited, Node.operand?_edited]
  cases n.child? "name" with
  | none => rfl
  | some pattern =>
    cases n.operand? "value" with
    | none => rfl
    | some value =>
      have hcalls := fun hooks => callsHook_edited e d hooks (some value)
      simp only [Option.map_some] at hcalls ⊢
      simp only [hcalls, Node.hasRest_edited, Node.kind_edited, Node.parts_edited, hookOf?_edited,
        filter_map_image (Node.hasRest_edited e), apply_ite (List.map (Node.edited e)),
        List.map_nil, List.map_singleton]

theorem gatheredResults_edited :
    (d.edited e).gatheredResults = d.gatheredResults.map (Remark.moved e) := by
  unfold gatheredResults
  rw [find_edited e d (by decide), flatMap_map_image (gatheringPatterns_edited e d)]
  simp [Function.comp_def]

@[simp] theorem dependencyArray?_edited :
    dependencyArray? (n.edited e) = (dependencyArray? n).map (Node.edited e) := by
  unfold dependencyArray?
  rw [Node.arguments_edited]
  match n.arguments with
  | [] => rfl
  | [_] => rfl
  | _ :: last :: rest =>
    simp only [List.map_cons]
    rw [← List.map_cons, List.getLast?_map]
    simp [Option.filter_map, Function.comp_def]

theorem unstableIn_edited :
    (d.edited e).unstableIn (n.edited e) = (d.unstableIn n).map (Remark.moved e) := by
  unfold unstableIn
  rw [calleeName?_edited, dependencyArray?_edited]
  cases d.calleeName? n with
  | none => rfl
  | some hook =>
    cases dependencyArray? n with
    | none => rfl
    | some array =>
      simp only [Option.map_some]
      split
      · simp [List.filter_map, List.filterMap_map, List.map_filterMap, Function.comp_def]
      · rfl

theorem unstableDependencies_edited :
    (d.edited e).unstableDependencies = d.unstableDependencies.map (Remark.moved e) := by
  unfold unstableDependencies
  rw [find_edited e d (by decide), flatMap_map_image (unstableIn_edited e d)]

/-! ## Keys -/

end Document

/-- The key and the function of a query after an edit. -/
def Document.KeyedQuery.edited (e : Edit) (q : Document.KeyedQuery) : Document.KeyedQuery :=
  ⟨q.key.edited e, q.function.edited e, q.around.edited e⟩

namespace Document

variable (e : Edit) (d : Document) (n : Node)

theorem keyedQuery?_edited :
    (d.edited e).keyedQuery? (n.edited e) = (d.keyedQuery? n).map (KeyedQuery.edited e) := by
  unfold keyedQuery?
  rw [propertyValue_edited, propertyValue_edited, Node.enclosingFunction?_edited]
  cases (d.property n "queryKey").bind Property.value with
  | none => rfl
  | some key =>
    cases (d.property n "queryFn").bind Property.value with
    | none => rfl
    | some function =>
      cases n.enclosingFunction? with
      | none => rfl
      | some around =>
        simp only [Option.map_some, Node.unwrap_edited, Node.kind_edited, Node.isFunction_edited]
        split <;> rfl

@[simp] theorem namesInKey_edited (key : Node) :
    (d.edited e).namesInKey (key.edited e) = d.namesInKey key := by
  unfold namesInKey
  rw [Node.find_edited e (by decide)]
  simp [Function.comp_def]

@[simp] theorem isLocalDependency_edited (q : KeyedQuery) (use : Node) :
    (d.edited e).isLocalDependency (q.edited e) (use.edited e) = d.isLocalDependency q use := by
  simp [isLocalDependency, KeyedQuery.edited, Option.any_map]

@[simp] theorem missingFromKey_edited (options : QueryKeyOptions) (q : KeyedQuery) :
    (d.edited e).missingFromKey options (q.edited e) = d.missingFromKey options q := by
  have huses : ((d.edited e).reads (q.function.edited e)).filter (fun r =>
        !(d.namesInKey q.key ++ options.allowlist).contains ((d.edited e).text r)
          && (d.edited e).isLocalDependency (q.edited e) r) =
      ((d.reads q.function).filter fun r =>
        !(d.namesInKey q.key ++ options.allowlist).contains (d.text r)
          && d.isLocalDependency q r).map (Node.edited e) := by
    rw [reads_edited]
    exact filter_map_image (fun r => by rw [text_edited, isLocalDependency_edited]) _
  have hkey : (d.edited e).namesInKey (q.edited e).key = d.namesInKey q.key :=
    namesInKey_edited e d q.key
  unfold missingFromKey
  rw [hkey]
  dsimp only
  rw [KeyedQuery.edited] at huses ⊢
  rw [huses]
  simp [Function.comp_def]

theorem incompleteKeys_edited (options : QueryKeyOptions) :
    (d.edited e).incompleteKeys options = (d.incompleteKeys options).map (Remark.moved e) := by
  unfold incompleteKeys
  rw [find_edited e d (by decide), filterMap_map_image (keyedQuery?_edited e d)]
  refine filterMap_map_image (fun q => ?_) _
  simp only [missingFromKey_edited]
  split
  · rfl
  · exact congrArg some (remark_edited e d q.key _)

/-! ## Paths of routes -/

@[simp] theorem pathsIn_edited :
    (d.edited e).pathsIn (n.edited e) = (d.pathsIn n).map (Node.edited e) := by
  unfold pathsIn
  rw [libraryCallee?_edited, Node.firstArgument_edited]
  cases d.libraryCallee? Routing.library n with
  | none => rfl
  | some function =>
    cases n.arguments.head?.map Node.unwrap with
    | none => rfl
    | some first =>
      have hpath : (if Routing.pathFunctions.contains function then some (first.edited e)
          else if Routing.pathOptionFunctions.contains function && first.kind == "object" then
            (((d.edited e).property (first.edited e) "path").bind Property.value).map Node.unwrap
          else none) =
          (if Routing.pathFunctions.contains function then some first
          else if Routing.pathOptionFunctions.contains function && first.kind == "object" then
            ((d.property first "path").bind Property.value).map Node.unwrap
          else none).map (Node.edited e) := by
        rw [propertyValue_edited]
        split
        · rfl
        · split
          · simp [Function.comp_def]
          · rfl
      simp only [Option.map_some, Node.kind_edited, hpath, Option.filter_map, Function.comp_def,
        stringValue?_edited, Option.toList_map]

theorem parameterSpan_edited (offset : Nat) (path : String) (p : PathParameter) :
    (d.edited e).parameterSpan (offset + e.offset) path p =
      (d.parameterSpan offset path p).moved e := by
  have hbefore : ∀ k : Nat, ((offset + e.offset + k : Nat) : Int) =
      ((offset + k : Nat) : Int) + (e.offset : Int) := by
    intro k
    push_cast
    omega
  unfold parameterSpan
  dsimp only
  rw [hbefore, hbefore]
  exact SourceText.spanOf_edited e d.source _ _

theorem pathRemarks_edited :
    (d.edited e).pathRemarks (n.edited e) = (d.pathRemarks n).map (Remark.moved e) := by
  unfold pathRemarks
  rw [stringValue?_edited, Node.start_edited, Nat.add_right_comm]
  simp only [parameterSpan_edited, List.map_map]
  rfl

theorem routeParameters_edited :
    (d.edited e).routeParameters = d.routeParameters.map (Remark.moved e) := by
  unfold routeParameters
  rw [find_edited e d (by decide), flatMap_map_image (pathsIn_edited e d),
    flatMap_map_image (pathRemarks_edited e d)]

end Document

end CodeConventions
