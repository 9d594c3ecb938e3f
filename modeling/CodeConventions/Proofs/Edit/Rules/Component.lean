import CodeConventions.Proofs.Edit.Markup
import CodeConventions.Rules.ComponentBody
import CodeConventions.Rules.EmptyElement
import CodeConventions.Rules.LibraryUse
import CodeConventions.Rules.Rendering
import CodeConventions.Rules.Undefined

/-!
# The rules on components and their library in edited documents

What these rules remark in an edited document are their remarks about the document itself, moved.
-/

namespace CodeConventions

namespace Document

variable (e : Edit) (d : Document) (n : Node)

/-! ## Bodies of components -/

@[simp] theorem isConditional_edited :
    (d.edited e).isConditional (n.edited e) = d.isConditional n := by
  simp [isConditional]

@[simp] theorem returnFault?_edited (last : Option Node) :
    (d.edited e).returnFault? (last.map (Node.edited e)) (n.edited e) = d.returnFault? last n := by
  simp [returnFault?, Option.any_map]

theorem returnsOf_edited :
    (d.edited e).returnsOf (n.edited e) = (d.returnsOf n).map (Remark.moved e) := by
  have hreturns : (n.edited e).ownNodes.filter (fun m => m.kind == "return_statement") =
      (n.ownNodes.filter fun m => m.kind == "return_statement").map (Node.edited e) :=
    Node.filter_ownNodes_edited e n (fun m => by rw [Node.kind_edited]) fun m hm => by
      rw [hm]
      rfl
  unfold returnsOf
  rw [Node.child?_edited]
  cases n.child? "body" with
  | none => rfl
  | some body =>
    simp only [Option.map_some, Node.kind_edited, hreturns, Node.parts_edited, List.getLast?_map,
      List.filterMap_map, isConditional_edited, Node.unwrap_edited, remark_edited]
    by_cases hblock : body.kind = "statement_block"
    · simp [hblock, List.map_filterMap, Function.comp_def]
    · by_cases hconditional : d.isConditional body = true <;> simp [hblock, hconditional]

theorem componentReturns_edited :
    (d.edited e).componentReturns = d.componentReturns.map (Remark.moved e) := by
  simp [componentReturns, List.flatMap_map, List.map_flatMap, returnsOf_edited]

@[simp] theorem patternsFor_edited (parameter : Node) :
    (d.edited e).patternsFor (n.edited e) (parameter.edited e) =
      (d.patternsFor n parameter).map (Node.edited e) := by
  have hvariables : (n.edited e).ownNodes.filter (fun m => m.kind == "variable_declarator") =
      (n.ownNodes.filter fun m => m.kind == "variable_declarator").map (Node.edited e) :=
    Node.filter_ownNodes_edited e n (fun m => by rw [Node.kind_edited]) fun m hm => by
      rw [hm]
      rfl
  unfold patternsFor
  rw [hvariables]
  refine filterMap_map_image (fun v => ?_) _
  simp only [Node.child?_edited, Node.operand?_edited]
  cases v.child? "name" with
  | none => rfl
  | some pattern =>
    cases v.operand? "value" with
    | none => rfl
    | some value =>
      simp only [Option.map_some, Node.kind_edited, resolve?_edited, Option.any_map,
        Node.same_edited]
      split <;> rfl

@[simp] theorem propsPatterns_edited :
    (d.edited e).propsPatterns (n.edited e) = (d.propsPatterns n).map (Node.edited e) := by
  unfold propsPatterns
  rw [Node.parameters_edited, List.head?_map]
  cases n.parameters.head? with
  | none => rfl
  | some props =>
    by_cases hobject : props.kind = "object_pattern"
    · simp [hobject]
    · by_cases hname : props.kind = "identifier" <;> simp [hobject, hname]

theorem destructuredComponents_edited :
    (d.edited e).destructuredComponents = d.destructuredComponents.map (Remark.moved e) := by
  simp [destructuredComponents, List.flatMap_map, List.map_flatMap, Function.comp_def]

/-! ## The library -/

@[simp] theorem dependencies?_edited :
    (d.edited e).dependencies? (n.edited e) = (d.dependencies? n).map (Node.edited e) := by
  unfold dependencies?
  rw [Node.arguments_edited]
  match n.arguments with
  | [] => rfl
  | [_] => rfl
  | _ :: _ :: _ :: _ => rfl
  | [callback, list] =>
    simp only [List.map_cons, List.map_nil, Node.kind_edited, trace_edited, Node.isFunction_edited,
      Node.parameters_edited, List.isEmpty_map]
    split
    · rfl
    · split <;> rfl

theorem dependencyLists_edited :
    (d.edited e).dependencyLists = d.dependencyLists.map (Remark.moved e) := by
  unfold dependencyLists
  rw [find_edited e d (by decide)]
  refine filterMap_map_image (fun call => ?_) _
  simp only [libraryCallee?_edited, dependencies?_edited]
  cases d.libraryCallee? Reactive.library call with
  | none => rfl
  | some name =>
    by_cases hfree : Reactive.dependencyFreeRunners.contains name = true
    · simp only [if_pos hfree, Option.map_map, Function.comp_def, remark_edited]
    · simp only [if_neg hfree, Option.map_none]

@[simp] theorem misplacedImport?_edited (b : ImportBinding) :
    (d.edited e).misplacedImport? (b.edited e) = (d.misplacedImport? b).map (Remark.moved e) := by
  have hmodule : properModule? (b.edited e) = properModule? b := rfl
  simp only [misplacedImport?, hmodule, ImportBinding.source_edited, ImportBinding.imported_edited,
    ImportBinding.node_edited, remark_edited, apply_ite (Option.map (Remark.moved e)),
    Option.map_none, Option.map_map, Function.comp_def]
  rfl

theorem misplacedImports_edited :
    (d.edited e).misplacedImports = d.misplacedImports.map (Remark.moved e) := by
  simp [misplacedImports, List.filterMap_map, List.map_filterMap]

theorem storeImports_edited :
    (d.edited e).storeImports = d.storeImports.map (Remark.moved e) := by
  simp [storeImports, List.filter_map, Option.bind_map, Function.comp_def]

theorem madeProxies_edited :
    (d.edited e).madeProxies = d.madeProxies.map (Remark.moved e) := by
  unfold madeProxies
  rw [find_edited e d (by decide), find_edited e d (by decide)]
  simp [List.filter_map, Option.bind_map, Option.any_map, Function.comp_def]

@[simp] theorem spreadObject?_edited :
    spreadObject? (n.edited e) = (spreadObject? n).map (Node.edited e) := by
  simp [spreadObject?, Option.bind_map, Option.map_bind, Function.comp_def]

theorem spreadAttribute?_edited :
    (d.edited e).spreadAttribute? (n.edited e) = (d.spreadAttribute? n).map (Remark.moved e) := by
  unfold spreadAttribute?
  rw [spreadObject?_edited]
  cases spreadObject? n with
  | none => rfl
  | some o =>
    by_cases hcall : o.kind = "call_expression"
    · simp [hcall]
    · by_cases hmember : o.kind = "member_expression" <;> simp [hcall, hmember]

theorem mergedFunctions_edited :
    (d.edited e).mergedFunctions = d.mergedFunctions.map (Remark.moved e) := by
  simp [mergedFunctions, List.filter_map, List.flatMap_map, ← List.map_flatMap, Function.comp_def]

theorem proxies_edited : (d.edited e).proxies = d.proxies.map (Remark.moved e) := by
  simp [proxies, storeImports_edited, madeProxies_edited, mergedFunctions_edited,
    List.flatMap_map, ← List.map_flatMap, List.filterMap_map, List.map_filterMap,
    spreadAttribute?_edited]

/-! ## Lists and conditions -/

@[simp] theorem mapper?_edited :
    (d.edited e).mapper? (n.edited e) = (d.mapper? n).map (Node.edited e) := by
  unfold mapper?
  rw [Node.kind_edited, Node.callee?_edited, Node.arguments_edited]
  split
  · cases n.callee? with
    | none => rfl
    | some callee =>
      match n.arguments with
      | [] => rfl
      | _ :: _ :: _ => rfl
      | [argument] =>
        simp only [Option.map_some, List.map_cons, List.map_nil, Node.kind_edited,
          Node.child?_edited, text?_edited, Node.unwrap_edited, Node.isFunction_edited]
        split
        · split <;> rfl
        · rfl
  · rfl

theorem mappedLists_edited :
    (d.edited e).mappedLists = d.mappedLists.map (Remark.moved e) := by
  simp [mappedLists, List.filterMap_map, List.map_filterMap, Function.comp_def]

@[simp] theorem isElement_edited (n : Option Node) :
    isElement (n.map (Node.edited e)) = isElement n := by
  simp [isElement, Option.any_map]

@[simp] theorem showsConditionally_edited :
    (d.edited e).showsConditionally (n.edited e) = d.showsConditionally n := by
  simp [showsConditionally]

@[simp] theorem shown?_edited : shown? (n.edited e) = (shown? n).map (Node.edited e) := by
  by_cases harrow : n.kind = "arrow_function" <;> simp [shown?, harrow]

theorem conditionalMarkup_edited :
    (d.edited e).conditionalMarkup = d.conditionalMarkup.map (Remark.moved e) := by
  have hshown : (d.contentExpressions.map (Node.edited e)).filterMap shown? =
      (d.contentExpressions.filterMap shown?).map (Node.edited e) := by
    simp [List.filterMap_map, List.map_filterMap]
  simp [conditionalMarkup, hshown, List.filter_map, Function.comp_def]

/-! ## Names without a declaration -/

@[simp] theorem isDefined_edited (options : UndefinedOptions) :
    (d.edited e).isDefined options (n.edited e) = d.isDefined options n := by
  simp [isDefined]

@[simp] theorem componentName?_edited :
    componentName? (n.edited e) = (componentName? n).map (Node.edited e) := by
  unfold componentName?
  rw [Node.child?_edited]
  cases n.child? "name" with
  | none => rfl
  | some name => by_cases hspace : name.kind = "jsx_namespace_name" <;> simp [hspace]

@[simp] theorem undefinedTag?_edited (options : UndefinedOptions) :
    (d.edited e).undefinedTag? options (n.edited e) =
      (d.undefinedTag? options n).map (Remark.moved e) := by
  unfold undefinedTag?
  rw [componentName?_edited]
  cases componentName? n with
  | none => rfl
  | some name =>
    simp only [Option.map_some, text_edited, isDefined_edited, remark_edited]
    split <;> rfl

theorem undefinedDirective_edited (options : UndefinedOptions) :
    (d.edited e).undefinedDirective options (n.edited e) =
      Remarks.moved e (d.undefinedDirective options n) := by
  unfold undefinedDirective
  rw [Node.firstPart?_edited]
  cases n.firstPart? with
  | none => rfl
  | some name =>
    simp only [Option.map_some, Node.kind_edited, Node.parts_edited]
    split
    · match name.parts with
      | [] => rfl
      | [_] => rfl
      | _ :: _ :: _ :: _ => rfl
      | [use, directive] =>
        simp only [List.map_cons, List.map_nil, text_edited, isDefined_edited, remark_edited]
        split <;> rfl
    · rfl

theorem undefinedNames_edited (options : UndefinedOptions) :
    (d.edited e).undefinedNames options = Remarks.moved e (d.undefinedNames options) := by
  unfold undefinedNames
  rw [tags_edited, List.flatMap_map, List.filterMap_map]
  simp only [Node.namedAttributes_edited, Function.comp_def, undefinedTag?_edited,
    ← List.map_flatMap, ← List.map_filterMap]
  rw [remarksFor_moved fun a _ => undefinedDirective_edited e d a options, Remarks.moved_append]

/-! ## Elements without children -/

@[simp] theorem closingTag?_edited :
    closingTag? (n.edited e) = (closingTag? n).map (Node.edited e) := by
  have hclosing : (n.edited e).children.find? (fun c => c.isNamed && c.kind == "jsx_closing_element")
      = (n.children.find? fun c => c.isNamed && c.kind == "jsx_closing_element").map
        (Node.edited e) :=
    Node.find?_children_edited e n (fun c => by simp) fun c hc => by simp [hc]
  unfold closingTag?
  rw [Node.child?_edited, hclosing]
  cases n.child? "close_tag" <;> rfl

@[simp] theorem canCloseItself_edited :
    (d.edited e).canCloseItself (n.edited e) = d.canCloseItself n := by
  unfold canCloseItself
  rw [Node.tag?_edited, closingTag?_edited]
  cases n.tag? with
  | none => rfl
  | some opening => cases closingTag? n <;> simp [edited]

theorem emptyElements_edited (options : EmptyElementOptions) :
    (d.edited e).emptyElements options = (d.emptyElements options).map (Remark.moved e) := by
  unfold emptyElements
  rw [find_edited e d (by decide)]
  simp [List.filter_map, Option.bind_map, Function.comp_def]

end Document

end CodeConventions
