import CodeConventions.Proofs.Edit.Source
import CodeConventions.Proofs.Likeness.Scope
import CodeConventions.Scope.Constant
import CodeConventions.Scope.Library
import CodeConventions.Scope.Read

/-!
# Expressions and names in edited documents

Chains of members, calls, literals, the entries of object literals, and functions with their
parameters and names, all commute with an edit.  What is defined by recursion along a way down is
first written as an equation of one step, and the induction follows the way.

An edited document is like the document itself: the names that are imported are the same, a use of a
name resolves to the edit of what it resolves to, and what a constant stands for is the same value
and the edit of the same expression.  Names are read when they were.
-/

namespace CodeConventions

namespace Node

variable (e : Edit) (n : Node)

/-! ## Members and calls -/

theorem rootIdentifier?_eq :
    n.rootIdentifier? =
      if n.unwrap.isOneOf accessKinds then (n.unwrap.child? "object").bind rootIdentifier?
      else if n.unwrap.kind = "identifier" then some n.unwrap else none := by
  rw [rootIdentifier?]
  split
  · cases n.unwrap.child? "object" <;> rfl
  · rfl

@[simp] theorem rootIdentifier?_edited :
    (n.edited e).rootIdentifier? = n.rootIdentifier?.map (edited e) := by
  induction n using unwrapInduction with
  | step n ih =>
    rw [rootIdentifier?_eq, rootIdentifier?_eq n, unwrap_edited, isOneOf_edited, child?_edited,
      kind_edited]
    by_cases haccess : n.unwrap.isOneOf accessKinds = true
    · rw [if_pos haccess, if_pos haccess]
      cases ho : n.unwrap.child? "object" with
      | none => rfl
      | some o => exact ih o (mem_children_of_child? ho)
    · rw [if_neg haccess, if_neg haccess]
      split <;> rfl

@[simp] theorem callee?_edited : (n.edited e).callee? = n.callee?.map (edited e) := by
  simp [callee?]

@[simp] theorem arguments_edited : (n.edited e).arguments = n.arguments.map (edited e) := by
  unfold arguments
  rw [child?_edited]
  cases n.child? "arguments" with
  | none => rfl
  | some a => by_cases h : a.kind = "arguments" <;> simp [h]

theorem firstArgument_edited :
    (n.edited e).arguments.head?.map unwrap =
      (n.arguments.head?.map unwrap).map (edited e) := by
  simp [Function.comp_def]

end Node

namespace Document

variable (e : Edit) (d : Document) (n : Node)

@[simp] theorem memberPath?_edited : (d.edited e).memberPath? (n.edited e) = d.memberPath? n :=
  (e.likeness d).memberPath?_of_unwrap (Node.unwrap_edited e n)

@[simp] theorem calleeName?_edited :
    (d.edited e).calleeName? (n.edited e) = d.calleeName? n := by
  unfold calleeName?
  rw [Node.callee?_edited]
  cases n.callee? <;> simp [Function.comp_def]

@[simp] theorem callsNamed_edited (names : List String) :
    (d.edited e).callsNamed names (n.edited e) = (d.callsNamed names n).map (Node.edited e) := by
  unfold callsNamed
  rw [Node.find_edited e (by decide)]
  simp [List.filter_map, Function.comp_def]

@[simp] theorem operator_edited : (d.edited e).operator (n.edited e) = d.operator n := by
  simp [operator]

/-! ## Literals -/

@[simp] theorem stringValue?_edited :
    (d.edited e).stringValue? (n.edited e) = d.stringValue? n := by
  simp [stringValue?, List.any_map, Function.comp_def]

/-- The value of an expression commutes with an edit if the values of names do. -/
theorem valueWith_edited {name name' : Node → Option StaticValue}
    (hname : ∀ m, name' (m.edited e) = name m) :
    (d.edited e).valueWith name' (n.edited e) = d.valueWith name n :=
  (e.likeness d).valueWith_of_unwrap hname (Node.unwrap_edited e n)

@[simp] theorem literalValue?_edited :
    (d.edited e).literalValue? (n.edited e) = d.literalValue? n :=
  valueWith_edited e d n fun _ => rfl

/-! ## Object literals -/

@[simp] theorem keyName?_edited : (d.edited e).keyName? (n.edited e) = d.keyName? n := by
  simp [keyName?, Option.bind_map]

end Document

/-- The entry of an object literal after an edit. -/
def Property.edited (e : Edit) (p : Property) : Property :=
  ⟨p.name, p.key.map (Node.edited e), p.node.edited e, p.value.map (Node.edited e), p.spread⟩

namespace Property

variable (e : Edit) (p : Property)

@[simp] theorem name_edited : (p.edited e).name = p.name := rfl

@[simp] theorem key_edited : (p.edited e).key = p.key.map (Node.edited e) := rfl

@[simp] theorem node_edited : (p.edited e).node = p.node.edited e := rfl

@[simp] theorem value_edited : (p.edited e).value = p.value.map (Node.edited e) := rfl

@[simp] theorem spread_edited : (p.edited e).spread = p.spread := rfl

end Property

/-- What is misplaced in a list does not depend on what else is known of its items than their
ranks. -/
theorem misplaced_map {α β : Type} {rank : α → Option Nat} {rank' : β → Option Nat} {f : α → β}
    (hrank : ∀ a, rank' (f a) = rank a) (xs : List α) :
    misplaced rank' (xs.map f) = (misplaced rank xs).map (Prod.map f f) := by
  induction xs with
  | nil => rfl
  | cons x xs ih =>
    simp only [List.map_cons, misplaced, List.find?_map, Function.comp_def, hrank, ih,
      List.map_append]
    cases rank x with
    | none => rfl
    | some r =>
      simp only [Option.bind_some]
      cases xs.find? fun q => (rank q).any (· < r) <;> rfl

theorem misorderedProperties_edited (e : Edit) (order : PropertyOrder) (props : List Property) :
    misorderedProperties order (props.map (Property.edited e)) =
      (misorderedProperties order props).map (Prod.map (Property.edited e) (Property.edited e)) :=
  misplaced_map (fun _ => rfl) props

namespace Document

variable (e : Edit) (d : Document) (n : Node)

@[simp] theorem property?_edited :
    (d.edited e).property? (n.edited e) = (d.property? n).map (Property.edited e) := by
  unfold property?
  rw [Node.kind_edited]
  by_cases hpair : n.kind = "pair"
  · simp [hpair, Property.edited, Option.bind_map]
  by_cases hshorthand : n.kind = "shorthand_property_identifier"
  · simp [hshorthand, Property.edited]
  by_cases hmethod : n.kind = "method_definition"
  · simp [hmethod, Property.edited, Option.bind_map]
  by_cases hspread : n.kind = "spread_element"
  · simp [hspread, Property.edited, Option.filter_map, Function.comp_def]
  · simp [hpair, hshorthand, hmethod, hspread]

@[simp] theorem properties_edited :
    (d.edited e).properties (n.edited e) = (d.properties n).map (Property.edited e) := by
  simp [properties, List.filterMap_map, List.map_filterMap]

@[simp] theorem property_edited (name : String) :
    (d.edited e).property (n.edited e) name = (d.property n name).map (Property.edited e) := by
  simp [property, List.find?_map, Function.comp_def]

end Document

/-! ## Functions -/

namespace Node

variable (e : Edit) (n : Node)

@[simp] theorem isFunction_edited : (n.edited e).isFunction = n.isFunction := by
  simp [isFunction]

@[simp] theorem isAsync_edited : (n.edited e).isAsync = n.isAsync :=
  hasToken_edited e n (by decide)

@[simp] theorem parameterList_edited :
    (n.edited e).parameterList = n.parameterList.map (edited e) := by
  unfold parameterList
  rw [child?_edited]
  cases n.child? "parameters" <;> simp

@[simp] theorem parameters_edited : (n.edited e).parameters = n.parameters.map (edited e) := by
  unfold parameters
  rw [child?_edited]
  cases n.child? "parameter" with
  | some p => simp
  | none =>
    simp only [Option.map_none, parameterList_edited]
    refine filterMap_map_image (fun p => ?_) _
    simp only [isOneOf_edited, child?_edited, kind_edited]
    split
    · rfl
    · split <;> rfl

@[simp] theorem writtenParameters_edited :
    (n.edited e).writtenParameters = n.writtenParameters.map (edited e) := by
  unfold writtenParameters
  rw [child?_edited]
  cases n.child? "parameter" <;> simp [List.filter_map, Function.comp_def]

@[simp] theorem typeIn?_edited (role : String) :
    (n.edited e).typeIn? role = (n.typeIn? role).map (edited e) := by
  unfold typeIn?
  rw [child?_edited]
  cases n.child? role with
  | none => rfl
  | some a => by_cases h : a.kind = "type_annotation" <;> simp [h]

@[simp] theorem enclosingFunction?_edited :
    (n.edited e).enclosingFunction? = n.enclosingFunction?.map (edited e) := by
  simp [enclosingFunction?, List.find?_map]

/-- A test of nodes that bare comments fail chooses the same nodes of a function's body. -/
theorem filter_ownNodes_edited {p p' : Node → Bool} (hp : ∀ m, p' (m.edited e) = p m)
    (hcomment : ∀ m : Node, m.kind = "comment" → p m = false) :
    (n.edited e).ownNodes.filter p' = (n.ownNodes.filter p).map (edited e) := by
  unfold ownNodes
  rw [child?_edited]
  cases n.child? "body" with
  | none => rfl
  | some body => exact filter_openNodes_edited e hp hcomment _ body

end Node

namespace Document

variable (e : Edit) (d : Document) (n : Node)

@[simp] theorem functionName?_edited :
    (d.edited e).functionName? (n.edited e) = d.functionName? n :=
  (e.likeness d).functionName?_image n

end Document

/-! ## Patterns -/

namespace Node

variable (e : Edit) (n : Node)

@[simp] theorem hasRest_edited : (n.edited e).hasRest = n.hasRest := by
  simp [hasRest, List.any_map, Function.comp_def]

@[simp] theorem declarators_edited : (n.edited e).declarators = n.declarators.map (edited e) := by
  simp [declarators, List.filter_map, Function.comp_def]

end Node

/-! ## Imports -/

/-- The imported name after an edit. -/
def ImportBinding.edited (e : Edit) (b : ImportBinding) : ImportBinding :=
  { b with node := b.node.edited e }

namespace ImportBinding

variable (e : Edit) (b : ImportBinding)

@[simp] theorem name_edited : (b.edited e).name = b.name := rfl

@[simp] theorem imported_edited : (b.edited e).imported = b.imported := rfl

@[simp] theorem source_edited : (b.edited e).source = b.source := rfl

@[simp] theorem node_edited : (b.edited e).node = b.node.edited e := rfl

end ImportBinding

namespace Document

variable (e : Edit) (d : Document) (n : Node)

@[simp] theorem importStatements_edited :
    (d.edited e).importStatements = d.importStatements.map (Node.edited e) := by
  simp [importStatements, List.filter_map, Function.comp_def]

@[simp] theorem allImports_edited :
    (d.edited e).allImports = d.allImports.map (ImportBinding.edited e) :=
  (e.likeness d).allImports_image

@[simp] theorem imports_edited :
    (d.edited e).imports = d.imports.map (ImportBinding.edited e) := by
  unfold imports
  rw [allImports_edited, List.foldl_map]
  show List.foldl _ (List.map (ImportBinding.edited e) []) _ = _
  refine List.foldl_hom (List.map (ImportBinding.edited e)) fun kept b => ?_
  by_cases hkept : (kept.any fun k => k.name == b.name) = true
  · simp only [List.any_map, Function.comp_def, ImportBinding.name_edited, if_pos hkept]
  · simp only [List.any_map, Function.comp_def, ImportBinding.name_edited, if_neg hkept,
      List.map_append, List.map_singleton]

/-! ## Declarations and constants -/

@[simp] theorem resolve?_edited :
    (d.edited e).resolve? (n.edited e) = (d.resolve? n).map (Node.edited e) :=
  (e.likeness d).resolve?_image n

@[simp] theorem isConstant_edited : (d.edited e).isConstant (n.edited e) = d.isConstant n :=
  (e.likeness d).isConstant_image n

@[simp] theorem constantValue?_edited :
    (d.edited e).constantValue? (n.edited e) = (d.constantValue? n).map (Node.edited e) :=
  (e.likeness d).constantValue?_image n

@[simp] theorem staticValueWithin_edited (k : Nat) :
    (d.edited e).staticValueWithin k (n.edited e) = d.staticValueWithin k n := by
  induction k generalizing n with
  | zero => exact literalValue?_edited e d n
  | succ k ih =>
    refine valueWith_edited e d n fun use => ?_
    simp [Option.bind_map, ih]

@[simp] theorem staticValue?_edited :
    (d.edited e).staticValue? (n.edited e) = d.staticValue? n :=
  staticValueWithin_edited e d n traceLimit

@[simp] theorem trace_edited : (d.edited e).trace (n.edited e) = (d.trace n).edited e :=
  (e.likeness d).trace_image n

end Document

@[simp] theorem Node.declaredValue?_edited (e : Edit) (n : Node) :
    (n.edited e).declaredValue? = n.declaredValue?.map (Node.edited e) := by
  by_cases hkind : n.kind = "variable_declarator" <;> simp [declaredValue?, hkind]

/-! ## Libraries and reads -/

namespace Document

variable (e : Edit) (d : Document) (n : Node)

@[simp] theorem libraryName?_edited (library : Library) :
    (d.edited e).libraryName? library (n.edited e) = d.libraryName? library n :=
  (e.likeness d).libraryName?_image library n

@[simp] theorem libraryCallee?_edited (library : Library) :
    (d.edited e).libraryCallee? library (n.edited e) = d.libraryCallee? library n := by
  simp [libraryCallee?, Option.bind_map]

end Document

namespace Node

variable (e : Edit) (n parent : Node)

@[simp] theorem isIn_edited (role : String) :
    (n.edited e).isIn (parent.edited e) role = n.isIn parent role := by
  simp [isIn, Option.any_map]

@[simp] theorem isOperandOf_edited (role : String) :
    (n.edited e).isOperandOf (parent.edited e) role = n.isOperandOf parent role := by
  simp [isOperandOf, Option.any_map]

end Node

namespace Document

variable (e : Edit) (d : Document) (n : Node)

@[simp] theorem isRead_edited : (d.edited e).isRead (n.edited e) = d.isRead n := by
  unfold isRead
  rw [Node.kind_edited, Node.climb?_edited]
  cases n.climb? <;> simp

theorem isRead_of_comment (h : n.kind = "comment") : d.isRead n = false := by
  simp [isRead, h]

@[simp] theorem reads_edited :
    (d.edited e).reads (n.edited e) = (d.reads n).map (Node.edited e) :=
  Node.filter_nodes_edited e (isRead_edited e d) (isRead_of_comment d) n

end Document

end CodeConventions
