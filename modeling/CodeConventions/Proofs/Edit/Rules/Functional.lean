import CodeConventions.Proofs.Edit.Markup
import CodeConventions.Rules.Binding
import CodeConventions.Rules.Mutation
import CodeConventions.Rules.Rejection
import CodeConventions.Rules.TypeShape

/-!
# The functional rules in edited documents

What these rules remark in an edited document are their remarks about the document itself, moved.
A rule that crashes for a pattern in its options or for a name that is not there does so before and
after the edit.
-/

namespace CodeConventions

namespace Document

variable (e : Edit) (d : Document) (n : Node)

/-! ## Bindings -/

@[simp] theorem declaringKeyword_edited :
    (d.edited e).declaringKeyword (n.edited e) = d.declaringKeyword n := by
  simp [declaringKeyword]

@[simp] theorem headKeyword?_edited :
    (d.edited e).headKeyword? (n.edited e) = d.headKeyword? n := by
  simp [headKeyword?, Function.comp_def]

@[simp] theorem isForInitializer_edited :
    isForInitializer (n.edited e) = isForInitializer n := by
  simp [isForInitializer, Option.any_map]

theorem reassignable_edited (options : ReassignableOptions) (keyword : String)
    (name : Option Node) :
    (d.edited e).reassignable options keyword (name.map (Node.edited e)) =
      Remarks.moved e (d.reassignable options keyword name) := by
  unfold reassignable
  rw [text?_edited, map_remark?_edited]
  cases matchesAny options.ignoreIdentifierPattern (d.text? name) with
  | error crash => rfl
  | ok ignored => cases ignored <;> rfl

theorem reassignableInStatement_edited (options : ReassignableOptions) :
    (d.edited e).reassignableInStatement options (n.edited e) =
      Remarks.moved e (d.reassignableInStatement options n) := by
  have hdeclarators : remarksFor (n.declarators.map (Node.edited e)) (fun v =>
        (d.edited e).reassignable options (d.declaringKeyword n) (v.child? "name")) =
      Remarks.moved e (remarksFor n.declarators fun v =>
        d.reassignable options (d.declaringKeyword n) (v.child? "name")) :=
    remarksFor_moved fun v _ => by rw [Node.child?_edited, reassignable_edited]
  simp only [reassignableInStatement, declaringKeyword_edited, isForInitializer_edited,
    Node.declarators_edited, hdeclarators]
  split
  · rfl
  · split <;> rfl

theorem reassignableInHead_edited (options : ReassignableOptions) :
    (d.edited e).reassignableInHead options (n.edited e) =
      Remarks.moved e (d.reassignableInHead options n) := by
  unfold reassignableInHead
  rw [headKeyword?_edited, Node.child?_edited]
  cases d.headKeyword? n with
  | none => rfl
  | some keyword =>
    cases n.child? "left" with
    | none => rfl
    | some left =>
      simp only [Option.map_some]
      split
      · rfl
      · exact reassignable_edited e d options keyword (some left)

theorem reassignableBindings_edited (options : ReassignableOptions) :
    (d.edited e).reassignableBindings options =
      Remarks.moved e (d.reassignableBindings options) := by
  unfold reassignableBindings
  rw [find_edited e d (by decide), find_edited e d (by decide),
    remarksFor_moved fun s _ => reassignableInStatement_edited e d s options,
    remarksFor_moved fun loop _ => reassignableInHead_edited e d loop options]
  cases remarksFor (d.find variableStatementKinds) (d.reassignableInStatement options) with
  | error crash => rfl
  | ok inStatements => exact Remarks.moved_append e inStatements _

/-! ## Exceptions and rejections -/

theorem throws_edited (options : ThrowOptions) :
    (d.edited e).throws options = (d.throws options).map (Remark.moved e) := by
  unfold throws
  rw [find_edited e d (by decide)]
  simp [List.filter_map, Option.any_map, Function.comp_def]

@[simp] theorem executor?_edited :
    (d.edited e).executor? (n.edited e) = (d.executor? n).map (Node.edited e) := by
  unfold executor?
  rw [Node.callee?_edited]
  cases n.callee? with
  | none => rfl
  | some c =>
    by_cases hname : d.text c = "Promise" <;>
      simp [hname, Option.filter_map, Function.comp_def]

@[simp] theorem rejector?_edited :
    rejector? (n.edited e) = (rejector? n).map (Node.edited e) := by
  simp [rejector?, Option.filter_map, Function.comp_def]

@[simp] theorem callsOf_edited (declaration root : Node) :
    (d.edited e).callsOf (declaration.edited e) (root.edited e) =
      (d.callsOf declaration root).map (Node.edited e) := by
  unfold callsOf
  rw [Node.find_edited e (by decide)]
  simp [List.filter_map, Option.any_map, Function.comp_def]

@[simp] theorem rejectionsIn_edited :
    (d.edited e).rejectionsIn (n.edited e) = (d.rejectionsIn n).map (Node.edited e) := by
  unfold rejectionsIn
  rw [executor?_edited]
  cases d.executor? n with
  | none => rfl
  | some executor =>
    simp only [Option.map_some, rejector?_edited]
    cases rejector? executor <;> simp

@[simp] theorem callsOfPath_edited (path : String) :
    (d.edited e).callsOfPath path = (d.callsOfPath path).map (Node.edited e) := by
  unfold callsOfPath
  rw [find_edited e d (by decide)]
  simp [List.filter_map, Option.bind_map, Function.comp_def]

theorem rejections_edited :
    (d.edited e).rejections = d.rejections.map (Remark.moved e) := by
  unfold rejections
  rw [find_edited e d (by decide)]
  simp [List.flatMap_map, List.map_flatMap, Function.comp_def]

/-! ## Changes to constants -/

@[simp] theorem isInsideClass_edited : (n.edited e).isInsideClass = n.isInsideClass := by
  simp [Node.isInsideClass, List.any_map, Function.comp_def]

theorem changedConstant?_edited (options : MutationOptions) (target : Option Node) :
    (d.edited e).changedConstant? options (target.map (Node.edited e)) =
      (d.changedConstant? options target).map (Option.map (Node.edited e)) := by
  have hroot : (target.map (Node.edited e)).bind Node.rootIdentifier? =
      (target.bind Node.rootIdentifier?).map (Node.edited e) := by
    cases target <;> simp
  unfold changedConstant?
  rw [hroot]
  cases target.bind Node.rootIdentifier? with
  | none => rfl
  | some root =>
    simp only [Option.map_some, text_edited, resolve?_edited, Option.filter_map, Function.comp_def,
      isConstant_edited]
    cases matchesAny options.ignoreIdentifierPattern (d.text root) with
    | error crash => rfl
    | ok ignored => cases ignored <;> rfl

@[simp] theorem isCollection_edited :
    (d.edited e).isCollection (n.edited e) = d.isCollection n := by
  simp [isCollection, Option.any_map]

@[simp] theorem isArray_edited : (d.edited e).isArray (n.edited e) = d.isArray n := by
  simp [isArray, Option.any_map, Option.bind_map]

@[simp] theorem changeTarget?_edited :
    (d.edited e).changeTarget? (n.edited e) = (d.changeTarget? n).map (Node.edited e) := by
  unfold changeTarget?
  rw [Node.kind_edited, operator_edited]
  by_cases hunary : n.kind = "unary_expression"
  · by_cases hdelete : d.operator n = "delete" <;> simp [hunary, hdelete]
  by_cases hupdate : n.kind = "update_expression" <;> simp [hunary, hupdate]

theorem memberChanges_edited (options : MutationOptions) :
    (d.edited e).memberChanges options (n.edited e) =
      Remarks.moved e (d.memberChanges options n) := by
  unfold memberChanges
  rw [changeTarget?_edited]
  cases d.changeTarget? n with
  | none => rfl
  | some target =>
    have hconstant := changedConstant?_edited e d options (some target)
    simp only [Option.map_some, Node.isOneOf_edited, isInsideClass_edited, Node.kind_edited]
      at hconstant ⊢
    rw [hconstant, Except.map_map]
    split
    · rfl
    · refine Remarks.map_moved (fun constant => ?_) _
      cases constant <;> simp

theorem assignedInto_edited (options : MutationOptions) :
    (d.edited e).assignedInto options (n.edited e) =
      Remarks.moved e (d.assignedInto options n) := by
  unfold assignedInto
  rw [Node.firstArgument_edited]
  cases n.arguments.head?.map Node.unwrap with
  | none => rfl
  | some target =>
    have hconstant := changedConstant?_edited e d options (some target)
    simp only [Option.map_some, Node.isOneOf_edited] at hconstant ⊢
    rw [hconstant, Except.map_map]
    split
    · refine Remarks.map_moved (fun constant => ?_) _
      cases constant <;> simp
    · rfl

theorem methodChanges_edited (options : MutationOptions) (call callee : Node) :
    (d.edited e).methodChanges options (call.edited e) (callee.edited e) =
      Remarks.moved e (d.methodChanges options call callee) := by
  simp only [methodChanges, Node.child?_edited, Node.operand?_edited, text?_edited,
    changedConstant?_edited, Option.any_map, Node.kind_edited]
  rw [Except.map_map]
  refine Remarks.map_moved (fun constant => ?_) _
  cases constant with
  | none => rfl
  | some c =>
    simp only [Option.map_some, Function.comp_apply, isCollection_edited, remark_edited,
      apply_ite (List.map (Remark.moved e)), List.map_nil, List.map_singleton]

theorem callChanges_edited (options : MutationOptions) :
    (d.edited e).callChanges options (n.edited e) =
      Remarks.moved e (d.callChanges options n) := by
  unfold callChanges
  rw [Node.callee?_edited]
  cases n.callee? with
  | none => rfl
  | some callee =>
    simp only [Option.map_some, isInsideClass_edited, memberPath?_edited, Node.kind_edited,
      assignedInto_edited, methodChanges_edited, apply_ite (Remarks.moved e), Remarks.moved_ok,
      List.map_nil]

theorem changesToConstants_edited (options : MutationOptions) :
    (d.edited e).changesToConstants options = Remarks.moved e (d.changesToConstants options) := by
  unfold changesToConstants
  rw [find_edited e d (by decide), find_edited e d (by decide),
    remarksFor_moved fun n _ => memberChanges_edited e d n options,
    remarksFor_moved fun n _ => callChanges_edited e d n options]
  cases remarksFor (d.find changingKinds) (d.memberChanges options) with
  | error crash => rfl
  | ok members => exact Remarks.moved_append e members _

end Document

/-! ## Types -/

namespace Node

variable (e : Edit) (n : Node)

@[simp] theorem endsTypeDeclaration_edited :
    (n.edited e).endsTypeDeclaration = n.endsTypeDeclaration := by
  simp [endsTypeDeclaration]

@[simp] theorem isDeclaredShape_edited : (n.edited e).isDeclaredShape = n.isDeclaredShape := by
  simp [isDeclaredShape, List.find?_map, Option.any_map]

@[simp] theorem plainName?_edited (n : Option Node) :
    plainName? (n.map (edited e)) = (plainName? n).map (edited e) := by
  simp [plainName?, Option.filter_map, Function.comp_def]

end Node

namespace Document

variable (e : Edit) (d : Document) (n : Node)

@[simp] theorem shapes_edited : (d.edited e).shapes = d.shapes.map (Node.edited e) :=
  find_edited e d (by decide)

theorem writableMembers_edited :
    (d.edited e).writableMembers = d.writableMembers.map (Remark.moved e) := by
  simp [writableMembers, List.filter_map, List.flatMap_map, ← List.map_flatMap, Function.comp_def]

@[simp] theorem isReadonlyWrapped_edited :
    (d.edited e).isReadonlyWrapped (n.edited e) = d.isReadonlyWrapped n := by
  simp [isReadonlyWrapped, List.any_map, Function.comp_def]

theorem methodSignatures_edited (options : SignatureOptions) :
    (d.edited e).methodSignatures options =
      (d.methodSignatures options).map (Remark.moved e) := by
  simp [methodSignatures, List.filter_map, List.flatMap_map, ← List.map_flatMap,
    Function.comp_def]

@[simp] theorem bind_permitsChange?_edited (type : Option Node) :
    (type.map (Node.edited e)).bind (d.edited e).permitsChange? = type.bind d.permitsChange? := by
  cases type <;> simp

theorem writtenType_edited (options : TypeFamilyOptions) (type : Option Node)
    (name : Option String) (message : String) :
    (d.edited e).writtenType options (n.edited e) (type.map (Node.edited e)) name message =
      Remarks.moved e (d.writtenType options n type name message) := by
  simp only [writtenType, bind_permitsChange?_edited, remark_edited]
  split
  · rfl
  · refine Remarks.map_moved (fun ignored => ?_) _
    split <;> rfl

theorem annotated_edited (options : TypeFamilyOptions) (role message : String) :
    (d.edited e).annotated options role message (n.edited e) =
      Remarks.moved e (d.annotated options role message n) := by
  have hname : ∀ o : Option Node, (o.map (Node.edited e)).map (d.edited e).text = o.map d.text
    | none => rfl
    | some m => congrArg some (text_edited e d m)
  simp only [annotated, Node.child?_edited, Node.plainName?_edited, Node.typeIn?_edited, hname,
    writtenType_edited]

theorem functionTypes_edited (options : WrittenTypeOptions) :
    (d.edited e).functionTypes options (n.edited e) =
      Remarks.moved e (d.functionTypes options n) := by
  simp only [functionTypes, Node.writtenParameters_edited, Node.child?_edited,
    Node.typeIn?_edited, functionName?_edited,
    remarksFor_moved fun p _ => annotated_edited e d p options.parameters "pattern" _]
  cases remarksFor n.writtenParameters (d.annotated options.parameters "pattern"
      "Parameter should be a readonly type.") with
  | error crash => rfl
  | ok parameters =>
    cases n.child? "return_type" with
    | none => rfl
    | some written =>
      cases n.typeIn? "return_type" with
      | none => rfl
      | some type =>
        have htype := writtenType_edited e d written options.returnTypes (some type)
          (d.functionName? n) "Return type should be a readonly type."
        simp only [Option.map_some, Remarks.moved_ok] at htype ⊢
        rw [htype, Remarks.moved_append]

theorem writtenTypes_edited (options : WrittenTypeOptions) :
    (d.edited e).writtenTypes options = Remarks.moved e (d.writtenTypes options) := by
  unfold writtenTypes
  rw [find_edited e d (by decide), find_edited e d (by decide), find_edited e d (by decide),
    remarksFor_moved fun fn _ => functionTypes_edited e d fn options,
    remarksFor_moved fun v _ => annotated_edited e d v options.variableTypes "name" _,
    remarksFor_moved fun m _ => annotated_edited e d m options.variableTypes "name" _]
  cases remarksFor (d.find typedFunctionKinds) (d.functionTypes options) with
  | error crash => rfl
  | ok ofFunctions =>
    cases remarksFor (d.find ["variable_declarator"]) (d.annotated options.variableTypes "name"
        "Variable should be a readonly type.") with
    | error crash => rfl
    | ok ofVariables =>
      cases remarksFor (d.find ["property_signature"]) (d.annotated options.variableTypes "name"
          "Property should be a readonly type.") with
      | error crash => rfl
      | ok ofProperties =>
        simp [bind, Except.bind, pure, Except.pure]

@[simp] theorem declaredShape?_edited :
    declaredShape? (n.edited e) = (declaredShape? n).map (Node.edited e) := by
  simp [declaredShape?]

theorem declaredType_edited (options : DeclaredTypeOptions) :
    (d.edited e).declaredType options (n.edited e) =
      Remarks.moved e (d.declaredType options n) := by
  simp only [declaredType, Node.kind_edited, Node.child?_edited, text?_edited,
    declaredShape?_edited, bind_permitsChange?_edited, map_remark?_edited]
  split
  · rfl
  · cases matchesAny options.identifiers (d.text? (n.child? "name")) with
    | error crash => rfl
    | ok ignored =>
      cases ignored with
      | true => rfl
      | false =>
        dsimp only
        cases ((declaredShape? n).bind d.permitsChange?).bind
          (declaredTypeFault? (d.text? (n.child? "name"))) <;> rfl

theorem declaredTypes_edited (options : DeclaredTypeOptions) :
    (d.edited e).declaredTypes options = Remarks.moved e (d.declaredTypes options) := by
  unfold declaredTypes
  rw [find_edited e d (by decide),
    remarksFor_moved fun n _ => declaredType_edited e d n options]

end Document

end CodeConventions
