import CodeConventions.Rules.Remark
import CodeConventions.Scope.Constant
import CodeConventions.Vocabulary.Functional

/-!
# Changes to constants

A name declared by `const` cannot be reassigned, but what it stands for can be changed: by assigning
to a member, by deleting one, by `Object.assign`, or by a method that changes its receiver.  Copies
made by spreading are new values and are never remarked.
-/

namespace CodeConventions

/-- What the rule against changes lets pass. -/
structure MutationOptions where
  ignoreIdentifierPattern : List String := []
  ignoreClasses : Bool := false
  ignoreMapsAndSets : Bool := false
  deriving DecidableEq, Repr

/-- The kinds of nodes that are classes. -/
def classKinds : List String :=
  ["class_declaration", "abstract_class_declaration", "class", "class_body"]

/-- The kinds of expressions that change what they are applied to. -/
def changingKinds : List String :=
  ["assignment_expression", "augmented_assignment_expression", "update_expression",
    "unary_expression"]

/-- The node lies inside a class. -/
def Node.isInsideClass (n : Node) : Bool := n.ancestors.any fun a => a.isOneOf classKinds

namespace Document

/-- What is said of a change to a member. -/
def memberChange : String := "Modifying properties of existing object not allowed."

/-- What is said of a change to an array. -/
def arrayChange : String := "Modifying an array is not allowed."

/-- What is said of a change to a map or a set. -/
def collectionChange : String := "Modifying a map or set is not allowed."

/-- The constant at the base of an expression, unless its name matches a pattern of the
options. -/
def changedConstant? (d : Document) (options : MutationOptions) (target : Option Node) :
    Except Crash (Option Node) :=
  match target.bind Node.rootIdentifier? with
  | none => .ok none
  | some root =>
    (matchesAny options.ignoreIdentifierPattern (d.text root)).map fun ignored =>
      if ignored then none else (d.resolve? root).filter d.isConstant

/-- The constant is declared as a new map or set. -/
def isCollection (d : Document) (declaration : Node) : Bool :=
  declaration.declaredValue?.any fun v =>
    v.kind == "new_expression" &&
      v.callee?.any fun c => collectionConstructors.contains (d.text c)

/-- The constant is declared as an array. -/
def isArray (d : Document) (declaration : Node) : Bool :=
  declaration.declaredValue?.any fun v =>
    v.kind == "array" ||
      (v.isOneOf ["new_expression", "call_expression"] &&
        (v.callee?.bind d.memberPath?).any arrayMakers.contains)

/-- What an expression changes, if it changes anything. -/
def changeTarget? (d : Document) (n : Node) : Option Node :=
  if n.kind = "unary_expression" then
    if d.operator n = "delete" then n.operand? "argument" else none
  else if n.kind = "update_expression" then n.operand? "argument"
  else n.operand? "left"

/-- The remarks about an expression that may change a member of a constant. -/
def memberChanges (d : Document) (options : MutationOptions) (n : Node) : Remarks :=
  match d.changeTarget? n with
  | none => .ok []
  | some target =>
    if !target.isOneOf Node.accessKinds || (options.ignoreClasses && n.isInsideClass) then .ok []
    else
      (d.changedConstant? options (some target)).map fun constant =>
        match constant with
        | none => []
        | some c =>
          let indexed := target.kind == "subscript_expression" && d.isArray c
          [d.remark n (if indexed then arrayChange else memberChange)]

/-- The remarks about a call of `Object.assign`. -/
def assignedInto (d : Document) (options : MutationOptions) (call : Node) : Remarks :=
  match call.arguments.head?.map Node.unwrap with
  | none => .ok []
  | some target =>
    if target.isOneOf ["identifier", "member_expression"] then
      (d.changedConstant? options (some target)).map fun constant =>
        if constant.isSome then [d.remark call memberChange] else []
    else .ok []

/-- The remarks about a call of a method. -/
def methodChanges (d : Document) (options : MutationOptions) (call callee : Node) : Remarks :=
  let method := d.text? (callee.child? "property")
  let receiver := callee.operand? "object"
  (d.changedConstant? options receiver).map fun constant =>
    match constant with
    | none => []
    | some c =>
      -- the methods of arrays mean something else on a map or a set
      if d.isCollection c then
        if !options.ignoreMapsAndSets && collectionMutators.contains method
            && receiver.any fun r => r.kind == "identifier" then
          [d.remark call collectionChange]
        else []
      else if arrayMutators.contains method then [d.remark call arrayChange]
      else []

/-- The remarks about a call. -/
def callChanges (d : Document) (options : MutationOptions) (call : Node) : Remarks :=
  match call.callee? with
  | none => .ok []
  | some callee =>
    if options.ignoreClasses && call.isInsideClass then .ok []
    else if d.memberPath? callee = some "Object.assign" then d.assignedInto options call
    else if callee.kind = "member_expression" then d.methodChanges options call callee
    else .ok []

/-- The remarks about changes to constants. -/
def changesToConstants (d : Document) (options : MutationOptions) : Remarks :=
  match remarksFor (d.find changingKinds) (d.memberChanges options) with
  | .error crash => .error crash
  | .ok members =>
    (remarksFor (d.find ["call_expression"]) (d.callChanges options)).map (members ++ ·)

end Document

end CodeConventions
