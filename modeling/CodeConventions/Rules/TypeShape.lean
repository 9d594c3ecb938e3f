import CodeConventions.Function.Basic
import CodeConventions.Rules.Remark
import CodeConventions.Types.Mutability

/-!
# The shapes of types

Declared types must be read-only: each member of a declared object type, each declared type as a
whole, and the types of parameters, results, variables and properties.  Object types should also
declare their functions as properties and not as methods.
-/

namespace CodeConventions

/-- What the rule against method signatures lets pass. -/
structure SignatureOptions where
  ignoreIfReadonlyWrapped : Bool := false
  deriving DecidableEq, Repr

/-- How strictly types must be read-only. -/
inductive Enforcement where
  | readonlyShallow
  | off
  deriving DecidableEq, Repr

/-- How a family of types is judged. -/
structure TypeFamilyOptions where
  enforcement : Enforcement := .readonlyShallow
  ignoreNamePattern : List String := []
  deriving DecidableEq, Repr

/-- How the types of parameters, results and variables are judged. -/
structure WrittenTypeOptions where
  parameters : TypeFamilyOptions := {}
  returnTypes : TypeFamilyOptions := {}
  variableTypes : TypeFamilyOptions := {}
  deriving DecidableEq, Repr

/-- Which declared types are let pass. -/
structure DeclaredTypeOptions where
  identifiers : List String := []
  ignoreInterfaces : Bool := false
  deriving DecidableEq, Repr

/-- The kinds of nodes that declare a type. -/
def typeDeclarationKinds : List String := ["type_alias_declaration", "interface_declaration"]

namespace Node

/-- Going up from a shape, the nodes before this one belong to the declaration of a type. -/
def endsTypeDeclaration (n : Node) : Bool :=
  n.isFunction || n.isOneOf ["formal_parameters", "statement_block"]

/-- The shape is written in the declaration of a type. -/
def isDeclaredShape (shape : Node) : Bool :=
  (shape.ancestors.find? fun a => a.isOneOf typeDeclarationKinds || a.endsTypeDeclaration).any
    fun a => a.isOneOf typeDeclarationKinds

/-- The name of a pattern or a property that is a plain name. -/
def plainName? (n : Option Node) : Option Node :=
  n.filter fun n => n.isOneOf ["identifier", "property_identifier"]

end Node

namespace Document

/-- The object types. -/
def shapes (d : Document) : List Node := d.find shapeKinds

/-! ## Members -/

/-- The remarks about writable members of declared types. -/
def writableMembers (d : Document) : List Remark :=
  let members := (d.shapes.filter Node.isDeclaredShape).flatMap Node.parts
  (members.filter Node.isWritableMember).map fun m =>
    d.remark m "A readonly modifier is required."

/-- The node lies in an argument of the type `Readonly`. -/
def isReadonlyWrapped (d : Document) (n : Node) : Bool :=
  n.ancestors.any fun a => a.kind == "generic_type" && d.text? (a.child? "name") == "Readonly"

/-- The remarks about methods in object types. -/
def methodSignatures (d : Document) (options : SignatureOptions) : List Remark :=
  let methods := (d.shapes.flatMap Node.parts).filter fun m =>
    m.kind == "method_signature" && !(options.ignoreIfReadonlyWrapped && d.isReadonlyWrapped m)
  methods.map fun m => d.remark m "Use a property signature instead of a method signature."

/-! ## Written types -/

/-- The remarks about a type that is written for something with a name. -/
def writtenType (d : Document) (options : TypeFamilyOptions) (n : Node) (type : Option Node)
    (name : Option String) (message : String) : Remarks :=
  if options.enforcement = .off then .ok []
  else
    let ignored :=
      match name with
      | some s => matchesAny options.ignoreNamePattern s
      | none => .ok false
    ignored.map fun ignored =>
      if !ignored && type.bind d.permitsChange? == some true then [d.remark n message] else []

/-- The remarks about a node with an annotation, known by the name in a role. -/
def annotated (d : Document) (options : TypeFamilyOptions) (role message : String) (n : Node) :
    Remarks :=
  let name := (Node.plainName? (n.child? role)).map d.text
  d.writtenType options n (n.typeIn? "type") name message

/-- The remarks about the types of a function. -/
def functionTypes (d : Document) (options : WrittenTypeOptions) (fn : Node) : Remarks :=
  let message := "Parameter should be a readonly type."
  match remarksFor fn.writtenParameters (d.annotated options.parameters "pattern" message) with
  | .error crash => .error crash
  | .ok parameters =>
    match fn.child? "return_type", fn.typeIn? "return_type" with
    | some written, some type =>
      (d.writtenType options.returnTypes written (some type) (d.functionName? fn)
        "Return type should be a readonly type.").map (parameters ++ ·)
    | _, _ => .ok parameters

/-- The kinds of functions whose types are judged. -/
def typedFunctionKinds : List String :=
  ["function_declaration", "function_expression", "function", "arrow_function",
    "method_definition"]

/-- The remarks about the types of parameters, results, variables and properties. -/
def writtenTypes (d : Document) (options : WrittenTypeOptions) : Remarks := do
  let ofFunctions ← remarksFor (d.find typedFunctionKinds) (d.functionTypes options)
  let ofVariables ← remarksFor (d.find ["variable_declarator"])
    (d.annotated options.variableTypes "name" "Variable should be a readonly type.")
  let ofProperties ← remarksFor (d.find ["property_signature"])
    (d.annotated options.variableTypes "name" "Property should be a readonly type.")
  return ofFunctions ++ ofVariables ++ ofProperties

/-! ## Declared types -/

/-- What a declaration declares its name to be. -/
def declaredShape? (declaration : Node) : Option Node :=
  declaration.child? (if declaration.kind = "interface_declaration" then "body" else "value")

/-- What is wrong about a declared type: it permits change and its name does not say so, or the
other way round. -/
def declaredTypeFault? (name : String) (permitsChange : Bool) : Option String :=
  if isMutableTypeName name then
    if permitsChange then none else some s!"{name} is named as mutable but is fully readonly."
  else if permitsChange then some s!"{name} should be a fully readonly type."
  else none

/-- The remarks about the declaration of a type. -/
def declaredType (d : Document) (options : DeclaredTypeOptions) (declaration : Node) : Remarks :=
  if options.ignoreInterfaces && declaration.kind == "interface_declaration" then .ok []
  else
    let nameNode := declaration.child? "name"
    let name := d.text? nameNode
    match matchesAny options.identifiers name with
    | .error crash => .error crash
    | .ok true => .ok []
    | .ok false =>
      let permits := (declaredShape? declaration).bind d.permitsChange?
      match permits.bind (declaredTypeFault? name) with
      | some message => (d.remark? nameNode message).map fun r => [r]
      | none => .ok []

/-- The remarks about declared types that permit change, or only claim to. -/
def declaredTypes (d : Document) (options : DeclaredTypeOptions) : Remarks :=
  remarksFor (d.find typeDeclarationKinds) (d.declaredType options)

end Document

end CodeConventions
