import CodeConventions.Expression.ObjectLiteral

/-!
# Functions

The kinds of nodes that are functions, their parameters, and the names by which they are known: a
name of their own, or the name of the variable, property or target they are the value of.
-/

namespace CodeConventions

/-- The kinds of nodes that are functions. -/
def functionKinds : List String :=
  ["function_declaration", "function_expression", "function", "arrow_function",
    "method_definition", "generator_function_declaration", "generator_function"]

namespace Node

/-- The node is a function. -/
def isFunction (n : Node) : Bool := n.isOneOf functionKinds

/-- The function is marked as asynchronous. -/
def isAsync (n : Node) : Bool := n.hasToken "async"

/-- The kinds of parameters that carry annotations around a pattern. -/
def parameterKinds : List String := ["required_parameter", "optional_parameter"]

/-- The parts of the parameter list of a function. -/
def parameterList (fn : Node) : List Node :=
  match fn.child? "parameters" with
  | some ps => ps.parts
  | none => []

/-- The patterns of a function's parameters, without annotations. -/
def parameters (fn : Node) : List Node :=
  match fn.child? "parameter" with
  | some p => [p]
  | none =>
    fn.parameterList.filterMap fun p =>
      if p.isOneOf parameterKinds then p.child? "pattern"
      else if p.kind = "this" then none
      else some p

/-- The parameters of a function as written, with annotations. -/
def writtenParameters (fn : Node) : List Node :=
  match fn.child? "parameter" with
  | some p => [p]
  | none => fn.parameterList.filter fun p => p.isOneOf parameterKinds

/-- The type in a role, without the annotation around it. -/
def typeIn? (n : Node) (role : String) : Option Node :=
  match n.child? role with
  | none => none
  | some a => if a.kind = "type_annotation" then a.firstPart? else some a

/-- The innermost function around a node. -/
def enclosingFunction? (n : Node) : Option Node := n.ancestors.find? isFunction

/-- The nodes of a function's body, without what lies inside nested functions. -/
def ownNodes (fn : Node) : List Node :=
  match fn.child? "body" with
  | some body => body.openNodes functionKinds.contains
  | none => []

end Node

namespace Document

/-- The name of a function, or of what it is the value of. -/
def functionName? (d : Document) (fn : Node) : Option String :=
  match fn.child? "name" with
  | some name => some (d.text name)
  | none =>
    match fn.climb? with
    | none => none
    | some parent =>
      if parent.kind = "variable_declarator" then
        match parent.child? "name" with
        | some target => if target.kind = "identifier" then some (d.text target) else none
        | none => none
      else if parent.kind = "pair" then (parent.child? "key").bind d.keyName?
      else if parent.kind = "assignment_expression" then
        (parent.child? "left").bind d.memberPath?
      else none

end Document

end CodeConventions
