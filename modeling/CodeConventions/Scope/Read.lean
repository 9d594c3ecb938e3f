import CodeConventions.Function.Basic

/-!
# Reads of names

The uses of names that read a value: all names but the callees of calls, the operands of
`instanceof`, the names that declarations, patterns and parameters introduce, and keys.
-/

namespace CodeConventions

/-- The kinds of nodes whose names are introduced and not read. -/
def introducingKinds : List String :=
  ["required_parameter", "optional_parameter", "object_pattern", "array_pattern", "rest_pattern",
    "pair_pattern", "object_assignment_pattern", "assignment_pattern"]

/-- The node is what stands in a role of another one. -/
def Node.isIn (n : Node) (parent : Node) (role : String) : Bool :=
  (parent.child? role).any n.same

/-- The node is the expression in a role of another one. -/
def Node.isOperandOf (n : Node) (parent : Node) (role : String) : Bool :=
  (parent.operand? role).any n.same

namespace Document

/-- The name is read where it stands. -/
def isRead (d : Document) (n : Node) : Bool :=
  if n.kind = "shorthand_property_identifier" then true
  else if n.kind = "identifier" then
    match n.climb? with
    | none => false
    | some p =>
      !((p.kind == "call_expression" && n.isOperandOf p "function")
        || (p.kind == "new_expression" && n.isOperandOf p "constructor")
        || (p.kind == "binary_expression" && d.operator p == "instanceof")
        || (p.kind == "variable_declarator" && n.isIn p "name")
        || p.isOneOf introducingKinds
        || (p.isFunction && !n.isOperandOf p "body"))
  else false

/-- The names that are read at and below a node, in document order. -/
def reads (d : Document) (root : Node) : List Node := root.nodes.filter d.isRead

end Document

end CodeConventions
