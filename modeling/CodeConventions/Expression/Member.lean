import CodeConventions.Tree.Document

/-!
# Members and calls

Chains such as `a.b.c`, written out as a dotted path or followed down to the name at their base,
and calls with their callee and their arguments.  Wrappers never matter here.
-/

namespace CodeConventions

namespace Node

/-- The kinds of nodes that reach into the value of another expression. -/
def accessKinds : List String := ["member_expression", "subscript_expression"]

/-- The name at the base of a chain of members and subscripts. -/
def rootIdentifier? (n : Node) : Option Node :=
  let m := n.unwrap
  if m.isOneOf accessKinds then
    match _h : m.child? "object" with
    | some o => rootIdentifier? o
    | none => none
  else if m.kind = "identifier" then some m
  else none
termination_by n.size
decreasing_by
  exact Nat.lt_of_lt_of_le (size_child?_lt (by assumption)) n.size_unwrap_le

/-- What a call calls. -/
def callee? (call : Node) : Option Node :=
  call.operand? (if call.kind = "new_expression" then "constructor" else "function")

/-- The arguments of a call. -/
def arguments (call : Node) : List Node :=
  match call.child? "arguments" with
  | some a => if a.kind = "arguments" then a.parts else []
  | none => []

end Node

namespace Document

/-- The path of a chain of members that begins with a name or with `this`. -/
def memberPath? (d : Document) (n : Node) : Option String :=
  let m := n.unwrap
  if m.kind = "identifier" || m.kind = "this" then some (d.text m)
  else if m.kind = "member_expression" then
    match _h : m.child? "object" with
    | none => none
    | some o =>
      match memberPath? d o, m.child? "property" with
      | some path, some p => some s!"{path}.{d.text p}"
      | _, _ => none
  else none
termination_by n.size
decreasing_by
  exact Nat.lt_of_lt_of_le (Node.size_child?_lt (by assumption)) n.size_unwrap_le

/-- The name of what a call calls: the last one of a path. -/
def calleeName? (d : Document) (call : Node) : Option String :=
  match call.callee? with
  | none => none
  | some c =>
    if c.kind = "identifier" then some (d.text c)
    else if c.kind = "member_expression" then (c.child? "property").map d.text
    else none

/-- The calls below a node whose callee has one of the names. -/
def callsNamed (d : Document) (names : List String) (root : Node) : List Node :=
  (root.find ["call_expression"]).filter fun c => (d.calleeName? c).any names.contains

/-- The operator of an expression. -/
def operator (d : Document) (n : Node) : String := d.text? (n.child? "operator")

end Document

end CodeConventions
