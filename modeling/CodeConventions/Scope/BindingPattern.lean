import CodeConventions.Tree.Basic

/-!
# Binding patterns

The names that a pattern binds.  A pattern is a name, or it takes a value apart: the elements of an
array, the members of an object, a rest.  A default value stands beside the pattern that it is the
default of, and only that pattern binds.
-/

namespace CodeConventions

/-- The kinds of patterns that are a name. -/
def namePatternKinds : List String := ["identifier", "shorthand_property_identifier_pattern"]

/-- The kinds of patterns whose parts are patterns. -/
def partPatternKinds : List String := ["object_pattern", "array_pattern", "rest_pattern"]

/-- The role of the one part that binds, in the kinds of patterns that have such a part. -/
def bindingRole? (kind : String) : Option String :=
  if kind = "required_parameter" || kind = "optional_parameter" then some "pattern"
  else if kind = "object_assignment_pattern" || kind = "assignment_pattern" then some "left"
  else if kind = "pair_pattern" then some "value"
  else none

namespace ParseTree

mutual

/-- The names that a pattern binds, in document order. -/
def boundNames (above : List ParseTree) : ParseTree → List Node
  | .node l cs =>
    if namePatternKinds.contains l.kind then [⟨.node l cs, above⟩]
    else
      match bindingRole? l.kind with
      | some role => boundNamesInRole role (.node l cs :: above) cs
      | none =>
        if partPatternKinds.contains l.kind then boundNamesOfAll (.node l cs :: above) cs else []

/-- The names bound by the first tree in a role. -/
def boundNamesInRole (role : String) (above : List ParseTree) : List ParseTree → List Node
  | [] => []
  | c :: cs =>
    if c.label.field == some role then boundNames above c else boundNamesInRole role above cs

/-- The names bound by several patterns side by side. -/
def boundNamesOfAll (above : List ParseTree) : List ParseTree → List Node
  | [] => []
  | c :: cs => (if c.isSignificant then boundNames above c else []) ++ boundNamesOfAll above cs

end

end ParseTree

namespace Node

/-- The names that a pattern binds, in document order. -/
def boundNames (n : Node) : List Node := n.tree.boundNames n.above

/-- The names that a pattern binds, if there is a pattern. -/
def boundNames? (n : Option Node) : List Node :=
  match n with
  | some n => n.boundNames
  | none => []

/-- An object pattern that gathers the remaining members. -/
def hasRest (n : Node) : Bool :=
  n.kind == "object_pattern" && n.parts.any fun p => p.kind == "rest_pattern"

end Node

end CodeConventions
