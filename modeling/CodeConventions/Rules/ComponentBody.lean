import CodeConventions.Function.Component
import CodeConventions.Rules.Remark
import CodeConventions.Scope.Basic

/-!
# The bodies of components

A component runs once.  A return that is not the last statement, or that chooses between values,
decides only once what is shown; and taking the properties apart reads them only once.
-/

namespace CodeConventions

/-- The operators that choose between their operands. -/
def choosingOperators : List String := ["&&", "||", "??"]

namespace Document

/-- What is said of a return before the end of a component. -/
def earlyReturn : String :=
  "Early returns in Solid components break reactivity because the component function is not " ++
  "re-run. Use <Show /> or <Switch /> / <Match /> instead."

/-- What is said of a return that chooses between values. -/
def conditionalReturn : String :=
  "Solid components run once, so a conditional return breaks reactivity. Move the condition " ++
  "inside a JSX element, such as a fragment or <Show />."

/-- What is said of properties that are taken apart. -/
def destructuredProps : String :=
  "Destructuring component props breaks Solid's reactivity; use property access instead."

/-- The value of the expression is one of several. -/
def isConditional (d : Document) (n : Node) : Bool :=
  let m := n.unwrap
  m.kind == "ternary_expression" ||
    (m.kind == "binary_expression" && choosingOperators.contains (d.operator m))

/-- What is wrong about a return in a body whose last statement is given. -/
def returnFault? (d : Document) (last : Option Node) (statement : Node) : Option String :=
  if !last.any statement.same then some earlyReturn
  else if statement.firstPart?.any d.isConditional then some conditionalReturn
  else none

/-- The remarks about what a component returns. -/
def returnsOf (d : Document) (fn : Node) : List Remark :=
  match fn.child? "body" with
  | none => []
  | some body =>
    if body.kind = "statement_block" then
      let returns := fn.ownNodes.filter fun n => n.kind == "return_statement"
      returns.filterMap fun r => (d.returnFault? body.parts.getLast? r).map (d.remark r)
    else if d.isConditional body then [d.remark body.unwrap conditionalReturn]
    else []

/-- The remarks about what components return. -/
def componentReturns (d : Document) : List Remark := d.components.flatMap d.returnsOf

/-- The patterns in a component's own body that take a parameter apart. -/
def patternsFor (d : Document) (fn parameter : Node) : List Node :=
  (fn.ownNodes.filter fun n => n.kind == "variable_declarator").filterMap fun v =>
    match v.child? "name", v.operand? "value" with
    | some pattern, some value =>
      if pattern.kind = "object_pattern" && value.kind == "identifier"
          && (d.resolve? value).any parameter.same then
        some pattern
      else none
    | _, _ => none

/-- The patterns with which a component takes its properties apart. -/
def propsPatterns (d : Document) (fn : Node) : List Node :=
  match fn.parameters.head? with
  | none => []
  | some props =>
    if props.kind = "object_pattern" then [props]
    else if props.kind = "identifier" then d.patternsFor fn props
    else []

/-- The remarks about properties that are taken apart. -/
def destructuredComponents (d : Document) : List Remark :=
  (d.components.flatMap d.propsPatterns).map fun p => d.remark p destructuredProps

end Document

end CodeConventions
