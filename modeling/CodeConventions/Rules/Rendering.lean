import CodeConventions.Expression.Member
import CodeConventions.Function.Basic
import CodeConventions.Markup.Basic
import CodeConventions.Rules.Remark

/-!
# Lists and conditions in markup

Mapping an array to markup makes all of its elements anew when the array changes, and choosing
between markup by an operator makes the chosen one anew.  There are components for both.
-/

namespace CodeConventions

namespace Document

/-- What is said of a list of markup made by a function with some parameters. -/
def mappedList (parameters : Nat) : String :=
  let components := if parameters > 1 then "`<For />` or `<Index />`" else "`<For />`"
  let purpose := if parameters > 1 then "for rendering lists" else "for efficiently rendering lists"
  s!"Use Solid's {components} component {purpose}. Array#map causes DOM elements to be recreated."

/-- The function that an expression maps the items of a list by. -/
def mapper? (d : Document) (n : Node) : Option Node :=
  if n.kind = "call_expression" then
    match n.callee?, n.arguments with
    | some callee, [argument] =>
      if callee.kind = "member_expression" && d.text? (callee.child? "property") == "map" then
        if argument.unwrap.isFunction then some argument.unwrap else none
      else none
    | _, _ => none
  else none

/-- The remarks about lists made by mapping. -/
def mappedLists (d : Document) : List Remark :=
  d.contentExpressions.filterMap fun n =>
    (d.mapper? n).map fun f => d.remark n (mappedList f.parameters.length)

/-- The node is an element of the markup, without wrappers. -/
def isElement (n : Option Node) : Bool := n.any fun n => n.isOneOf elementKinds

/-- The expression shows markup under a condition. -/
def showsConditionally (d : Document) (n : Node) : Bool :=
  if n.kind = "binary_expression" then
    d.operator n == "&&" && isElement (n.operand? "right")
  else if n.kind = "ternary_expression" then
    isElement (n.operand? "consequence") || isElement (n.operand? "alternative")
  else false

/-- What is shown by an expression among children: the body of an arrow function, or the expression
itself. -/
def shown? (n : Node) : Option Node :=
  if n.kind = "arrow_function" then n.operand? "body" else some n

/-- The remarks about markup under a condition. -/
def conditionalMarkup (d : Document) : List Remark :=
  let shown := (d.contentExpressions.filterMap shown?).filter fun n => d.showsConditionally n.unwrap
  shown.map fun n =>
    d.remark n "Use Solid's `<Show />` component for conditionally showing content."

end Document

end CodeConventions
