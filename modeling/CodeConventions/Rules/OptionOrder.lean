import CodeConventions.Rules.Remark
import CodeConventions.Vocabulary.DataFetching

/-!
# The order of options

Some functions infer the types of their options from one another, from the first to the last, so
that the options must be written in an order.  Every option that should come after a later one is
remarked.
-/

namespace CodeConventions

namespace Document

/-- The object that a call is given as its first argument. -/
def optionsObject? (call : Node) : Option Node :=
  (call.arguments.head?.map Node.unwrap).filter fun o => o.kind == "object"

/-- What is said of an option that should come after another one. -/
def misplacedOption (function : String) (p other : Property) : String :=
  let name := p.name.getD ""
  let otherName := other.name.getD ""
  s!"Invalid order of properties for `{function}`: `{name}` should come after `{otherName}`."

/-- The remarks about the order of the options of a function. -/
def optionOrder (d : Document) (order : PropertyOrder) (function : String) (options : Node) :
    List Remark :=
  (misorderedProperties order (d.properties options)).map fun (p, other) =>
    d.remark (p.key.getD p.node) (misplacedOption function p other)

/-- The remarks about the options in the calls of some functions of the query client. -/
def fetchingOptions (d : Document) (functions : List String) (order : PropertyOrder) :
    List Remark :=
  (d.find ["call_expression"]).flatMap fun call =>
    match d.libraryCallee? Fetching.library call, optionsObject? call with
    | some function, some options =>
      if functions.contains function then d.optionOrder order function options else []
    | _, _ => []

/-- The remarks about the options of mutations. -/
def mutationOptions (d : Document) : List Remark :=
  d.fetchingOptions Fetching.mutationHooks Fetching.mutationOrder

/-- The remarks about the options of infinite queries. -/
def infiniteQueryOptions (d : Document) : List Remark :=
  d.fetchingOptions Fetching.infiniteQueryFunctions Fetching.infiniteQueryOrder

/-- The function that makes a route of the options of a call: the callee, or the callee of the
callee. -/
def routeMaker? (d : Document) (call : Node) : Option String :=
  match (d.libraryCallee? Routing.library call).filter Routing.directMakers.contains with
  | some function => some function
  | none =>
    match call.callee? with
    | none => none
    | some inner =>
      if inner.kind = "call_expression" then
        (d.libraryCallee? Routing.library inner).filter Routing.indirectMakers.contains
      else none

/-- The remarks about the options of routes. -/
def routeOptions (d : Document) : List Remark :=
  (d.find ["call_expression"]).flatMap fun call =>
    match d.routeMaker? call, optionsObject? call with
    | some function, some options => d.optionOrder Routing.routeOrder function options
    | _, _ => []

end Document

end CodeConventions
