import CodeConventions.Function.Component
import CodeConventions.Rules.Remark
import CodeConventions.Scope.BindingPattern
import CodeConventions.Scope.Read
import CodeConventions.Vocabulary.DataFetching

/-!
# The use of queries

A query client is made once.  The result of a query is a new object each time, so it must not be
passed on as a whole: not by gathering its remaining members, and not among dependencies.  The key
of a query must name everything local that the query depends on.
-/

namespace CodeConventions

/-- The names that a key need not hold. -/
structure QueryKeyOptions where
  allowlist : List String := []
  deriving DecidableEq, Repr

namespace Document

/-- The hook of the query client that an expression calls, if it is one of those given. -/
def hookCalled? (d : Document) (hooks : List String) (n : Option Node) : Option String :=
  match n with
  | none => none
  | some n =>
    let m := n.unwrap
    if m.kind = "call_expression" then
      (d.libraryCallee? Fetching.library m).filter hooks.contains
    else none

/-- The expression calls one of the hooks. -/
def callsHook (d : Document) (hooks : List String) (n : Option Node) : Bool :=
  (d.hookCalled? hooks n).isSome

/-! ## Clients -/

/-- What is said of a client that is made again and again. -/
def unstableClient : String :=
  "QueryClient is not stable. It should be created outside the component or hook body."

/-- The function makes its values anew whenever it renders. -/
def isRendering (d : Document) (fn : Node) : Bool := !fn.isAsync && d.isHookOrComponent fn

/-- The remarks about clients that are made in components and hooks. -/
def renderedClients (d : Document) : List Remark :=
  let found := (d.find ["new_expression"]).filter fun c =>
    c.callee?.bind (d.libraryName? Fetching.library) == some Fetching.clientClass
      && c.enclosingFunction?.any d.isRendering
  found.map fun c => d.remark c unstableClient

/-! ## Results taken apart -/

/-- What is said of a pattern that gathers the members of a result. -/
def gatheredResult : String :=
  "Object rest destructuring on a query will observe all changes to the query, " ++
  "leading to excessive re-renders."

/-- The name is that of a variable declared, under a plain name, with a call of one of the
hooks; the hook. -/
def hookOf? (d : Document) (hooks : List String) (name : Node) : Option String :=
  match d.resolve? name with
  | none => none
  | some v =>
    if v.kind = "variable_declarator" && (v.child? "name").any fun p => p.kind == "identifier" then
      d.hookCalled? hooks (v.child? "value")
    else none

/-- The patterns of a declaration that gather the members of a result. -/
def gatheringPatterns (d : Document) (v : Node) : List Node :=
  match v.child? "name", v.operand? "value" with
  | some pattern, some value =>
    if d.callsHook Fetching.queryHooks (some value) then
      if pattern.hasRest then [pattern] else []
    else if d.callsHook Fetching.multiQueryHooks (some value) then
      if pattern.kind = "array_pattern" then pattern.parts.filter Node.hasRest else []
    else if value.kind = "identifier" && pattern.hasRest
        && (d.hookOf? Fetching.queryHooks value).isSome then
      [pattern]
    else []
  | _, _ => []

/-- The remarks about patterns that gather the members of a result. -/
def gatheredResults (d : Document) : List Remark :=
  ((d.find ["variable_declarator"]).flatMap d.gatheringPatterns).map fun p =>
    d.remark p gatheredResult

/-! ## Results as dependencies -/

/-- What is said of a result among the dependencies of a hook. -/
def unstableDependency (result hook : String) : String :=
  s!"The result of {result} is not referentially stable, so don't pass it directly into the " ++
  s!"dependencies array of {hook}. Instead, destructure the return value of {result} and pass " ++
  s!"the destructured values into the dependency array of {hook}."

/-- The last of several arguments, when it is an array. -/
def dependencyArray? (call : Node) : Option Node :=
  match call.arguments with
  | _ :: last :: rest =>
    (((last :: rest).getLast?).map Node.unwrap).filter fun a => a.kind == "array"
  | _ => none

/-- The remarks about results among the dependencies in a call. -/
def unstableIn (d : Document) (call : Node) : List Remark :=
  match d.calleeName? call, dependencyArray? call with
  | some hook, some array =>
    if Fetching.dependencyHooks.contains hook then
      let names := (array.parts.map Node.unwrap).filter fun e => e.kind == "identifier"
      names.filterMap fun e => (d.hookOf? Fetching.resultHooks e).map fun result =>
        d.remark e (unstableDependency result hook)
    else []
  | _, _ => []

/-- The remarks about results among dependencies. -/
def unstableDependencies (d : Document) : List Remark :=
  (d.find ["call_expression"]).flatMap d.unstableIn

/-! ## Keys -/

/-- A key and the function whose result it stands for. -/
structure KeyedQuery where
  key : Node
  function : Node
  /-- The function around both. -/
  around : Node

/-- The key and the function of a query that is written in a function. -/
def keyedQuery? (d : Document) (object : Node) : Option KeyedQuery :=
  match (d.property object "queryKey").bind Property.value,
      (d.property object "queryFn").bind Property.value, object.enclosingFunction? with
  | some key, some function, some around =>
    if key.unwrap.kind = "array" && function.unwrap.isFunction then
      some ⟨key.unwrap, function.unwrap, around⟩
    else none
  | _, _, _ => none

/-- The names in a key. -/
def namesInKey (d : Document) (key : Node) : List String :=
  (key.find ["identifier", "shorthand_property_identifier"]).map d.text

/-- The name is declared around the query and not in it. -/
def isLocalDependency (d : Document) (q : KeyedQuery) (use : Node) : Bool :=
  (d.resolve? use).any fun declaration =>
    -- what the function declares itself is no dependency of the query
    !q.function.contains declaration && q.around.contains declaration

/-- The names that a key should hold and does not, in the order of their first use. -/
def missingFromKey (d : Document) (options : QueryKeyOptions) (q : KeyedQuery) : List String :=
  let present := d.namesInKey q.key ++ options.allowlist
  let uses := (d.reads q.function).filter fun r =>
    !present.contains (d.text r) && d.isLocalDependency q r
  (uses.map d.text).eraseDups

/-- The remarks about keys that lack names. -/
def incompleteKeys (d : Document) (options : QueryKeyOptions) : List Remark :=
  ((d.find ["object"]).filterMap d.keyedQuery?).filterMap fun q =>
    let missing := d.missingFromKey options q
    if missing.isEmpty then none
    else
      some (d.remark q.key ("The following dependencies are missing in your queryKey: " ++
        Text.joined ", " missing))

end Document

end CodeConventions
