import CodeConventions.Expression.ObjectLiteral
import CodeConventions.Scope.Library
import CodeConventions.Text.Words

/-!
# The vocabulary of the data-fetching and routing libraries

The hooks of the query client, the makers of routes, and the order in which their options must
come.
-/

namespace CodeConventions

/-- The text names a package of the scope `@tanstack` that ends as given, with something in
between. -/
def isScopedPackage (ending source : String) : Bool :=
  match Text.after? "@tanstack/" (Text.dropFinalLineFeed source).toList with
  | some rest =>
    ending.toList.isSuffixOf rest &&
      let middle := rest.take (rest.length - ending.length)
      !middle.isEmpty && !middle.contains '\n'
  | none => false

namespace Fetching

/-- The library of the query client. -/
def library : Library := ⟨isScopedPackage "-query"⟩

/-- The class of query clients. -/
def clientClass : String := "QueryClient"

/-- The hooks that run one query. -/
def queryHooks : List String :=
  ["useQuery", "useSuspenseQuery", "useInfiniteQuery", "useSuspenseInfiniteQuery"]

/-- The hooks that run several queries. -/
def multiQueryHooks : List String := ["useQueries", "useSuspenseQueries"]

/-- The hooks that make a mutation. -/
def mutationHooks : List String := ["useMutation"]

/-- The hooks whose result is a new object each time. -/
def resultHooks : List String := queryHooks ++ multiQueryHooks ++ mutationHooks

/-- The hooks that take an array of dependencies. -/
def dependencyHooks : List String :=
  ["useEffect", "useLayoutEffect", "useCallback", "useMemo", "useImperativeHandle"]

/-- The functions that take the options of an infinite query. -/
def infiniteQueryFunctions : List String :=
  ["infiniteQueryOptions", "useInfiniteQuery", "useSuspenseInfiniteQuery"]

/-- The order of the options of an infinite query. -/
def infiniteQueryOrder : PropertyOrder :=
  [(["queryFn"], ["getPreviousPageParam", "getNextPageParam"])]

/-- The order of the options of a mutation. -/
def mutationOrder : PropertyOrder := [(["onMutate"], ["onError", "onSettled"])]

end Fetching

namespace Routing

/-- The library of the router. -/
def library : Library := ⟨isScopedPackage "-router"⟩

/-- The functions whose first argument is a path. -/
def pathFunctions : List String := ["createFileRoute", "createLazyFileRoute", "createLazyRoute"]

/-- The functions whose options hold a path. -/
def pathOptionFunctions : List String := ["createRoute"]

/-- The functions that are called with the options of a route. -/
def directMakers : List String := ["createRootRoute", "createRoute"]

/-- The functions that give a function to be called with the options of a route. -/
def indirectMakers : List String := ["createFileRoute", "createRootRouteWithContext"]

/-- The order of the options of a route. -/
def routeOrder : PropertyOrder :=
  [(["params", "validateSearch"], ["search"]),
   (["search"], ["loaderDeps", "ssr"]),
   (["loaderDeps"], ["context"]),
   (["context"], ["beforeLoad"]),
   (["beforeLoad"], ["loader"]),
   (["loader"], ["onEnter", "onStay", "onLeave", "head", "scripts", "headers", "remountDeps"])]

end Routing

end CodeConventions
