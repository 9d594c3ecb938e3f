import CodeConventions.Scope.Library
import CodeConventions.Text.Words

/-!
# The vocabulary of the reactive library

What the library exports and from where, and the roles that its functions play: making signals,
running code that is tracked, and running code later.
-/

namespace CodeConventions.Reactive

/-- The modules of the library. -/
def moduleNames : List String := ["solid-js", "solid-js/web", "solid-js/store"]

/-- The library. -/
def library : Library := ⟨fun source => moduleNames.contains (Text.dropFinalLineFeed source)⟩

/-- The module of the stores. -/
def storeModule : String := "solid-js/store"

/-- The values that each module exports. -/
def valueExports : List (String × List String) :=
  [("solid-js",
    ["createSignal", "createEffect", "createMemo", "createResource", "onMount", "onCleanup",
     "onError", "untrack", "batch", "on", "createRoot", "getOwner", "runWithOwner", "mergeProps",
     "splitProps", "useTransition", "startTransition", "observable", "from", "mapArray",
     "indexArray", "createContext", "useContext", "children", "lazy", "createUniqueId",
     "createDeferred", "createRenderEffect", "createComputed", "createReaction",
     "createSelector", "DEV", "For", "Show", "Switch", "Match", "Index", "ErrorBoundary",
     "Suspense", "SuspenseList"]),
   ("solid-js/web",
    ["Portal", "render", "hydrate", "renderToString", "renderToStream", "renderToStringAsync",
     "isServer", "generateHydrationScript", "HydrationScript", "Dynamic"]),
   ("solid-js/store",
    ["createStore", "produce", "reconcile", "unwrap", "createMutable", "modifyMutable"])]

/-- The types that each module exports. -/
def typeExports : List (String × List String) :=
  [("solid-js",
    ["Signal", "Accessor", "Setter", "Resource", "ResourceActions", "ResourceOptions",
     "ResourceReturn", "ResourceFetcher", "InitializedResourceReturn", "Component", "VoidProps",
     "VoidComponent", "ParentProps", "ParentComponent", "FlowProps", "FlowComponent",
     "ValidComponent", "ComponentProps", "Ref", "MergeProps", "SplitProps", "Context", "JSX",
     "ResolvedChildren", "MatchProps"]),
   ("solid-js/web", ["MountableElement"]),
   ("solid-js/store", ["StoreNode", "Store", "SetStoreFunction"])]

/-- The module that exports a name. -/
def moduleOf? (exports : List (String × List String)) (name : String) : Option String :=
  (exports.find? fun (_, names) => names.contains name).map Prod.fst

/-- The components that are easily used without an import. -/
def components : List String :=
  ["Show", "For", "Index", "Switch", "Match", "ErrorBoundary", "Suspense", "SuspenseList",
    "Portal", "Dynamic"]

/-- The capitalized names that a browser defines. -/
def globalNames : List String :=
  ["Array", "Audio", "Boolean", "Date", "Element", "Error", "HTMLElement", "Image", "Intl",
    "JSON", "Map", "Math", "Number", "Object", "Option", "Promise", "Reflect", "Set", "String",
    "Symbol", "URL", "WeakMap", "WeakSet", "Worker"]

/-! ## Makers of reactive values -/

/-- The functions whose result begins with an accessor. -/
def tupleAccessorMakers : List String := ["createSignal", "createResource"]

/-- The functions whose result is an accessor. -/
def accessorMakers : List String := ["createMemo", "createSelector"]

/-- The functions whose result begins with a signal. -/
def signalTupleMakers : List String := ["createSignal", "useTransition"]

/-- The functions whose result is read like the properties of a component. -/
def propsMakers : List String := ["mergeProps", "splitProps", "createMutable"]

/-- The functions whose result ends with a setter. -/
def setterMakers : List String := ["createSignal", "createStore"]

/-- The name of a parameter that holds properties. -/
def isPropsName (name : String) : Bool :=
  let cs := name.toList
  (List.range cs.length).any fun i =>
    match cs.drop i with
    | p :: rest => (p == 'p' || p == 'P') && "rops".toList.isPrefixOf rest
    | [] => false

/-- The name begins with `static` and a capital letter. -/
def isStaticName (name : String) : Bool := Text.continuesWith "static" Text.isLatinUpper name

/-- The name of a property that is read once on purpose. -/
def isUntrackedName (name : String) : Bool :=
  Text.beginsWith "initial" name || Text.beginsWith "default" name || isStaticName name

/-! ## Runners of callbacks -/

/-- The functions whose callbacks must not be asynchronous. -/
def trackedRunners : List String :=
  ["createEffect", "createMemo", "createRenderEffect", "createComputed"]

/-- The functions whose first argument runs tracked. -/
def trackedCallbackRunners : List String :=
  ["createMemo", "children", "createEffect", "createRenderEffect", "createDeferred",
    "createComputed", "createSelector", "untrack", "mapArray", "indexArray", "observable"]

/-- The functions whose callbacks run later. -/
def deferredRunners : List String := ["onMount", "onCleanup", "onError"]

/-- The timers. -/
def timers : List String :=
  ["setInterval", "setTimeout", "setImmediate", "requestAnimationFrame", "requestIdleCallback"]

/-- The constructors of observers. -/
def observers : List String :=
  ["IntersectionObserver", "MutationObserver", "PerformanceObserver", "ReportingObserver",
    "ResizeObserver"]

/-- The name of a function that is likely to track what it is given. -/
def isReactiveFunctionName (name : String) : Bool :=
  Text.continuesWith "use" Text.isLatinUpper name
    || Text.continuesWith "create" Text.isLatinUpper name

/-- The name of a property that holds an event handler. -/
def isHandlerProperty (name : String) : Bool :=
  match Text.after? "on" (Text.dropFinalLineFeed name).toList with
  | some rest => !rest.isEmpty && rest.all Text.isLatinLower
  | none => false

/-- The methods that run their callback at once. -/
def synchronousMethods : List String :=
  ["forEach", "map", "flatMap", "reduce", "reduceRight", "find", "findIndex", "filter", "every",
    "some"]

/-- The functions that run their callback at once. -/
def synchronousFunctions : List String := ["batch", "produce"]

/-- The functions that find out what they depend on. -/
def dependencyFreeRunners : List String := ["createEffect", "createMemo"]

end CodeConventions.Reactive
