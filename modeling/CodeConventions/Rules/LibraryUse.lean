import CodeConventions.Markup.Basic
import CodeConventions.Rules.Remark
import CodeConventions.Scope.Constant
import CodeConventions.Vocabulary.Reactive

/-!
# The use of the reactive library

Three habits that the library does not bear: passing a list of dependencies to a function that finds
them out itself, importing a name from a module that does not export it, and relying on proxies
where the target has none.
-/

namespace CodeConventions

namespace Document

/-! ## Dependencies -/

/-- What is said of a list of dependencies. -/
def unusedDependencies (name : String) : String :=
  s!"In Solid, `{name}` doesn't accept a dependency array because it automatically tracks its " ++
  "dependencies. If you really need to override the list of dependencies, use `on`."

/-- The list of dependencies that a call passes after a function without parameters. -/
def dependencies? (d : Document) (call : Node) : Option Node :=
  match call.arguments with
  | [callback, list] =>
    if callback.kind = "spread_element" || list.kind = "spread_element" then none
    else
      let fn := d.trace callback
      if fn.isFunction && fn.parameters.isEmpty && (d.trace list).kind == "array" then some list
      else none
  | _ => none

/-- The remarks about lists of dependencies. -/
def dependencyLists (d : Document) : List Remark :=
  (d.find ["call_expression"]).filterMap fun call =>
    match d.libraryCallee? Reactive.library call with
    | some name =>
      if Reactive.dependencyFreeRunners.contains name then
        (d.dependencies? call).map fun list => d.remark list (unusedDependencies name)
      else none
    | none => none

/-! ## Modules -/

/-- The module that a name must be imported from. -/
def properModule? (b : ImportBinding) : Option String :=
  let ofType := Reactive.moduleOf? Reactive.typeExports b.imported
  if b.typeOnly then ofType
  else
    match Reactive.moduleOf? Reactive.valueExports b.imported with
    | some m => some m
    | none => ofType

/-- The remark about an import from another module than the proper one. -/
def misplacedImport? (d : Document) (b : ImportBinding) : Option Remark :=
  if !Reactive.library.isModule b.source || b.imported = "default" || b.imported = "*" then none
  else
    ((properModule? b).filter (· != b.source)).map fun proper =>
      d.remark b.node s!"\"{b.imported}\" should be imported from \"{proper}\", not \"{b.source}\"."

/-- The remarks about imports from the wrong module. -/
def misplacedImports (d : Document) : List Remark := d.imports.filterMap d.misplacedImport?

/-! ## Proxies -/

/-- What is said of a proxy. -/
def plainProxy : String := "Proxies are incompatible with your target environment."

/-- What is said of an import of the stores. -/
def storeProxy : String :=
  "Solid Store APIs use Proxies, which are incompatible with your target environment."

/-- What is said of a spread that needs a proxy. -/
def spreadProxy (what : String) : String :=
  s!"Using a {what} in JSX spread makes Solid use Proxies, " ++
  "which are incompatible with your target environment."

/-- What is said of a function among merged properties. -/
def mergedProxy : String :=
  "If you pass a function to `mergeProps`, it will create a Proxy, " ++
  "which are incompatible with your target environment."

/-- The remarks about imports of the stores. -/
def storeImports (d : Document) : List Remark :=
  let statements := d.importStatements.filter fun s =>
    (s.child? "source").bind d.stringValue? == some Reactive.storeModule
  statements.map fun s => d.remark s storeProxy

/-- The remarks about proxies that are made. -/
def madeProxies (d : Document) : List Remark :=
  let made := (d.find ["new_expression"]).filter fun c =>
    c.callee?.any fun f => d.text f == "Proxy"
  let revocable := (d.find ["call_expression"]).filter fun c =>
    (c.child? "function").bind d.memberPath? == some "Proxy.revocable"
  (made ++ revocable).map fun c => d.remark c plainProxy

/-- What an attribute spreads into its tag. -/
def spreadObject? (attr : Node) : Option Node :=
  (attr.braced?.bind Node.firstPart?).map Node.unwrap

/-- The remark about an attribute that spreads something of which the properties are not known. -/
def spreadAttribute? (d : Document) (attr : Node) : Option Remark :=
  match spreadObject? attr with
  | none => none
  | some o =>
    if o.kind = "call_expression" then some (d.remark attr (spreadProxy "function call"))
    else if o.kind = "member_expression" then
      some (d.remark attr (spreadProxy "property access"))
    else none

/-- The remarks about functions among merged properties. -/
def mergedFunctions (d : Document) : List Remark :=
  let calls := (d.callsNamed ["mergeProps"] d.root).filter fun c =>
    d.libraryCallee? Reactive.library c == some "mergeProps"
  let functions := (calls.flatMap Node.arguments).filter fun a => a.unwrap.isFunction
  functions.map fun a => d.remark a mergedProxy

/-- The remarks about what needs proxies. -/
def proxies (d : Document) : List Remark :=
  d.storeImports ++ d.madeProxies
    ++ (d.tags.flatMap Node.attributes).filterMap d.spreadAttribute? ++ d.mergedFunctions

end Document

end CodeConventions
