import CodeConventions.Rules.Reactivity.TrackedScope
import CodeConventions.Rules.Reactivity.Variable
import CodeConventions.Rules.Remark
import CodeConventions.Scope.Read

/-!
# Reads of reactive variables

A reactive variable must be read where a change of it is noticed, and must never be assigned to.
Besides, markup must call accessors and not pass them along, and the functions whose reads are
tracked must not be asynchronous.

A use of a variable in a nested function is the business of that function, unless it is an
assignment.
-/

namespace CodeConventions

/-- The options of the rule on reactive variables. -/
structure ReactivityOptions where
  customReactiveFunctions : List String := []
  deriving DecidableEq, Repr

namespace Node

/-- The node is assigned to. -/
def isWritten (n : Node) : Bool :=
  n.climb?.any fun p =>
    (p.isOneOf ["assignment_expression", "augmented_assignment_expression"]
        && n.isOperandOf p "left")
      || (p.kind == "update_expression" && n.isOperandOf p "argument")

/-- The node above reaches into the value of this one. -/
def isAccessedBy (n parent : Node) : Bool :=
  parent.isOneOf accessKinds && n.isOperandOf parent "object"

/-- The whole chain of members and subscripts that begins with a node. -/
def wholeAccess (n : Node) : Node :=
  match _h : n.climb? with
  | some p => if n.isAccessedBy p then wholeAccess p else n
  | none => n
termination_by n.above.length
decreasing_by exact length_above_climb?_lt (by assumption)

/-- The call that a name is the callee or an argument of. -/
def callAround? (n : Node) : Option Node :=
  match n.climb? with
  | none => none
  | some p =>
    if p.kind = "call_expression" && n.isOperandOf p "function" then some p
    else if p.kind = "arguments" then p.parent?.filter fun c => c.kind == "call_expression"
    else none

/-- The name stands in an array that is an argument of a call. -/
def isInArgumentArray (n : Node) : Bool :=
  match n.climb? with
  | none => false
  | some p => p.kind == "array" && p.climb?.any fun holder => holder.kind == "arguments"

end Node

/-- A tracked scope and the function it belongs to. -/
structure OwnedScope where
  scope : TrackedScope
  owner : Node

/-- What there is to know of a file before its reads are judged. -/
structure ReactiveContext where
  synchronous : List NodeKey
  scopes : List OwnedScope

namespace ReactiveContext

/-- The tracked scopes that belong to a function. -/
def scopesOf (c : ReactiveContext) (owner : Node) : List TrackedScope :=
  (c.scopes.filter fun s => s.owner.same owner).map OwnedScope.scope

/-- A read at a name is noticed in the scope. -/
def noticedIn (name : Node) (s : TrackedScope) : Bool :=
  match s.kind with
  | .expression => s.node.contains name
  | .callback => s.node.same name

end ReactiveContext

namespace Document

/-- What is said of a read that is lost although something around it is tracked. -/
def unwrappedRead (name : String) : String :=
  s!"The reactive variable '{name}' should be wrapped in a function for reactivity. This " ++
  "includes event handler bindings on native elements, which are not reactive like other JSX props."

/-- What is said of a read that nothing tracks. -/
def untrackedRead (name : String) : String :=
  s!"The reactive variable '{name}' should be used within JSX, a tracked scope (like " ++
  "createEffect), or inside an event handler function, or else changes will be ignored."

/-- What is said of an assignment. -/
def reactiveWrite (name : String) : String :=
  s!"The reactive variable '{name}' should not be reassigned or altered directly."

/-- What is said of an accessor that is not called. -/
def uncalledAccessor (name : String) : String :=
  s!"The reactive variable '{name}' should be called as a function when used in JSX."

/-- What is said of an asynchronous function whose reads should be tracked. -/
def asynchronousScope : String :=
  "This tracked scope should not be async. Solid's reactivity only tracks synchronously."

/-! ## Accessors and asynchronous functions -/

/-- The values of the attributes of native elements that should hold values and not functions. -/
def valueExpressions (d : Document) : List Node :=
  ((d.tags.filter d.isNative).flatMap Node.attributes).filterMap fun a =>
    match d.attributeName? a with
    | none => none
    | some name =>
      if name = "ref" || Text.beginsWith "on" name || Text.beginsWith "use:" name then none
      else a.attributeExpression?

/-- The remarks about accessors that are passed along. -/
def uncalledAccessors (d : Document) : List Remark :=
  let accessors := d.accessors
  if accessors.isEmpty then []
  else
    ((d.contentExpressions ++ d.valueExpressions).filter (d.standsFor accessors)).map fun n =>
      d.remark n (uncalledAccessor (d.text n))

/-- The remarks about asynchronous functions whose reads should be tracked. -/
def asynchronousScopes (d : Document) : List Remark :=
  let calls := (d.find ["call_expression"]).filter fun c =>
    (d.libraryCallee? Reactive.library c).any Reactive.trackedRunners.contains
  let callbacks := calls.filterMap fun c => c.arguments.head?.map Node.unwrap
  (callbacks.filter fun f => f.isFunction && f.isAsync).map fun f => d.remark f asynchronousScope

/-! ## Uses of variables -/

/-- The uses of a variable. -/
def usesOf (d : Document) (v : ReactiveVariable) : List Node :=
  (v.owner.find ["identifier"]).filter fun n =>
    d.text n == d.text v.name && !n.same v.name && (d.resolve? n).any v.declaration.same

/-- The use assigns to the variable, or to a member of an object like properties. -/
def isReactiveWrite (v : ReactiveVariable) (use : Node) : Bool :=
  use.isWritten ||
    (v.kind == .props && use.climb?.any fun p =>
      use.isAccessedBy p && p.kind == "member_expression" && p.isWritten)

/-- The remark about a read at a name in a function, unless a tracked scope notices it. -/
def lostRead (d : Document) (c : ReactiveContext) (owner use shown : Node) (name : String) :
    List Remark :=
  let scopes := c.scopesOf owner
  if scopes.any (ReactiveContext.noticedIn use) then []
  else if scopes.any fun s => s.node.contains use then [d.remark shown (unwrappedRead name)]
  else [d.remark shown (untrackedRead name)]

/-- The remarks about a use of a signal. -/
def signalUse (d : Document) (c : ReactiveContext) (v : ReactiveVariable) (use : Node) :
    List Remark :=
  let name := d.text v.name
  match use.callAround? with
  | some call => d.lostRead c v.owner use call name
  | none => if use.isInArgumentArray then d.lostRead c v.owner use use name else []

/-- The remarks about a use of an object like properties. -/
def propsUse (d : Document) (c : ReactiveContext) (v : ReactiveVariable) (use : Node) :
    List Remark :=
  match use.climb? with
  | none => []
  | some parent =>
    if use.isAccessedBy parent then
      if parent.kind = "member_expression"
          && Reactive.isUntrackedName (d.text? (parent.child? "property")) then
        []
      else
        -- the remark shows the whole chain, although the first member decides
        let whole := parent.wholeAccess
        d.lostRead c v.owner use whole (d.text whole)
    else if parent.isOneOf ["variable_declarator", "assignment_expression"] then
      [d.remark use (untrackedRead (d.text v.name))]
    else []

/-- The remarks about a use of a variable. -/
def reactiveUse (d : Document) (c : ReactiveContext) (v : ReactiveVariable) (use : Node) :
    List Remark :=
  if isReactiveWrite v use then [d.remark use (reactiveWrite (d.text v.name))]
  -- the use is the business of the function that it stands in
  else if !(d.ownerOf c.synchronous use).same v.owner then []
  else
    match v.kind with
    | .signal => d.signalUse c v use
    | .props => d.propsUse c v use

/-- The remarks about reactive values that are not read where changes are noticed. -/
def reactivity (d : Document) (options : ReactivityOptions) : List Remark :=
  let synchronous := d.synchronousFunctions
  let declared := d.reactiveVariables synchronous
  let scopes := if declared.isEmpty then [] else d.trackedScopes options.customReactiveFunctions
  let context : ReactiveContext :=
    ⟨synchronous, scopes.map fun s => ⟨s, d.ownerOf synchronous s.node⟩⟩
  d.uncalledAccessors ++ d.asynchronousScopes
    ++ declared.flatMap fun v => (d.usesOf v).flatMap (d.reactiveUse context v)

end Document

end CodeConventions
