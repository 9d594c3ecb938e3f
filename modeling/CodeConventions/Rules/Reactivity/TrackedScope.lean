import CodeConventions.Markup.Basic
import CodeConventions.Scope.Constant
import CodeConventions.Scope.Library
import CodeConventions.Vocabulary.Reactive

/-!
# Tracked scopes

Code in which reads of reactive variables are noticed, or in which it does not matter that they are
not.  Such a scope is an expression all of which is tracked, or a function that runs tracked or
later.
-/

namespace CodeConventions

/-- What of a tracked scope is tracked. -/
inductive ScopeKind where
  /-- All of the expression. -/
  | expression
  /-- The body of the function. -/
  | callback
  deriving DecidableEq, Repr

/-- A tracked scope. -/
structure TrackedScope where
  node : Node
  kind : ScopeKind

/-- The scope that an expression, without wrappers, is. -/
def TrackedScope.of (kind : ScopeKind) (n : Node) : TrackedScope := ⟨n.unwrap, kind⟩

/-- The expression, if there is one, as a tracked function. -/
def callbackScope (n : Option Node) : List TrackedScope :=
  (n.map (TrackedScope.of .callback)).toList

namespace Document

/-! ## In markup -/

/-- The scope that the value of an attribute is. -/
def scopeInAttribute (d : Document) (attr expression : Node) : List TrackedScope :=
  let name := (d.attributeName? attr).getD ""
  let tag := (attr.parent?.bind d.tagName?).getD ""
  let native := isNativeName tag
  -- a native element calls its handlers and directives later
  if Text.beginsWith "on" name && native then [.of .callback expression]
  else if Text.beginsWith "use:" name && expression.isFunction then [.of .callback expression]
  -- the value of a provider and a static attribute are read once
  else if name = "value" && Text.endsWith "Provider" tag then []
  else if Reactive.isStaticName name && !native then []
  else if name = "ref" && expression.isFunction then [.of .callback expression]
  else [.of .expression expression]

/-- The scope that an expression in braces is. -/
def scopeInBraces (d : Document) (container : Node) : List TrackedScope :=
  match container.braced? with
  | none => []
  | some expression =>
    if expression.kind = "spread_element" then
      (expression.firstPart?.map (TrackedScope.of .expression)).toList
    else
      match container.parent? with
      | none => [.of .expression expression]
      | some parent =>
        if parent.kind = "jsx_attribute" then d.scopeInAttribute parent expression
        else if parent.isOneOf ["jsx_element", "jsx_fragment"] && expression.isFunction then
          [.of .callback expression]
        else [.of .expression expression]

/-! ## Arguments of calls -/

/-- A name by which a function may be passed on. -/
def isPassedName (d : Document) (name : Node) : Bool :=
  let used :=
    name.parent?.any fun p =>
      p.isOneOf Node.accessKinds || (p.kind == "call_expression" && p.callee?.any name.same)
  let traced := d.trace name
  !used && (traced.isFunction || traced.kind == "identifier")

/-- The functions, and the names of functions, in an argument. -/
def passedFunctions (d : Document) (n : Node) : List Node :=
  let m := n.unwrap
  if m.isFunction then [m]
  else if m.kind = "identifier" then if d.isPassedName m then [m] else []
  else m.parts.attach.flatMap fun ⟨c, _h⟩ => passedFunctions d c
termination_by n.size
decreasing_by
  exact Nat.lt_of_lt_of_le (Node.size_parts_lt (by assumption)) n.size_unwrap_le

/-- The functions in the arguments of a call. -/
def passedScopes (d : Document) (arguments : List Node) : List TrackedScope :=
  (arguments.flatMap d.passedFunctions).map (TrackedScope.of .callback)

/-- The scopes of a call of `on`, which is told what to track. -/
def scopesOfOn (first second : Option Node) : List TrackedScope :=
  let tracked :=
    match first with
    | some f =>
      if f.kind = "array" then
        (f.parts.filter fun e => e.kind != "spread_element").map (TrackedScope.of .callback)
      else [.of .callback f]
    | none => []
  tracked ++ callbackScope second

/-- The scopes in a call of a plain name. -/
def scopesOfNamedCall (d : Document) (custom : List String) (callee : Node)
    (arguments : List Node) : List TrackedScope :=
  let first := arguments[0]?.map Node.unwrap
  let second := arguments[1]?.map Node.unwrap
  let name := d.libraryName? Reactive.library callee
  let written := d.text callee
  if name.any Reactive.trackedCallbackRunners.contains
      || (name == some "createResource" && arguments.length ≥ 2) then
    callbackScope first
  else if name.any Reactive.deferredRunners.contains || Reactive.timers.contains written then
    callbackScope first
  else if name = some "on" then scopesOfOn first second
  -- a store that is written out is tracked in its getters
  else if name == some "createStore" && first.any fun f => f.kind == "object" then
    let getters := ((first.map Node.parts).getD []).filter fun m =>
      m.kind == "method_definition" && m.hasToken "get"
    getters.map (TrackedScope.of .callback)
  else if name = some "runWithOwner" then callbackScope second
  -- whatever is passed to a function of this name may be tracked there
  else if Reactive.isReactiveFunctionName written || custom.contains written then
    d.passedScopes arguments
  else []

/-- The scopes in a call of a method. -/
def scopesOfMethodCall (d : Document) (custom : List String) (callee : Node)
    (arguments : List Node) : List TrackedScope :=
  let method := d.text? (callee.child? "property")
  match arguments[1]? with
  | some second =>
    if method = "addEventListener" then [.of .callback second]
    else if Reactive.isReactiveFunctionName method || custom.contains method then
      d.passedScopes arguments
    else []
  | none =>
    if Reactive.isReactiveFunctionName method || custom.contains method then
      d.passedScopes arguments
    else []

/-- The scopes in a call. -/
def scopesOfCall (d : Document) (custom : List String) (call : Node) : List TrackedScope :=
  match call.callee? with
  | none => []
  | some callee =>
    if callee.kind = "identifier" then d.scopesOfNamedCall custom callee call.arguments
    else if callee.kind = "member_expression" then
      d.scopesOfMethodCall custom callee call.arguments
    else []

/-! ## Other places -/

/-- The scope that an observer is made with. -/
def scopeOfConstruction (d : Document) (construction : Node) : List TrackedScope :=
  match construction.callee? with
  | none => []
  | some c =>
    if Reactive.observers.contains (d.text c) then callbackScope construction.arguments.head?
    else []

/-- The scope that is assigned as an event handler. -/
def scopeOfAssignment (d : Document) (assignment : Node) : List TrackedScope :=
  match assignment.operand? "left", assignment.operand? "right" with
  | some left, some right =>
    if left.kind = "member_expression" && right.isFunction
        && Reactive.isHandlerProperty (d.text? (left.child? "property")) then
      [.of .callback right]
    else []
  | _, _ => []

/-- The tracked scopes of a file, where some functions are said to track what they are given. -/
def trackedScopes (d : Document) (custom : List String) : List TrackedScope :=
  (d.find ["jsx_expression"]).flatMap d.scopeInBraces
    ++ (d.find ["new_expression"]).flatMap d.scopeOfConstruction
    ++ (d.find ["call_expression"]).flatMap (d.scopesOfCall custom)
    ++ (d.find ["assignment_expression"]).flatMap d.scopeOfAssignment

end Document

end CodeConventions
