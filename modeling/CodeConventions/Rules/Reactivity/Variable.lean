import CodeConventions.Function.Component
import CodeConventions.Scope.Constant
import CodeConventions.Scope.Library
import CodeConventions.Vocabulary.Reactive

/-!
# Reactive variables

A reactive variable is a signal, which is read by calling it, or an object like a component's
properties, which is read through its members.  It belongs to the function that runs when it is
declared.  Functions that are passed to be called at once, such as the one given to `map`, do not
count here: their code belongs to the function around them.
-/

namespace CodeConventions

/-- The identity of a node. -/
abbrev NodeKey := Nat × Nat × String

/-- How a reactive variable is read. -/
inductive ReactiveKind where
  | signal
  | props
  deriving DecidableEq, Repr

/-- A reactive variable. -/
structure ReactiveVariable where
  /-- The name where it is declared. -/
  name : Node
  /-- The node that uses of the name resolve to. -/
  declaration : Node
  /-- The function that it belongs to, or the whole file. -/
  owner : Node
  kind : ReactiveKind

/-- A name that a declaration makes special. -/
abbrev BoundName := NodeKey × String

namespace Node

/-- The element of an array pattern at an index, where an element left out counts too. -/
def elementFrom : Nat → List Node → Option Node
  | _, [] => none
  | k, c :: cs =>
    if c.kind = "," then
      match k with
      | 0 => none
      | j + 1 => elementFrom j cs
    else if c.kind = "comment" || !c.isNamed then elementFrom k cs
    else
      match k with
      | 0 => some c
      | _ + 1 => elementFrom k cs

/-- The name at an index of an array pattern. -/
def nameAt? (pattern : Node) (index : Nat) : Option Node :=
  (elementFrom index (pattern.children.drop 1)).filter fun c => c.kind == "identifier"

end Node

/-- A variable whose value is the result of a call of the library. -/
structure MadeVariable where
  declaration : Node
  pattern : Node
  maker : String

namespace Document

/-- The variables whose values are results of calls of the library. -/
def madeVariables (d : Document) : List MadeVariable :=
  (d.find ["variable_declarator"]).filterMap fun v =>
    match v.declaredValue?, v.child? "name" with
    | some value, some pattern =>
      if value.kind = "call_expression" then
        (d.libraryCallee? Reactive.library value).map fun maker => ⟨v, pattern, maker⟩
      else none
    | _, _ => none

/-- The name, as bound by a declaration. -/
def boundName (d : Document) (declaration name : Node) : BoundName :=
  (declaration.key, d.text name)

/-- The name of an accessor that a variable is or begins with. -/
def accessor? (v : MadeVariable) : Option Node :=
  if Reactive.tupleAccessorMakers.contains v.maker && v.pattern.kind == "array_pattern" then
    v.pattern.nameAt? 0
  else if Reactive.accessorMakers.contains v.maker && v.pattern.kind == "identifier" then
    some v.pattern
  else none

/-- The names of accessors. -/
def accessors (d : Document) : List BoundName :=
  d.madeVariables.filterMap fun v => (accessor? v).map (d.boundName v.declaration)

/-- The names of setters. -/
def setters (d : Document) : List BoundName :=
  d.madeVariables.filterMap fun v =>
    if Reactive.setterMakers.contains v.maker && v.pattern.kind == "array_pattern" then
      (v.pattern.nameAt? 1).map (d.boundName v.declaration)
    else none

/-- The name stands for one of those given. -/
def standsFor (d : Document) (names : List BoundName) (n : Node) : Bool :=
  n.kind == "identifier" &&
    (d.resolve? n).any fun declaration => names.contains (d.boundName declaration n)

/-! ## Functions that run at once -/

/-- A function that is no asynchronous one. -/
def isPlainFunction (n : Node) : Bool := n.isFunction && !n.isAsync

/-- The only argument of a call, when the function called runs it at once. -/
def runAtOnce (d : Document) (callee : Node) (arguments : List Node) : List Node :=
  match arguments with
  | [f] =>
    if !isPlainFunction f then []
    else if callee.kind = "identifier" then
      if (d.libraryName? Reactive.library callee).any Reactive.synchronousFunctions.contains then
        [f]
      else []
    else if callee.kind = "member_expression" then
      if Reactive.synchronousMethods.contains (d.text? (callee.child? "property"))
          && (callee.operand? "object").any fun r => r.kind != "object" then
        [f]
      else []
    else []
  | _ => []

/-- The arguments of a call that a setter or a mapping function runs at once. -/
def runByName (d : Document) (setters : List BoundName) (callee : Node)
    (arguments : List Node) : List Node :=
  if d.standsFor setters callee then arguments.filter isPlainFunction
  else if (d.libraryName? Reactive.library callee).any ["mapArray", "indexArray"].contains then
    match arguments[1]? with
    | some f => if f.isFunction then [f] else []
    | none => []
  else []

/-- The functions that a call runs at once. -/
def synchronousIn (d : Document) (setters : List BoundName) (call : Node) : List Node :=
  match call.callee? with
  | none => []
  | some callee =>
    let arguments := call.arguments.map Node.unwrap
    -- a function that is called where it is written runs at once
    (if callee.isFunction then [callee] else []) ++ d.runAtOnce callee arguments
      ++ (if callee.kind = "identifier" then d.runByName setters callee arguments else [])

/-- The identities of the functions that run at once where they are written. -/
def synchronousFunctions (d : Document) : List NodeKey :=
  let setters := d.setters
  ((d.find ["call_expression"]).flatMap (d.synchronousIn setters)).map Node.key

/-- The innermost function around a node that does not run at once, or the whole file. -/
def ownerOf (d : Document) (synchronous : List NodeKey) (n : Node) : Node :=
  (n.ancestors.find? fun a => a.isFunction && !synchronous.contains a.key).getD d.root

/-! ## Variables -/

/-- The names that a variable gives to parts of an array, where they are reactive. -/
def reactiveElements (v : MadeVariable) : List Node :=
  if Reactive.signalTupleMakers.contains v.maker || v.maker = "createStore" then
    (v.pattern.nameAt? 0).toList
  else if v.maker = "splitProps" then v.pattern.parts.filter fun c => c.kind == "identifier"
  else []

/-- The reactive variables that a declaration makes. -/
def reactiveNames (d : Document) (synchronous : List NodeKey) (v : MadeVariable) :
    List ReactiveVariable :=
  let owner := d.ownerOf synchronous v.declaration
  if v.pattern.kind = "array_pattern" then
    let kind := if Reactive.signalTupleMakers.contains v.maker then ReactiveKind.signal else .props
    (reactiveElements v).map fun name => ⟨name, v.declaration, owner, kind⟩
  else if v.pattern.kind = "identifier" then
    if Reactive.accessorMakers.contains v.maker then [⟨v.pattern, v.declaration, owner, .signal⟩]
    else if Reactive.propsMakers.contains v.maker then [⟨v.pattern, v.declaration, owner, .props⟩]
    else []
  else []

/-- The kinds of functions that may take properties. -/
def propsTakerKinds : List String :=
  ["function_declaration", "function_expression", "function", "arrow_function"]

/-- The function stands where its result is shown or becomes text. -/
def isShownInPlace (fn : Node) : Bool :=
  fn.climb?.any fun p => p.isOneOf ["jsx_expression", "template_substitution"]

/-- The parameter of a function that holds properties. -/
def propsParameter? (d : Document) (fn : Node) : Option Node :=
  if !fn.isOneOf propsTakerKinds then none
  else
    match fn.parameters with
    | [p] =>
      if p.kind != "identifier" || isShownInPlace fn then none
      else if Reactive.isPropsName (d.text p) then some p
      else if (d.functionName? fn).any (fun name => !Text.startsLower name) && fn.rendersMarkup then
        some p
      else none
    | _ => none

/-- The reactive variables of a file. -/
def reactiveVariables (d : Document) (synchronous : List NodeKey) : List ReactiveVariable :=
  let functions := (d.find functionKinds).filter fun fn => !synchronous.contains fn.key
  d.madeVariables.flatMap (d.reactiveNames synchronous)
    ++ functions.filterMap fun fn => (d.propsParameter? fn).map fun p => ⟨p, p, fn, .props⟩

end Document

end CodeConventions
