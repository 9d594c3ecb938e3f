import CodeConventions.Expression.Member
import CodeConventions.Rules.Remark
import CodeConventions.Scope.Basic

/-!
# Exceptions and rejections

Throwing leaves a function by another way than returning, and so does rejecting a promise.  A
rejection is written as `Promise.reject(…)`, or as a call of the second parameter of the function
that a new promise is made with.
-/

namespace CodeConventions

/-- What the rule against throwing lets pass. -/
structure ThrowOptions where
  allowInAsyncFunctions : Bool := false
  deriving DecidableEq, Repr

namespace Document

/-- The remarks about statements that throw. -/
def throws (d : Document) (options : ThrowOptions) : List Remark :=
  let found := (d.find ["throw_statement"]).filter fun s =>
    !(options.allowInAsyncFunctions && s.enclosingFunction?.any Node.isAsync)
  found.map fun s => d.remark s "Unexpected throw, throwing exceptions is not functional."

/-- The function that a new promise is made with. -/
def executor? (d : Document) (construction : Node) : Option Node :=
  match construction.callee? with
  | none => none
  | some c =>
    if d.text c = "Promise" then
      (construction.arguments.head?.map Node.unwrap).filter Node.isFunction
    else none

/-- The parameter of an executor that rejects. -/
def rejector? (executor : Node) : Option Node :=
  executor.parameters[1]?.filter fun p => p.kind == "identifier"

/-- The calls of a name that is declared by the node given. -/
def callsOf (d : Document) (declaration root : Node) : List Node :=
  (root.find ["call_expression"]).filter fun call =>
    call.callee?.any fun c =>
      c.kind == "identifier" && (d.resolve? c).any declaration.same

/-- The calls that reject a promise which is being made. -/
def rejectionsIn (d : Document) (construction : Node) : List Node :=
  match d.executor? construction with
  | none => []
  | some executor =>
    match rejector? executor with
    | none => []
    | some reject => d.callsOf reject executor

/-- The calls of a function with a dotted path. -/
def callsOfPath (d : Document) (path : String) : List Node :=
  (d.find ["call_expression"]).filter fun call =>
    ((call.child? "function").bind d.memberPath?) == some path

/-- The remarks about rejections. -/
def rejections (d : Document) : List Remark :=
  let calls := d.callsOfPath "Promise.reject" ++ (d.find ["new_expression"]).flatMap d.rejectionsIn
  calls.map fun c => d.remark c "Unexpected rejection, resolve an error instead."

end Document

end CodeConventions
