import CodeConventions.Function.Basic
import CodeConventions.Markup.Basic

/-!
# Components and hooks

A component is a function that renders markup in its own body and is used by its name as a tag.  It
must not have a lower-case name, stand inside markup, or be passed to a call of a function with a
lower-case name.  Hooks are told by their names alone.
-/

namespace CodeConventions

/-- What follows the last dot of a path. -/
def lastSegment (path : String) : String :=
  String.ofList (path.toList.reverse.takeWhile (· != '.')).reverse

/-- The name is that of a hook, or capitalized like a component. -/
def isHookOrComponentName (name : String) : Bool :=
  match name.toList with
  | 'u' :: 's' :: 'e' :: _ => true
  | c :: _ => Text.isLatinUpper c
  | [] => false

namespace Node

/-- Markup is written in the function's own body. -/
def rendersMarkup (fn : Node) : Bool := fn.ownNodes.any fun n => n.isOneOf elementKinds

/-- The function is written inside an expression of the markup. -/
def isInsideMarkup (fn : Node) : Bool := fn.climb?.any fun p => p.kind == "jsx_expression"

end Node

namespace Document

/-- The function is passed to a call of a function with a lower-case name. -/
def isPassedToLowerCase (d : Document) (fn : Node) : Bool :=
  match fn.climb? with
  | none => false
  | some p =>
    p.kind == "arguments" &&
      match p.parent? with
      | none => false
      | some call =>
        call.isOneOf ["call_expression", "new_expression"] &&
          (d.calleeName? call).any Text.startsLower

/-- The function is a component. -/
def isComponent (d : Document) (fn : Node) : Bool :=
  fn.isFunction && fn.kind != "method_definition"
    && !(d.functionName? fn).any (fun name => Text.startsLower (lastSegment name))
    && !fn.isInsideMarkup && !d.isPassedToLowerCase fn && fn.rendersMarkup

/-- The components of a file, in document order. -/
def components (d : Document) : List Node := (d.find functionKinds).filter d.isComponent

/-- The function is a hook or a component by its name. -/
def isHookOrComponent (d : Document) (fn : Node) : Bool :=
  (d.functionName? fn).any isHookOrComponentName

end Document

end CodeConventions
