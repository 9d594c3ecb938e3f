import CodeConventions.Scope.Basic

/-!
# Constants

A name declared by `const` with a plain name and a value stands for that value.  Values are followed
through at most eight such names.  `staticValue?` gives the value that is reached when it is
written out in the source, and `trace` the expression that is reached.
-/

namespace CodeConventions

namespace Document

/-- The node declares constants. -/
def isConstant (d : Document) (declaration : Node) : Bool :=
  declaration.kind == "variable_declarator" &&
    match declaration.parent? with
    | some statement =>
      statement.kind == "lexical_declaration" && d.text? (statement.child? "kind") == "const"
    | none => false

/-- The expression that a constant with a plain name is declared with. -/
def constantValue? (d : Document) (use : Node) : Option Node :=
  match d.resolve? use with
  | none => none
  | some declaration =>
    if d.isConstant declaration then
      match declaration.child? "name" with
      | some name => if name.kind = "identifier" then declaration.child? "value" else none
      | none => none
    else none

/-- The number of constants that are followed. -/
def traceLimit : Nat := 8

/-- The value of an expression, following constants at most `n` times. -/
def staticValueWithin (d : Document) : Nat → Node → Option StaticValue
  | 0, n => d.literalValue? n
  | k + 1, n => d.valueWith (fun use => (d.constantValue? use).bind (staticValueWithin d k)) n

/-- The value of an expression as far as it is known without running the code. -/
def staticValue? (d : Document) (n : Node) : Option StaticValue :=
  d.staticValueWithin traceLimit n

/-- The expression that another one stands for, following constants at most `n` times. -/
def traceWithin (d : Document) : Nat → Node → Node
  | 0, n => n.unwrap
  | k + 1, n =>
    let m := n.unwrap
    if m.kind = "identifier" then
      match d.constantValue? m with
      | some value => traceWithin d k value
      | none => m
    else m

/-- The expression that another one stands for. -/
def trace (d : Document) (n : Node) : Node := d.traceWithin traceLimit n

end Document

/-- The value that a variable is declared with. -/
def Node.declaredValue? (declaration : Node) : Option Node :=
  if declaration.kind = "variable_declarator" then declaration.operand? "value" else none

end CodeConventions
