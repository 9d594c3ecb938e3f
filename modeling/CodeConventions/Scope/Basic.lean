import CodeConventions.Function.Basic
import CodeConventions.Scope.BindingPattern
import CodeConventions.Scope.Import

/-!
# Scopes and declarations

A scope declares names: a function its parameters, a block the names of its statements, a loop or a
catch clause the names in its head.  A use of a name is resolved by going up from it, scope by
scope, to the first one that declares the name.  Of several declarations of a name in one scope the
first counts.
-/

namespace CodeConventions

/-- The kinds of nodes that declare names for what lies below them. -/
def scopeKinds : List String :=
  functionKinds ++
    ["program", "statement_block", "switch_body", "for_statement", "for_in_statement",
      "catch_clause"]

/-- The kinds of statements that declare variables. -/
def variableStatementKinds : List String := ["lexical_declaration", "variable_declaration"]

/-- The kinds of declarations that have a name. -/
def namedDeclarationKinds : List String :=
  ["function_declaration", "generator_function_declaration", "class_declaration",
    "abstract_class_declaration", "enum_declaration"]

/-- A name and the node that declares it. -/
abbrev Declaration := String × Node

/-- The declarators of a statement that declares variables. -/
def Node.declarators (statement : Node) : List Node :=
  statement.parts.filter fun p => p.kind == "variable_declarator"

namespace Document

/-- The names of a pattern, declared by the node given. -/
def declare (d : Document) (pattern : Option Node) (declaring : Node) : List Declaration :=
  (Node.boundNames? pattern).map fun name => (d.text name, declaring)

/-- The names that a statement declares directly. -/
def statementDeclarations (d : Document) (statement : Node) : List Declaration :=
  if statement.isOneOf variableStatementKinds then
    statement.declarators.flatMap fun v => d.declare (v.child? "name") v
  else if statement.isOneOf namedDeclarationKinds then
    match statement.child? "name" with
    | some name => [(d.text name, statement)]
    | none => []
  else if statement.kind = "import_statement" then
    (d.importsOf statement).map fun b => (b.name, statement)
  else []

mutual

/-- The names that a statement declares, also when the declaration is exported or ambient. -/
def declaredBelow (d : Document) (above : List ParseTree) : ParseTree → List Declaration
  | .node l cs =>
    if l.kind = "export_statement" then exportedBelow d (.node l cs :: above) cs
    else if l.kind = "ambient_declaration" then declaredByAll d (.node l cs :: above) cs
    else d.statementDeclarations ⟨.node l cs, above⟩

/-- The names declared by the declaration that an export statement holds. -/
def exportedBelow (d : Document) (above : List ParseTree) : List ParseTree → List Declaration
  | [] => []
  | c :: cs =>
    if c.label.field == some "declaration" then declaredBelow d above c
    else exportedBelow d above cs

/-- The names declared by several statements. -/
def declaredByAll (d : Document) (above : List ParseTree) : List ParseTree → List Declaration
  | [] => []
  | c :: cs =>
    (if c.isSignificant then declaredBelow d above c else []) ++ declaredByAll d above cs

end

/-- The names that a statement declares. -/
def declaredBy (d : Document) (statement : Node) : List Declaration :=
  d.declaredBelow statement.above statement.tree

/-- The names that a function declares inside itself: its parameters, and its own name when it is
an expression. -/
def functionDeclarations (d : Document) (fn : Node) : List Declaration :=
  let own :=
    if fn.isOneOf ["function_expression", "function", "generator_function"] then
      match fn.child? "name" with
      | some name => [(d.text name, fn)]
      | none => []
    else []
  -- parameters hide the name of the function itself
  (fn.parameters.flatMap fun p => d.declare (some p) p) ++ own

/-- The names that a scope declares directly, repeated ones included. -/
def declarations (d : Document) (scope : Node) : List Declaration :=
  if scope.isFunction then d.functionDeclarations scope
  else if scope.kind = "for_statement" then
    match scope.child? "initializer" with
    | some i => d.declaredBy i
    | none => []
  else if scope.kind = "for_in_statement" then
    if (scope.child? "kind").isSome then d.declare (scope.child? "left") scope else []
  else if scope.kind = "catch_clause" then d.declare (scope.child? "parameter") scope
  else if scope.kind = "switch_body" then
    scope.parts.flatMap fun c => c.parts.flatMap d.declaredBy
  else scope.parts.flatMap d.declaredBy

/-- The declarations whose name comes up neither earlier in the list nor among those seen. -/
def firstOfName (seen : List String) : List Declaration → List Declaration
  | [] => []
  | (name, n) :: rest =>
    if seen.contains name then firstOfName seen rest
    else (name, n) :: firstOfName (name :: seen) rest

/-- The names that a scope declares, each with the declaration that counts. -/
def bindings (d : Document) (scope : Node) : List Declaration :=
  firstOfName [] (d.declarations scope)

/-- The node that declares a name in the innermost scope of a list that declares it. -/
def declarationIn? (d : Document) (scopes : List Node) (name : String) : Option Node :=
  scopes.findSome? fun s =>
    if s.isOneOf scopeKinds then (d.declarations s).lookup name else none

/-- The node that declares the name that a use stands for; none for a name that no scope
declares. -/
def resolve? (d : Document) (use : Node) : Option Node :=
  d.declarationIn? use.ancestors (d.text use)

end Document

end CodeConventions
