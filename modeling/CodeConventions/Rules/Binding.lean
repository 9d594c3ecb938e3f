import CodeConventions.Rules.Remark
import CodeConventions.Scope.Basic

/-!
# Bindings that can be reassigned

Every variable that is declared with `let` or `var` is remarked at its name or pattern, be it in a
statement or in the head of a loop over the members of something.  Names that match a pattern are
let pass, and, if the options say so, so are the declarations in the heads of loops.
-/

namespace CodeConventions

/-- What the rule against reassignable bindings lets pass. -/
structure ReassignableOptions where
  allowInForLoopInit : Bool := false
  ignoreIdentifierPattern : List String := []
  deriving DecidableEq, Repr

/-- The keywords that declare reassignable bindings. -/
def reassignableKeywords : List String := ["let", "var"]

namespace Document

/-- The keyword of a statement that declares variables. -/
def declaringKeyword (d : Document) (statement : Node) : String :=
  if statement.kind = "lexical_declaration" then d.text? (statement.child? "kind") else "var"

/-- The keyword in the head of a loop, if there is one. -/
def headKeyword? (d : Document) (loop : Node) : Option String :=
  (loop.child? "kind").map d.text

/-- The statement is what a loop with a counter begins with. -/
def isForInitializer (statement : Node) : Bool :=
  statement.parent?.any fun p => p.kind == "for_statement"

/-- The remark about a name, unless it matches a pattern of the options. -/
def reassignable (d : Document) (options : ReassignableOptions) (keyword : String)
    (name : Option Node) : Remarks :=
  match matchesAny options.ignoreIdentifierPattern (d.text? name) with
  | .error crash => .error crash
  | .ok true => .ok []
  | .ok false =>
    (d.remark? name s!"Unexpected {keyword}, use const instead.").map fun r => [r]

/-- The remarks about a statement that declares variables. -/
def reassignableInStatement (d : Document) (options : ReassignableOptions) (statement : Node) :
    Remarks :=
  let keyword := d.declaringKeyword statement
  if !reassignableKeywords.contains keyword then .ok []
  else if options.allowInForLoopInit && isForInitializer statement then .ok []
  else remarksFor statement.declarators fun v =>
    d.reassignable options keyword (v.child? "name")

/-- The remarks about the head of a loop over the members of something. -/
def reassignableInHead (d : Document) (options : ReassignableOptions) (loop : Node) : Remarks :=
  match d.headKeyword? loop, loop.child? "left" with
  | some keyword, some left =>
    if !reassignableKeywords.contains keyword || options.allowInForLoopInit then .ok []
    else d.reassignable options keyword (some left)
  | _, _ => .ok []

/-- The remarks about reassignable bindings. -/
def reassignableBindings (d : Document) (options : ReassignableOptions) : Remarks :=
  match remarksFor (d.find variableStatementKinds) (d.reassignableInStatement options) with
  | .error crash => .error crash
  | .ok inStatements =>
    (remarksFor (d.find ["for_in_statement"]) (d.reassignableInHead options)).map
      (inStatements ++ ·)

theorem reassignableBindings_eq_bind (d : Document) (options : ReassignableOptions) :
    d.reassignableBindings options =
      remarksFor (d.find variableStatementKinds) (d.reassignableInStatement options) >>=
        fun found => (remarksFor (d.find ["for_in_statement"]) (d.reassignableInHead options)).map
          (found ++ ·) := by
  rw [reassignableBindings]
  cases remarksFor (d.find variableStatementKinds) (d.reassignableInStatement options) <;> rfl

end Document

end CodeConventions
