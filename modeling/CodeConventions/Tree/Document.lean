import CodeConventions.Source.SourceText
import CodeConventions.Text.Blank
import CodeConventions.Text.Lines
import CodeConventions.Tree.Wrapper

/-!
# Documents

A document is a source file with its parse tree.  Nodes know their offsets only; the document knows
the text at those offsets and the lines and columns they lie on.

A parse tree may have *flaws*: stretches the grammar does not accept, and tokens the parser had to
put in.  The first flaw in document order is the one to report.
-/

namespace CodeConventions

/-- The grammars that a source may be written in. -/
inductive Language where
  | plain
  | withMarkup
  deriving DecidableEq, Repr

/-- A source file and its parse tree. -/
structure Document where
  path : String
  source : SourceText
  tree : ParseTree
  deriving Inhabited

/-- A file that cannot be analysed: the reason, and where it shows. -/
structure ParseError where
  path : String
  reason : String
  line : Nat
  column : Int
  offset : Nat
  deriving DecidableEq, Repr

/-- The text of a parse error. -/
def ParseError.message (e : ParseError) : String :=
  s!"{e.path}:{e.line}:{e.column}: {e.reason}"

/-- A parse error at the start of a file. -/
def ParseError.ofFile (path reason : String) : ParseError := ⟨path, reason, 1, 1, 0⟩

namespace Document

/-- The node of the whole file. -/
def root (d : Document) : Node := ⟨d.tree, []⟩

/-- The nodes of some kinds, in document order. -/
def find (d : Document) (kinds : List String) : List Node := d.root.find kinds

/-- The text of a node. -/
def text (d : Document) (n : Node) : String := d.source.textIn n.start n.stop

/-- The text of a node that may be absent. -/
def text? (d : Document) (n : Option Node) : String :=
  match n with
  | some n => d.text n
  | none => ""

/-- The span of a node. -/
def spanOf (d : Document) (n : Node) : Span := d.source.spanOf n.start n.stop

end Document

/-- The node is a flaw of the parse. -/
def Node.isFlaw (n : Node) : Bool := n.kind == "ERROR" || n.isMissing

namespace Document

/-- The first flaw, if there is one. -/
def firstFlaw? (d : Document) : Option Node := d.root.nodes.find? Node.isFlaw

/-- The parse has flaws. -/
def hasErrors (d : Document) : Bool := d.root.nodes.any Node.isFlaw

/-- The beginning of the first line of a text that is not blank. -/
def snippet? (s : String) : Option String :=
  (Text.lines (Text.strip s)).head?.map fun line => String.ofList (line.toList.take 40)

/-- What is wrong at a flaw. -/
def flawReason (d : Document) (n : Node) : String :=
  if n.isMissing then s!"Missing '{n.kind}'"
  else
    match snippet? (d.text n) with
    | some s => s!"Unexpected syntax near '{s}'"
    | none => "Unexpected syntax"

/-- The parse error to report, if the parse has flaws. -/
def parseError? (d : Document) : Option ParseError :=
  d.firstFlaw?.map fun n =>
    let p := d.source.positionOf n.start
    ⟨d.path, d.flawReason n, p.line, p.column, n.start⟩

end Document

end CodeConventions
