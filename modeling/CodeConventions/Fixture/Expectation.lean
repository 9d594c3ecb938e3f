import CodeConventions.Diagnostic.Basic
import CodeConventions.Fixture.Layout

/-!
# What a fixture expects

A fixture expects one finding in each of its sub-cases and nothing anywhere else.  Whatever differs
from that is a problem: the diagnostics that are out of place in their order, and then the
sub-cases without a finding or with several of them.
-/

namespace CodeConventions

/-- The name of a sub-case. -/
def SubCase.label (c : SubCase) : String :=
  if c.description = "" then s!"sub-case {c.number}"
  else s!"sub-case {c.number} ({c.description})"

/-- The first and the last line of a diagnostic lie in the sub-case. -/
def SubCase.contains (c : SubCase) (d : Diagnostic) : Bool :=
  (c.firstLine : Int) ≤ d.span.line && d.span.stopLine ≤ c.lastLine

/-- What differs from the expectations of a fixture. -/
inductive Problem where
  | notFinding (d : Diagnostic)
  | inPrelude (d : Diagnostic)
  | inValidCode (d : Diagnostic)
  | outsideCases (d : Diagnostic)
  | missing (c : SubCase)
  | several (c : SubCase) (found : List Diagnostic)
  deriving DecidableEq, Repr

/-- The rule, the place and the text of a diagnostic. -/
def Diagnostic.summary (d : Diagnostic) : String := s!"{d.rule} at {d.span.toText}: {d.message}"

/-- The text of a problem. -/
def Problem.message : Problem → String
  | .notFinding d => s!"{d.kind.name} {d.summary}"
  | .inPrelude d => s!"finding in prelude: {d.summary}"
  | .inValidCode d => s!"finding in VALID region: {d.summary}"
  | .outsideCases d => s!"finding outside every sub-case: {d.summary}"
  | .missing c => s!"{c.label} at line {c.firstLine} produced no finding"
  | .several c found =>
    let places := Text.joined ", " (found.map fun d => d.span.toText)
    s!"{c.label} at line {c.firstLine} produced {found.length} findings ({places})"

namespace Layout

/-- The sub-case that a diagnostic lies in. -/
def caseOf? (l : Layout) (d : Diagnostic) : Option SubCase := l.cases.find? fun c => c.contains d

/-- The sub-case that a diagnostic counts for, or the problem that it is. -/
def place (l : Layout) (d : Diagnostic) : Except Problem SubCase :=
  if d.kind ≠ .finding then .error (.notFinding d)
  -- the first line of a diagnostic tells its region
  else if d.span.line < l.validLine then .error (.inPrelude d)
  else if d.span.line < l.invalidLine then .error (.inValidCode d)
  else
    match l.caseOf? d with
    | some c => .ok c
    | none => .error (.outsideCases d)

/-- The problem that a diagnostic is, if it is out of place. -/
def misplaced? (l : Layout) (d : Diagnostic) : Option Problem :=
  match l.place d with
  | .ok _ => none
  | .error p => some p

/-- The diagnostic counts for the sub-case, which is known by its number. -/
def countsFor (l : Layout) (c : SubCase) (d : Diagnostic) : Bool :=
  match l.place d with
  | .ok other => other.number = c.number
  | .error _ => false

/-- The problem with the number of findings in a sub-case. -/
def caseProblem? (c : SubCase) (found : List Diagnostic) : Option Problem :=
  match found with
  | [] => some (.missing c)
  | [_] => none
  | _ => some (.several c found)

/-- Everything in which the diagnostics differ from the expectations. -/
def problems (l : Layout) (ds : List Diagnostic) : List Problem :=
  ds.filterMap l.misplaced?
    ++ l.cases.filterMap fun c => caseProblem? c (ds.filter (l.countsFor c))

end Layout

end CodeConventions
