import CodeConventions.Diagnostic.Merge
import CodeConventions.Rules.Rule

/-!
# The analysis of a file

A file whose parse has flaws has one diagnostic, which says where the first flaw is, and no rule is
run on it.  Any other file has the findings of the rules, and one fault for each rule that does not
return findings; what the other rules find is not touched by that.
-/

namespace CodeConventions

/-- The name under which parse errors are reported. -/
def parseErrorRule : String := "parse-error"

/-- The diagnostic of a file that cannot be analysed. -/
def ParseError.toDiagnostic (e : ParseError) : Diagnostic :=
  ⟨e.path, parseErrorRule, .error, .atPosition e.offset ⟨e.line, e.column⟩, e.reason, .parseError⟩

/-- The text of a fault of a rule. -/
def faultMessage (rule : String) (fault : Fault) : String :=
  s!"Detector '{rule}' failed: {fault.message}"

/-- The diagnostic of a fault. -/
def faultDiagnostic (file : String) (rule : String) (fault : Fault) : Diagnostic :=
  ⟨file, rule, .error, .fileStart, faultMessage rule fault, .detectorFault⟩

/-- The diagnostics of a rule: its findings, or its fault. -/
def Rule.diagnostics (r : Rule) (d : Document) : List Diagnostic :=
  match r.findings d with
  | .ok fs => fs.map (Diagnostic.ofFinding d.path r.severity)
  | .error fault => [faultDiagnostic d.path r.id fault]

/-- The diagnostics of a file under some rules. -/
def Document.analyze (d : Document) (rules : List Rule) : List Diagnostic :=
  match d.parseError? with
  | some e => [e.toDiagnostic]
  | none => Diagnostic.merge (rules.flatMap fun r => r.diagnostics d)

/-- A file with its diagnostics. -/
structure FileResult where
  file : String
  diagnostics : List Diagnostic
  deriving DecidableEq, Repr, Inhabited

namespace FileResult

/-- The diagnostics that are errors. -/
def errors (r : FileResult) : List Diagnostic := r.diagnostics.filter fun d => d.severity == .error

/-- The diagnostics that are warnings. -/
def warnings (r : FileResult) : List Diagnostic :=
  r.diagnostics.filter fun d => d.severity == .warning

/-- The diagnostics that are no findings. -/
def faults (r : FileResult) : List Diagnostic := r.diagnostics.filter fun d => d.kind != .finding

/-- No diagnostic is an error. -/
def passed (r : FileResult) : Bool := r.errors.isEmpty

end FileResult

end CodeConventions
