import CodeConventions.Source.SourceText

/-!
# Findings and diagnostics

A rule finds something at a span and says what it is: a *finding*.  A *diagnostic* is what a reader
sees: a finding with its file and the severity of its rule, a fault of a rule, or a file that could
not be parsed.
-/

namespace CodeConventions

/-- The families of rules. -/
inductive Category where
  | functional
  | reactiveComponent
  | dataFetchingHook
  | router
  deriving DecidableEq, Repr, Inhabited

/-- How serious a diagnostic is. -/
inductive Severity where
  | error
  | warning
  deriving DecidableEq, Repr, Inhabited

/-- Where a diagnostic comes from. -/
inductive DiagnosticKind where
  | finding
  | detectorFault
  | parseError
  deriving DecidableEq, Repr, Inhabited

namespace Category

/-- The families in order. -/
def all : List Category := [.functional, .reactiveComponent, .dataFetchingHook, .router]

/-- The name of a family. -/
def name : Category → String
  | .functional => "functional"
  | .reactiveComponent => "reactive-component"
  | .dataFetchingHook => "data-fetching-hook"
  | .router => "router"

/-- The family with a name. -/
def ofName? (s : String) : Option Category := all.find? fun c => c.name == s

theorem ofName?_name (c : Category) : ofName? c.name = some c := by cases c <;> rfl

end Category

namespace Severity

/-- The severities in order. -/
def all : List Severity := [.error, .warning]

/-- The name of a severity. -/
def name : Severity → String
  | .error => "error"
  | .warning => "warning"

/-- The severity with a name. -/
def ofName? (s : String) : Option Severity := all.find? fun v => v.name == s

theorem ofName?_name (v : Severity) : ofName? v.name = some v := by cases v <;> rfl

end Severity

namespace DiagnosticKind

/-- The kinds in order. -/
def all : List DiagnosticKind := [.finding, .detectorFault, .parseError]

/-- The name of a kind. -/
def name : DiagnosticKind → String
  | .finding => "finding"
  | .detectorFault => "detector-fault"
  | .parseError => "parse-error"

/-- The kind with a name. -/
def ofName? (s : String) : Option DiagnosticKind := all.find? fun k => k.name == s

theorem ofName?_name (k : DiagnosticKind) : ofName? k.name = some k := by cases k <;> rfl

end DiagnosticKind

/-- What a rule found. -/
structure Finding where
  rule : String
  span : Span
  message : String
  deriving DecidableEq, Repr, Inhabited

/-- What a reader sees of a finding, a fault or a parse error. -/
structure Diagnostic where
  file : String
  rule : String
  severity : Severity
  span : Span
  message : String
  kind : DiagnosticKind
  deriving DecidableEq, Repr, Inhabited

namespace Diagnostic

/-- The diagnostic of a finding. -/
def ofFinding (file : String) (severity : Severity) (f : Finding) : Diagnostic :=
  ⟨file, f.rule, severity, f.span, f.message, .finding⟩

/-- The file and the place where the diagnostic shows. -/
def location (d : Diagnostic) : String := s!"{d.file}:{d.span.toText}"

/-- Diagnostics with one key are about the same thing. -/
def key (d : Diagnostic) : String × Int × Int := (d.rule, d.span.start, d.span.stop)

end Diagnostic

end CodeConventions
