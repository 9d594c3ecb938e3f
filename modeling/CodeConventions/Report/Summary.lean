import CodeConventions.Analysis.File
import CodeConventions.Text.Words

/-!
# Summaries

The numbers that sum up the results of some files, and the line of text that shows them.
-/

namespace CodeConventions

/-- The counts over some files. -/
structure Summary where
  files : Nat
  /-- The files with an error. -/
  failed : Nat
  errors : Nat
  warnings : Nat
  /-- The diagnostics that are no findings. -/
  faults : Nat
  /-- The diagnostics of each rule that has any, by the names of the rules in order. -/
  byRule : List (String × Nat)
  deriving DecidableEq, Repr

namespace Summary

/-- The counts with one more for a rule. -/
def tally (rule : String) : List (String × Nat) → List (String × Nat)
  | [] => [(rule, 1)]
  | (r, n) :: rest =>
    if rule = r then (r, n + 1) :: rest
    -- the list stays in the order of the names
    else if rule < r then (rule, 1) :: (r, n) :: rest
    else (r, n) :: tally rule rest

/-- How often each of some rules occurs. -/
def tallyAll (rules : List String) : List (String × Nat) := rules.foldr tally []

/-- The diagnostics of some files, one file after the other. -/
def diagnostics (results : List FileResult) : List Diagnostic :=
  results.flatMap FileResult.diagnostics

/-- The summary of some results. -/
def ofResults (results : List FileResult) : Summary :=
  ⟨results.length, results.countP fun r => !r.passed, (results.flatMap FileResult.errors).length,
    (results.flatMap FileResult.warnings).length, (results.flatMap FileResult.faults).length,
    tallyAll ((diagnostics results).map Diagnostic.rule)⟩

/-- The errors and the warnings. -/
def problems (s : Summary) : Nat := s.errors + s.warnings

/-- A number of things. -/
def counted (n : Nat) (noun : String) : String :=
  s!"{n} {noun}" ++ (if n = 1 then "" else "s")

/-- The line of text that shows the counts; faults are shown only where there are any. -/
def headline (s : Summary) : String :=
  let counts := [counted s.errors "error", counted s.warnings "warning"]
    ++ if s.faults = 0 then [] else [counted s.faults "fault"]
  counted s.problems "problem" ++ " (" ++ Text.joined ", " counts ++ ") in "
    ++ counted s.files "file" ++ s!", {s.failed} failed"

end Summary

/-- The name of the rule of a diagnostic, and what it is if it is no finding. -/
def Diagnostic.label (d : Diagnostic) : String :=
  if d.kind = .finding then d.rule else s!"{d.rule} ({d.kind.name})"

end CodeConventions
