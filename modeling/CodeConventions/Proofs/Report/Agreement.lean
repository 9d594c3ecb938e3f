import CodeConventions.Proofs.Report.Record

/-!
# The summary and the reports

The summary counts the diagnostics by severity, by rule and by kind, and each report lists them in
its own way.  All these numbers fit together: the errors and the warnings, the counts of all rules,
the results of the interchange format and the diagnostics in the report as data are as many as there
are diagnostics (`Summary.agrees_with_reports`).  The summary of two batches is the sum of their
summaries (`Summary.isSum_append`).
-/

namespace CodeConventions

namespace Summary

/-- The third summary is the sum of the other two: all its counts are sums, and so is its count for
each rule; it lists the rules that one of them lists. -/
structure IsSum (s t u : Summary) : Prop where
  files : u.files = s.files + t.files
  failed : u.failed = s.failed + t.failed
  errors : u.errors = s.errors + t.errors
  warnings : u.warnings = s.warnings + t.warnings
  faults : u.faults = s.faults + t.faults
  byRule : ∀ rule, countIn u.byRule rule = countIn s.byRule rule + countIn t.byRule rule
  rules : ∀ rule, rule ∈ u.byRule.map Prod.fst ↔
    rule ∈ s.byRule.map Prod.fst ∨ rule ∈ t.byRule.map Prod.fst

theorem diagnostics_append (xs ys : List FileResult) :
    diagnostics (xs ++ ys) = diagnostics xs ++ diagnostics ys :=
  List.flatMap_append

theorem isSum_append (xs ys : List FileResult) :
    IsSum (ofResults xs) (ofResults ys) (ofResults (xs ++ ys)) where
  files := List.length_append
  failed := List.countP_append
  errors := by
    show ((xs ++ ys).flatMap FileResult.errors).length = _
    rw [List.flatMap_append, List.length_append]
    rfl
  warnings := by
    show ((xs ++ ys).flatMap FileResult.warnings).length = _
    rw [List.flatMap_append, List.length_append]
    rfl
  faults := by
    show ((xs ++ ys).flatMap FileResult.faults).length = _
    rw [List.flatMap_append, List.length_append]
    rfl
  byRule rule := by
    simp only [ofResults, countIn_tallyAll, diagnostics_append, List.map_append, List.count_append]
  rules rule := by
    simp only [ofResults, mem_keys_tallyAll_iff, diagnostics_append, List.map_append,
      List.mem_append]

/-! ## The summary of some results -/

variable (results : List FileResult)

/-- Every diagnostic is either an error or a warning. -/
theorem errors_add_warnings :
    (ofResults results).errors + (ofResults results).warnings = (diagnostics results).length := by
  have herrors : results.flatMap FileResult.errors =
      (diagnostics results).filter fun d => d.severity == .error := by
    rw [diagnostics, List.filter_flatMap]
    rfl
  have hwarnings : results.flatMap FileResult.warnings =
      (diagnostics results).filter fun d => !(d.severity == .error) := by
    rw [diagnostics, List.filter_flatMap]
    refine congrArg (results.flatMap ·) (funext fun r => List.filter_congr fun d _ => ?_)
    cases d.severity <;> rfl
  show (results.flatMap FileResult.errors).length + (results.flatMap FileResult.warnings).length = _
  rw [herrors, hwarnings, ← List.length_eq_length_filter_add]

/-- The counts of the rules make up the number of diagnostics. -/
theorem sum_byRule :
    ((ofResults results).byRule.map Prod.snd).sum = (diagnostics results).length := by
  rw [ofResults, sum_tallyAll, List.length_map]

theorem faults_eq :
    (ofResults results).faults = (diagnostics results).countP fun d => d.kind != .finding := by
  have hfaults : results.flatMap FileResult.faults =
      (diagnostics results).filter fun d => d.kind != .finding := by
    rw [diagnostics, List.filter_flatMap]
    rfl
  rw [List.countP_eq_length_filter, ← hfaults]
  rfl

theorem not_passed_eq (r : FileResult) :
    (!r.passed) = r.diagnostics.any fun d => d.severity == .error := by
  rw [FileResult.passed, FileResult.errors, Bool.eq_iff_iff]
  simp [List.filter_eq_nil_iff]

theorem failed_eq :
    (ofResults results).failed =
      results.countP fun r => r.diagnostics.any fun d => d.severity == .error :=
  List.countP_congr fun r _ => by rw [not_passed_eq]

/-! ## What the report as data tells -/

/-- How many diagnostics the value of a result tells. -/
def told (item : Json) : Nat := (((item.get? "diagnostics").bind Json.items?).getD []).length

/-- The value of a result tells that its file did not pass. -/
def tellsFailure (item : Json) : Bool :=
  match item.get? "passed" with
  | some (.bool passed) => !passed
  | _ => false

theorem sum_told :
    ((results.map Report.resultRecord).map told).sum = (diagnostics results).length := by
  have htold : ∀ r : FileResult, told (Report.resultRecord r) = r.diagnostics.length :=
    fun r => List.length_map _
  rw [List.map_map, diagnostics, List.length_flatMap]
  exact congrArg List.sum (List.map_congr_left fun r _ => htold r)

theorem countP_tellsFailure :
    (results.map Report.resultRecord).countP tellsFailure = (ofResults results).failed := by
  rw [List.countP_map]
  rfl

end Summary

open Summary Json

/-- The summary agrees with the results and with what is read of the reports on them. -/
structure Summary.Agrees (s : Summary) (rules : List Rule) (results : List FileResult) : Prop where
  /-- Errors and warnings, and the counts of the rules, make up the diagnostics. -/
  problems : s.errors + s.warnings = (results.flatMap FileResult.diagnostics).length
  byRule : (s.byRule.map Prod.snd).sum = (results.flatMap FileResult.diagnostics).length
  faults : s.faults =
    (results.flatMap FileResult.diagnostics).countP fun d => d.kind != .finding
  failed : s.failed = results.countP fun r => r.diagnostics.any fun d => d.severity == .error
  /-- The report in the interchange format has a result for each diagnostic. -/
  sarif : ∃ j run items, readUnbounded (Report.render rules results .sarif) = .ok j ∧
    j.get? "runs" = some (.list [run]) ∧ run.get? "results" = some (.list items) ∧
    items.length = s.errors + s.warnings
  /-- The report as data tells as many diagnostics, and as many files that did not pass. -/
  record : ∃ j items, readUnbounded (Report.render rules results .record) = .ok j ∧
    j.get? "results" = some (.list items) ∧ (items.map told).sum = s.errors + s.warnings ∧
    items.countP tellsFailure = s.failed

/-- Summaries add up, and the summary of some results agrees with all reports on them. -/
theorem Summary.agrees_with_reports (rules : List Rule) :
    (∀ xs ys, IsSum (ofResults xs) (ofResults ys) (ofResults (xs ++ ys))) ∧
      ∀ results, (ofResults results).Agrees rules results := by
  refine ⟨isSum_append, fun results => ?_⟩
  have htotal := errors_add_warnings results
  refine ⟨htotal, sum_byRule results, faults_eq results, failed_eq results, ?_, ?_⟩
  · refine ⟨Report.sarif rules results, _, _, Report.readUnbounded_sarif rules results, rfl, rfl, ?_⟩
    rw [List.length_map, htotal]
  · refine ⟨Report.record results, results.map Report.resultRecord,
      Report.readUnbounded_record results, rfl, ?_, countP_tellsFailure results⟩
    rw [sum_told, htotal]

end CodeConventions
