import CodeConventions.Proofs.Analysis.Fault
import CodeConventions.Workspace.Analysis

/-!
# When a file has an error

A file has an error if it cannot be read, if its parse has flaws, if a rule fails on it, or if a
rule whose severity is that of an error finds something in it.  Nothing else gives a file an error,
and none of these is lost when the diagnostics of the rules are merged: the merge drops a diagnostic
only for another one of the same rule, and all diagnostics of a rule have one severity.
-/

namespace CodeConventions

variable {d : Document} {r : Rule} {rules : List Rule} {e : Diagnostic}

/-- The rule makes the file have an error: it fails there, or it is meant to tell errors and finds
one. -/
def Rule.Objects (d : Document) (r : Rule) : Prop :=
  (∃ fault, r.findings d = .error fault) ∨
    r.severity = .error ∧ ∃ f fs, r.findings d = .ok (f :: fs)

namespace Rule

/-- The diagnostics of a rule are its fault, or findings of the rule's own severity. -/
theorem severity_of_mem_diagnostics (h : e ∈ r.diagnostics d) :
    e.severity = if r.failsOn d then .error else r.severity := by
  rcases exists_of_mem_diagnostics h with ⟨fs, f, hfs, _, rfl⟩ | ⟨fault, hfault, rfl⟩
  · rw [failsOn, hfs]
    rfl
  · rw [failsOn, hfault]
    rfl

theorem exists_error_iff :
    (∃ e ∈ r.diagnostics d, e.severity = .error) ↔ r.Objects d := by
  unfold diagnostics Objects
  cases r.findings d with
  | error fault => simp [faultDiagnostic]
  | ok fs => cases fs <;> simp [Diagnostic.ofFinding]

end Rule

namespace Document

/-- The file has an error, once it has been read. -/
def IsFaulty (d : Document) (rules : List Rule) : Prop :=
  d.hasErrors = true ∨ ∃ r ∈ rules, r.Objects d

/-- A parse with flaws has a first one, which is reported. -/
theorem exists_error_of_hasErrors (h : d.hasErrors = true) :
    ∃ e ∈ d.analyze rules, e.severity = .error := by
  obtain ⟨flaw, hflaw⟩ : ∃ flaw, d.firstFlaw? = some flaw := by
    rw [← Option.isSome_iff_exists, firstFlaw?, List.find?_isSome]
    exact List.any_eq_true.mp h
  rw [analyze, parseError?, hflaw]
  exact ⟨_, List.mem_singleton_self _, rfl⟩

/-- What a merge keeps of the rules' diagnostics has an error if one of the rules has. -/
theorem exists_error_of_objects (hclean : d.hasErrors = false) (hids : (rules.map Rule.id).Nodup)
    (hr : r ∈ rules) (h : r.Objects d) : ∃ e ∈ d.analyze rules, e.severity = .error := by
  obtain ⟨e, he, hsevere⟩ := Rule.exists_error_iff.mpr h
  have hall : e ∈ rules.flatMap fun r => r.diagnostics d := List.mem_flatMap.mpr ⟨r, hr, he⟩
  obtain ⟨kept, hkept, hkey, _⟩ := Diagnostic.exists_isKept hall
  obtain ⟨q, hq, hmem⟩ := List.mem_flatMap.mp hkept.mem
  -- the key has the name of the rule in it, so what is kept is of the same rule
  obtain rfl : q = r := by
    refine List.inj_on_of_nodup_map hids hq hr ?_
    rw [← Rule.rule_eq_of_mem_diagnostics hmem, ← Rule.rule_eq_of_mem_diagnostics he]
    exact congrArg Prod.fst hkey
  refine ⟨kept, ?_, ?_⟩
  · rw [analyze_eq_merge hclean]
    exact Diagnostic.mem_merge_iff.mpr hkept
  · rw [Rule.severity_of_mem_diagnostics hmem, ← Rule.severity_of_mem_diagnostics he, hsevere]

theorem exists_error_iff (hids : (rules.map Rule.id).Nodup) :
    (∃ e ∈ d.analyze rules, e.severity = .error) ↔ d.IsFaulty rules := by
  cases hclean : d.hasErrors with
  | true => exact iff_of_true (exists_error_of_hasErrors hclean) (Or.inl hclean)
  | false =>
    constructor
    · rintro ⟨e, he, hsevere⟩
      obtain ⟨r, hr, hmem⟩ := exists_rule_of_mem_analyze hclean he
      exact Or.inr ⟨r, hr, Rule.exists_error_iff.mp ⟨e, hmem, hsevere⟩⟩
    · rintro (hflawed | ⟨r, hr, hobjects⟩)
      · exact nomatch hclean.symm.trans hflawed
      · exact exists_error_of_objects hclean hids hr hobjects

end Document

/-! ## Files of a workspace -/

theorem FileResult.passed_eq_true_iff {x : FileResult} :
    x.passed = true ↔ ∀ e ∈ x.diagnostics, e.severity ≠ .error := by
  simp [passed, errors, List.filter_eq_nil_iff]

namespace Workspace

variable {w : Workspace} {p : FilePath} {paths : List FilePath} {settings : Settings}

/-- The path leads to a file with an error: one that cannot be read, or one that the rules have
something against. -/
def HasError (w : Workspace) (rules : List Rule) (p : FilePath) : Prop :=
  (∃ fault, w.document p = .error fault) ∨ ∃ d, w.document p = .ok d ∧ d.IsFaulty rules

theorem passed_analyzeFile_iff (hids : (rules.map Rule.id).Nodup) :
    (w.analyzeFile rules p).passed = true ↔ ¬ w.HasError rules p := by
  rw [FileResult.passed_eq_true_iff, analyzeFile, diagnosticsAt, HasError]
  cases w.document p with
  | error fault => simp [ParseError.toDiagnostic]
  | ok d => simp [← Document.exists_error_iff hids]

/-- All files that some paths stand for are free of errors, or one of them has one. -/
theorem all_passed_analyzeAll_iff (hids : (rules.map Rule.id).Nodup) :
    (w.analyzeAll settings rules paths).all FileResult.passed = true ↔
      ¬ ∃ p ∈ w.collect settings paths, w.HasError rules p := by
  simp [analyzeAll, List.all_map, List.all_eq_true, passed_analyzeFile_iff hids]

end Workspace

end CodeConventions
