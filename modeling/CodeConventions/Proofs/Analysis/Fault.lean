import CodeConventions.Proofs.Analysis.Independence
import CodeConventions.Proofs.Source.Place
import CodeConventions.Proofs.Tree.Range

/-!
# Findings, faults and flaws

Of rules with distinct names each has findings or one fault, and the name on a diagnostic tells
which rule it is of.  So the findings of an analysis are the analysis under the rules that do not
fail on the file, and its faults are the analysis under the others.

A file that the grammar does not accept is not analysed.  It has one diagnostic, at the first of its
flaws, and what the rules would do does not matter, so rules that crash do no harm here.  A file
without flaws never has a diagnostic of that kind.

Flaws may lie inside each other: a token that the parser put in often stands below a stretch that it
could not read.  The first flaw in document order is the one that begins first, since the nodes of a
tree in order begin in document order.
-/

namespace CodeConventions

variable {d : Document} {r : Rule} {rules : List Rule}

/-- The rule has no findings on the file but a fault. -/
def Rule.failsOn (d : Document) (r : Rule) : Bool := !(r.findings d).isOk

theorem Rule.failsOn_eq_false_iff : r.failsOn d = false ↔ ∃ fs, r.findings d = .ok fs := by
  unfold failsOn
  cases r.findings d with
  | error fault => simp [Except.isOk, Except.toBool]
  | ok fs => simp [Except.isOk, Except.toBool]

theorem Rule.kind_of_mem_diagnostics {e : Diagnostic} (h : e ∈ r.diagnostics d) :
    e.kind = if r.failsOn d then .detectorFault else .finding := by
  rcases exists_of_mem_diagnostics h with ⟨fs, f, hfs, _, rfl⟩ | ⟨fault, hfault, rfl⟩
  · rw [failsOn, hfs]
    rfl
  · rw [failsOn, hfault]
    rfl

namespace Document

theorem exists_rule_of_mem_analyze (hclean : d.hasErrors = false) {e : Diagnostic}
    (h : e ∈ d.analyze rules) : ∃ r ∈ rules, e ∈ r.diagnostics d := by
  rw [analyze_eq_merge hclean] at h
  exact List.mem_flatMap.mp (Diagnostic.mem_of_mem_merge h)

/-- The kind of a diagnostic tells whether its rule has findings on the file. -/
theorem kind_of_mem_analyze (hclean : d.hasErrors = false) (hids : (rules.map Rule.id).Nodup)
    (hr : r ∈ rules) {e : Diagnostic} (he : e ∈ d.analyze rules) (hrule : e.rule = r.id) :
    e.kind = if r.failsOn d then .detectorFault else .finding := by
  obtain ⟨q, hq, hmem⟩ := exists_rule_of_mem_analyze hclean he
  have hid : q.id = r.id := (Rule.rule_eq_of_mem_diagnostics hmem).symm.trans hrule
  have hqr : q = r := List.inj_on_of_nodup_map hids hq hr hid
  exact hqr ▸ Rule.kind_of_mem_diagnostics hmem

/-- A rule that has findings on a file has no fault in any analysis of it. -/
theorem kind_of_mem_analyze_of_findings (hclean : d.hasErrors = false) {fs : List Finding}
    (hfs : r.findings d = .ok fs) (hids : (rules.map Rule.id).Nodup) (hr : r ∈ rules)
    {e : Diagnostic} (he : e ∈ d.analyze rules) (hrule : e.rule = r.id) : e.kind = .finding := by
  rw [kind_of_mem_analyze hclean hids hr he hrule, Rule.failsOn_eq_false_iff.mpr ⟨fs, hfs⟩]
  rfl

/-- An analysis shows a fault of a rule exactly if the rule has no findings on the file. -/
theorem exists_fault_iff (hclean : d.hasErrors = false) (hids : (rules.map Rule.id).Nodup)
    (hr : r ∈ rules) :
    (∃ e ∈ d.analyze rules, e.rule = r.id ∧ e.kind = .detectorFault) ↔
      ¬ ∃ fs, r.findings d = .ok fs := by
  constructor
  · rintro ⟨e, he, hrule, hkind⟩ ⟨fs, hfs⟩
    rw [kind_of_mem_analyze_of_findings hclean hfs hids hr he hrule] at hkind
    cases hkind
  · intro hnone
    cases hfindings : r.findings d with
    | ok fs => exact absurd ⟨fs, hfindings⟩ hnone
    | error fault =>
      have hmem : faultDiagnostic d.path r.id fault ∈
          (d.analyze rules).filter fun e => e.rule == r.id := by
        rw [analyze_filter hclean (fun id => id == r.id), Rule.filter_id_eq_singleton hids hr,
          analyze_singleton_of_fault hclean hfindings]
        exact List.mem_singleton_self _
      exact ⟨_, (List.mem_filter.mp hmem).1, rfl, rfl⟩

/-- Rules with distinct names are told apart by their names. -/
theorem any_failsOn_eq (hids : (rules.map Rule.id).Nodup) (hr : r ∈ rules) :
    rules.any (fun q => q.id == r.id && q.failsOn d) = r.failsOn d := by
  rw [← List.any_filter, Rule.filter_id_eq_singleton hids hr, List.any_cons, List.any_nil,
    Bool.or_false]

/-- The diagnostics whose kind says whether the rule failed are those of the rules that did, or of
those that did not. -/
theorem analyze_filter_kind (hclean : d.hasErrors = false) (hids : (rules.map Rule.id).Nodup)
    (fails : Bool) :
    (d.analyze rules).filter
        (fun e => e.kind == if fails then .detectorFault else .finding) =
      d.analyze (rules.filter fun r => r.failsOn d == fails) := by
  let failing (id : String) : Bool := rules.any fun q => q.id == id && q.failsOn d
  have hkind : ∀ e ∈ d.analyze rules,
      (e.kind == if fails then .detectorFault else .finding) = (failing e.rule == fails) := by
    intro e he
    obtain ⟨r, hr, hmem⟩ := exists_rule_of_mem_analyze hclean he
    have hfailing : failing e.rule = r.failsOn d := by
      rw [Rule.rule_eq_of_mem_diagnostics hmem]
      exact any_failsOn_eq hids hr
    rw [Rule.kind_of_mem_diagnostics hmem, hfailing]
    cases r.failsOn d <;> cases fails <;> rfl
  have hrules : rules.filter (fun r => failing r.id == fails) =
      rules.filter fun r => r.failsOn d == fails :=
    List.filter_congr fun r hr => by rw [← any_failsOn_eq hids hr]
  rw [List.filter_congr hkind, analyze_filter hclean fun id => failing id == fails, hrules]

/-- The findings of an analysis are those of the rules that do not fail. -/
theorem analyze_findings (hclean : d.hasErrors = false) (hids : (rules.map Rule.id).Nodup) :
    (d.analyze rules).filter (fun e => e.kind == .finding) =
      d.analyze (rules.filter fun r => r.failsOn d == false) :=
  analyze_filter_kind hclean hids false

/-- The faults of an analysis are those of the rules that fail. -/
theorem analyze_faults (hclean : d.hasErrors = false) (hids : (rules.map Rule.id).Nodup) :
    (d.analyze rules).filter (fun e => e.kind == .detectorFault) =
      d.analyze (rules.filter fun r => r.failsOn d == true) :=
  analyze_filter_kind hclean hids true

theorem span_of_mem_analyze_of_fault (hclean : d.hasErrors = false) {e : Diagnostic}
    (h : e ∈ d.analyze rules) (hkind : e.kind = .detectorFault) : e.span = .fileStart := by
  obtain ⟨r, _, hmem⟩ := exists_rule_of_mem_analyze hclean h
  rcases Rule.exists_of_mem_diagnostics hmem with ⟨_, f, _, _, rfl⟩ | ⟨fault, _, rfl⟩
  · exact nomatch hkind
  · rfl

/-! ## The first flaw -/

variable {n : Node}

theorem firstFlaw?_eq_none_iff : d.firstFlaw? = none ↔ ∀ n ∈ d.root.nodes, n.isFlaw = false := by
  simp [firstFlaw?]

/-- A file with a flaw has one diagnostic, whatever rules it is analysed with. -/
theorem analyze_of_firstFlaw? (h : d.firstFlaw? = some n) (rules : List Rule) :
    d.analyze rules =
      [⟨d.path, parseErrorRule, .error, .atPosition n.start (d.source.positionOf n.start),
        d.flawReason n, .parseError⟩] := by
  rw [analyze, parseError?, h]
  rfl

/-- Neither a finding nor a fault of a rule is a parse error. -/
theorem kind_ne_parseError_of_mem_analyze (hclean : d.hasErrors = false) {e : Diagnostic}
    (he : e ∈ d.analyze rules) : e.kind ≠ .parseError := by
  obtain ⟨r, _, hmem⟩ := exists_rule_of_mem_analyze hclean he
  rw [Rule.kind_of_mem_diagnostics hmem]
  split <;> exact nofun

/-- The file `a⏎(` with a stretch that cannot be read, and tokens put in inside it and after it. -/
def unreadable : Document :=
  ⟨"a.ts", .ofString "a\n(",
    .node ⟨"program", true, false, none, 0, 3⟩
      [.node ⟨"expression_statement", true, false, none, 0, 1⟩
        [.node ⟨"identifier", true, false, none, 0, 1⟩ []],
        .node ⟨"ERROR", true, false, none, 2, 3⟩
          [.node ⟨"(", false, false, none, 2, 3⟩ [],
            .node ⟨")", false, true, none, 3, 3⟩ []],
        .node ⟨";", false, true, none, 3, 3⟩ []]⟩

end Document

end CodeConventions
