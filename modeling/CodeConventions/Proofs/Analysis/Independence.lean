import CodeConventions.Analysis.File
import CodeConventions.Proofs.Diagnostic.Merge
import CodeConventions.Proofs.Except

/-!
# Rules do not interfere

What an analysis says of a rule is what it says when the rule is run alone.  All diagnostics of a
rule carry the rule's name, a fault as much as a finding, and the name is part of the key.  So what
is kept for a key is decided among the diagnostics of one rule, whatever detectors return.

## Strategy

A merge commutes with a selection by name (`merge_filter`), and the diagnostics with a name come
from the rules with that name.  Hence an analysis commutes with a selection of rules
(`analyze_filter`).  Where names are distinct, the rules with one name are one rule or none, so
their order cannot matter.
-/

namespace CodeConventions

/-! ## What counts as findings -/

/-- A detector's items count as findings exactly if all of them are, and each bears the name of the
rule. -/
theorem acceptItems_ok_iff (rule : String) (items : List Item) (fs : List Finding) :
    acceptItems rule items = .ok fs ↔
      items = fs.map Item.finding ∧ ∀ f ∈ fs, f.rule = rule := by
  induction items generalizing fs with
  | nil => cases fs <;> simp [acceptItems]
  | cons item rest ih =>
      cases item with
      | other shape => cases fs <;> simp [acceptItems]
      | finding f =>
        rw [acceptItems]
        split
        next hf =>
          rw [Except.map_eq_ok_iff]
          constructor
          · rintro ⟨found, hfound, rfl⟩
            obtain ⟨rfl, hall⟩ := (ih found).mp hfound
            exact ⟨rfl, List.forall_mem_cons.mpr ⟨hf, hall⟩⟩
          · rintro ⟨hitems, hall⟩
            obtain ⟨g, found, rfl, hg, hrest⟩ := List.map_eq_cons_iff.mp hitems.symm
            obtain rfl := Item.finding.inj hg
            exact ⟨found, (ih found).mpr ⟨hrest.symm, (List.forall_mem_cons.mp hall).2⟩, rfl⟩
        next hf =>
          constructor
          · intro h
            exact nomatch h
          · rintro ⟨hitems, hall⟩
            obtain ⟨g, found, rfl, hg, _⟩ := List.map_eq_cons_iff.mp hitems.symm
            obtain rfl := Item.finding.inj hg
            exact absurd (hall g List.mem_cons_self) hf

namespace Rule

variable {r : Rule} {d : Document}

/-- A rule has findings where it returns a list of findings of its own, and a fault elsewhere. -/
theorem findings_eq_ok_iff {fs : List Finding} :
    r.findings d = .ok fs ↔
      r.run d = .returned (fs.map Item.finding) ∧ ∀ f ∈ fs, f.rule = r.id := by
  rw [findings]
  cases hrun : r.run d with
  | crashed reason =>
      constructor
      · intro h
        exact nomatch h
      · rintro ⟨h, _⟩
        exact nomatch h
  | unusable shape =>
      constructor
      · intro h
        exact nomatch h
      · rintro ⟨h, _⟩
        exact nomatch h
  | returned items =>
      rw [Outcome.accept, acceptItems_ok_iff, Outcome.returned.injEq]

/-- A rule has findings of its own as diagnostics, or its fault. -/
theorem exists_of_mem_diagnostics {e : Diagnostic} (h : e ∈ r.diagnostics d) :
    (∃ fs f, r.findings d = .ok fs ∧ f.rule = r.id ∧ e = .ofFinding d.path r.severity f) ∨
      ∃ fault, r.findings d = .error fault ∧ e = faultDiagnostic d.path r.id fault := by
  rw [diagnostics] at h
  cases hfindings : r.findings d with
  | error fault =>
      rw [hfindings, List.mem_singleton] at h
      exact Or.inr ⟨fault, rfl, h⟩
  | ok fs =>
      rw [hfindings] at h
      obtain ⟨f, hf, rfl⟩ := List.mem_map.mp h
      exact Or.inl ⟨fs, f, rfl, (findings_eq_ok_iff.mp hfindings).2 f hf, rfl⟩

theorem rule_eq_of_mem_diagnostics {e : Diagnostic} (h : e ∈ r.diagnostics d) :
    e.rule = r.id := by
  rcases exists_of_mem_diagnostics h with ⟨_, f, _, hf, rfl⟩ | ⟨fault, _, rfl⟩
  · exact hf
  · rfl

theorem severity_of_mem_diagnostics_of_fault {e : Diagnostic} (h : e ∈ r.diagnostics d)
    (hkind : e.kind = .detectorFault) : e.severity = .error := by
  rcases exists_of_mem_diagnostics h with ⟨_, f, _, _, rfl⟩ | ⟨fault, _, rfl⟩
  · exact nomatch hkind
  · rfl

theorem diagnostics_eq_of_fault {fault : Fault} (h : r.findings d = .error fault) :
    r.diagnostics d = [faultDiagnostic d.path r.id fault] := by
  rw [diagnostics, h]

/-- Selecting diagnostics by name keeps all that a rule has or nothing of it. -/
theorem filter_diagnostics (p : String → Bool) :
    (r.diagnostics d).filter (fun e => p e.rule) = if p r.id then r.diagnostics d else [] := by
  have hrule : ∀ e ∈ r.diagnostics d, p e.rule = p r.id := fun e he =>
    congrArg p (rule_eq_of_mem_diagnostics he)
  rw [List.filter_congr hrule]
  cases p r.id with
  | false => exact List.filter_false _
  | true => exact List.filter_true _

end Rule

/-! ## An analysis commutes with a selection of rules -/

namespace Document

variable {d : Document}

theorem analyze_eq_merge (hclean : d.hasErrors = false) (rules : List Rule) :
    d.analyze rules = Diagnostic.merge (rules.flatMap fun r => r.diagnostics d) := by
  have hnone : d.parseError? = none := by
    rw [parseError?, Option.map_eq_none_iff, firstFlaw?, List.find?_eq_none]
    simpa [hasErrors] using hclean
  rw [analyze, hnone]

theorem filter_flatMap_diagnostics (p : String → Bool) (rules : List Rule) :
    (rules.flatMap fun r => r.diagnostics d).filter (fun e => p e.rule) =
      (rules.filter fun r => p r.id).flatMap fun r => r.diagnostics d := by
  induction rules with
  | nil => rfl
  | cons r rules ih =>
      rw [List.flatMap_cons, List.filter_append, ih, Rule.filter_diagnostics]
      rw [List.filter_cons]
      split
      · rw [List.flatMap_cons]
      · rw [List.nil_append]

theorem analyze_filter (hclean : d.hasErrors = false) (p : String → Bool) (rules : List Rule) :
    (d.analyze rules).filter (fun e => p e.rule) = d.analyze (rules.filter fun r => p r.id) := by
  have hkey : ∀ a b : Diagnostic, a.key = b.key → p a.rule = p b.rule := fun a b h =>
    congrArg (fun k => p k.1) h
  rw [analyze_eq_merge hclean, analyze_eq_merge hclean, ← Diagnostic.merge_filter hkey,
    filter_flatMap_diagnostics]

end Document

/-! ## Rules with distinct names -/

section DistinctNames

variable {d : Document} {rules others : List Rule}

theorem Rule.filter_id_eq_singleton (hids : (rules.map Rule.id).Nodup) {r : Rule}
    (hr : r ∈ rules) : rules.filter (fun q => q.id == r.id) = [r] := by
  induction rules with
  | nil => exact absurd hr List.not_mem_nil
  | cons q rules ih =>
      rw [List.map_cons, List.nodup_cons] at hids
      rcases List.mem_cons.mp hr with rfl | hr
      · rw [List.filter_cons_of_pos (by simp), List.filter_eq_nil_iff.mpr]
        intro q hq heq
        exact hids.1 (beq_iff_eq.mp heq ▸ List.mem_map_of_mem hq)
      · have hne : ¬ (q.id == r.id) = true := fun heq =>
          hids.1 (beq_iff_eq.mp heq ▸ List.mem_map_of_mem hr)
        rw [List.filter_cons, if_neg hne, ih hids.2 hr]

/-- Of rules with distinct names at most one has the name given, so their order is lost. -/
theorem Rule.filter_id_eq_of_perm (hids : (rules.map Rule.id).Nodup) (hperm : others.Perm rules)
    (rule : String) :
    others.filter (fun r => r.id == rule) = rules.filter (fun r => r.id == rule) := by
  have hselected := hperm.filter fun r => r.id == rule
  by_cases hknown : ∃ r ∈ rules, r.id = rule
  · obtain ⟨r, hr, rfl⟩ := hknown
    rw [Rule.filter_id_eq_singleton hids hr] at hselected ⊢
    exact hselected.eq_singleton
  · have hnone : rules.filter (fun r => r.id == rule) = [] := by
      rw [List.filter_eq_nil_iff]
      exact fun r hr heq => hknown ⟨r, hr, beq_iff_eq.mp heq⟩
    rw [hnone] at hselected ⊢
    exact hselected.eq_nil

theorem Document.analyze_perm (hclean : d.hasErrors = false) (hids : (rules.map Rule.id).Nodup)
    (hperm : others.Perm rules) : d.analyze others = d.analyze rules := by
  rw [analyze_eq_merge hclean, analyze_eq_merge hclean]
  refine Diagnostic.merge_congr_of_rules fun rule => ?_
  rw [filter_flatMap_diagnostics (fun id => id == rule),
    filter_flatMap_diagnostics (fun id => id == rule), Rule.filter_id_eq_of_perm hids hperm]

theorem Document.analyze_singleton_of_fault (hclean : d.hasErrors = false) {r : Rule}
    {fault : Fault} (hfault : r.findings d = .error fault) :
    d.analyze [r] = [faultDiagnostic d.path r.id fault] := by
  rw [analyze_eq_merge hclean, List.flatMap_singleton, Rule.diagnostics_eq_of_fault hfault,
    Diagnostic.merge_singleton]

/-- The order of rules with distinct names does not matter, and what an analysis says of a rule is
what it says when the rule is run alone.  A rule that does not return a list of its own findings has
exactly one diagnostic, its fault, and what is said of the other rules is what would be said without
it. -/
theorem Document.analyze_independent (hclean : d.hasErrors = false)
    (hids : (rules.map Rule.id).Nodup) :
    (∀ others : List Rule, others.Perm rules → d.analyze others = d.analyze rules) ∧
      ∀ r ∈ rules,
        (d.analyze rules).filter (fun e => e.rule == r.id) = d.analyze [r] ∧
        (d.analyze rules).filter (fun e => e.rule != r.id) =
          d.analyze (rules.filter fun q => q.id != r.id) ∧
        ((∀ fs : List Finding, r.run d = .returned (fs.map Item.finding) → ∃ f ∈ fs, f.rule ≠ r.id) →
          ∃ fault, r.findings d = .error fault ∧
            d.analyze [r] =
              [⟨d.path, r.id, .error, .fileStart, faultMessage r.id fault, .detectorFault⟩]) := by
  refine ⟨fun others hperm => analyze_perm hclean hids hperm, fun r hr => ⟨?_, ?_, ?_⟩⟩
  · rw [analyze_filter hclean (fun id => id == r.id), Rule.filter_id_eq_singleton hids hr]
  · exact analyze_filter hclean (fun id => id != r.id) rules
  · intro hforeign
    cases hfindings : r.findings d with
    | error fault => exact ⟨fault, rfl, analyze_singleton_of_fault hclean hfindings⟩
    | ok fs =>
        obtain ⟨hrun, hown⟩ := Rule.findings_eq_ok_iff.mp hfindings
        obtain ⟨f, hf, hne⟩ := hforeign fs hrun
        exact absurd (hown f hf) hne

end DistinctNames

/-! ## A rule that crashes beside one that finds something -/

/-- A file without text. -/
def Document.blank : Document :=
  ⟨"blank.ts", .ofString "", .node ⟨"program", true, false, none, 0, 0⟩ []⟩

/-- A rule that finds something at the start of every file. -/
def Rule.noticing (id : String) : Rule :=
  ⟨id, .functional, .warning, "", .custom fun _ => .returned [.finding ⟨id, .fileStart, id⟩]⟩

/-- A rule that crashes on every file. -/
def Rule.crashing (id : String) : Rule :=
  ⟨id, .functional, .warning, "", .custom fun _ => .crashed .absentText⟩

/-- The one that crashes has its fault, in either order, and the other one its finding. -/
theorem Document.analyze_noticing_crashing :
    blank.hasErrors = false ∧ ([Rule.noticing "a", Rule.crashing "b"].map Rule.id).Nodup ∧
      blank.analyze [Rule.crashing "b", Rule.noticing "a"] =
        blank.analyze [Rule.noticing "a", Rule.crashing "b"] ∧
      (blank.analyze [Rule.noticing "a", Rule.crashing "b"]).filter (fun e => e.rule != "b") =
        blank.analyze [Rule.noticing "a"] ∧
      ∃ fault, blank.analyze [Rule.crashing "b"] =
        [⟨"blank.ts", "b", .error, .fileStart, faultMessage "b" fault, .detectorFault⟩] := by
  have hclean : blank.hasErrors = false := by decide
  have hids : ([Rule.noticing "a", Rule.crashing "b"].map Rule.id).Nodup := by decide
  obtain ⟨hperm, hrules⟩ := analyze_independent hclean hids
  obtain ⟨_, hothers, hfault⟩ := hrules (Rule.crashing "b") (by simp)
  obtain ⟨fault, _, hfault⟩ := hfault fun fs hrun => nomatch hrun
  exact ⟨hclean, hids, hperm _ (List.Perm.swap _ _ _), hothers, fault, hfault⟩

end CodeConventions
