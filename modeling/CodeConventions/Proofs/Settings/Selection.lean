import CodeConventions.Proofs.Analysis.Independence
import CodeConventions.Proofs.Except
import CodeConventions.Proofs.Registry.Ledger
import CodeConventions.Settings.Registry

/-!
# Settings select and relabel

Settings choose some rules of the library and give them options and severities.  Beside settings
with the same options that choose all rules and override nothing, they change an analysis in two
ways only: they leave out the diagnostics of the rules they do not select, and they put their
severities on findings.

## Strategy

A rule that is configured keeps its name and its family, so selecting rules may come before
configuring them or after, and an override changes the severity alone.  Hence the rules of one
registry are a selection of the rules of the other one with other severities
(`configureAll_filter_eq`).  A severity is no part of what a merge looks at (`merge_map`), and a
selection of rules commutes with the analysis (`analyze_filter`).
-/

namespace CodeConventions

/-! ## Configured rules -/

theorem Rule.configure_eq_ok {r c : Rule} {entries : Json.Entries}
    (h : r.configure entries = .ok c) :
    c.id = r.id ∧ c.category = r.category ∧ c.severity = r.severity := by
  rw [configure] at h
  split at h
  · rw [← Except.ok.inj h]
    exact ⟨rfl, rfl, rfl⟩
  · exact nomatch h
  · split at h
    · rw [← Except.ok.inj h]
      exact ⟨rfl, rfl, rfl⟩
    · exact nomatch h

namespace Settings

variable {s plain : Settings} {r c : Rule} {rs cs : List Rule}

/-- A configured rule differs from the rule in its options and in the severity it is given. -/
theorem configure_eq_ok (h : s.configure r = .ok c) :
    c.id = r.id ∧ c.category = r.category ∧ c.severity = s.severityOf r := by
  rw [configure] at h
  obtain ⟨b, hb, rfl⟩ := Except.map_eq_ok_iff.mp h
  cases hlookup : s.ruleOptions.lookup r.id with
  | none =>
      rw [hlookup] at hb
      rw [← Except.ok.inj hb]
      exact ⟨rfl, rfl, rfl⟩
  | some entries =>
      rw [hlookup] at hb
      obtain ⟨hid, hcategory, _⟩ := Rule.configure_eq_ok hb
      exact ⟨hid, hcategory, rfl⟩

/-- With the same options a rule is configured to the same rule, but for its severity. -/
theorem configure_of_ruleOptions_eq (hoptions : plain.ruleOptions = s.ruleOptions)
    (h : plain.configure r = .ok c) : s.configure r = .ok (c.withSeverity (s.severityOf r)) := by
  rw [configure, hoptions] at h
  obtain ⟨b, hb, rfl⟩ := Except.map_eq_ok_iff.mp h
  rw [configure, hb]
  rfl

/-- Some rules with the options and severities that they are given, before they are registered; the
first that cannot be given its options counts. -/
def configureAll (s : Settings) : List Rule → Except RegistryFault (List Rule)
  | [] => .ok []
  | r :: rest =>
    match s.configure r with
    | .error e => .error (.options r.id e)
    | .ok c => (s.configureAll rest).map (c :: ·)

theorem configureAll_cons_eq_ok_iff :
    s.configureAll (r :: rs) = .ok cs ↔
      ∃ c rest, s.configure r = .ok c ∧ s.configureAll rs = .ok rest ∧ c :: rest = cs := by
  rw [configureAll]
  cases s.configure r with
  | error e => simp
  | ok c => simp [Except.map_eq_ok_iff]

theorem exists_of_mem_configureAll (h : s.configureAll rs = .ok cs) (hc : c ∈ cs) :
    ∃ r ∈ rs, s.configure r = .ok c := by
  induction rs generalizing cs with
  | nil =>
      rw [← Except.ok.inj h] at hc
      exact absurd hc List.not_mem_nil
  | cons r rs ih =>
      obtain ⟨b, rest, hb, hrest, rfl⟩ := configureAll_cons_eq_ok_iff.mp h
      rcases List.mem_cons.mp hc with rfl | hc
      · exact ⟨r, List.mem_cons_self .., hb⟩
      · obtain ⟨q, hq, hconfigure⟩ := ih hrest hc
        exact ⟨q, List.mem_cons_of_mem _ hq, hconfigure⟩

theorem severityOf_of_severityOverrides_eq_nil (h : s.severityOverrides = []) (r : Rule) :
    s.severityOf r = r.severity := by
  rw [severityOf, h, List.lookup_nil, Option.getD_none]

/-! ## One registry beside the other -/

theorem wants_eq_of_configure (selection : Selection) (h : s.configure r = .ok c) :
    selection.wants c = selection.wants r := by
  obtain ⟨hid, hcategory, _⟩ := configure_eq_ok h
  rw [Selection.wants, Selection.wants, hid, hcategory]

/-- Rules that are selected and configured are the configured rules selected, with the severities of
the settings. -/
theorem configureAll_filter_eq (hoptions : plain.ruleOptions = s.ruleOptions)
    (hoverrides : plain.severityOverrides = []) {all : List Rule}
    (hall : plain.configureAll rs = .ok all)
    (hselected : s.configureAll (rs.filter s.selection.wants) = .ok cs) :
    cs = (all.filter s.selection.wants).map fun c => c.withSeverity (s.severityOf c) := by
  induction rs generalizing all cs with
  | nil =>
      rw [← Except.ok.inj hall, ← Except.ok.inj hselected, List.filter_nil, List.map_nil]
  | cons r rs ih =>
      obtain ⟨c, rest, hc, hrest, rfl⟩ := configureAll_cons_eq_ok_iff.mp hall
      have hwants := wants_eq_of_configure s.selection hc
      have hseverity : s.severityOf c = s.severityOf r := by
        obtain ⟨hid, _, hseverity⟩ := configure_eq_ok hc
        rw [severityOf, severityOf, hid, hseverity,
          severityOf_of_severityOverrides_eq_nil hoverrides]
      rw [List.filter_cons] at hselected ⊢
      rw [hwants]
      split at hselected
      next hwanted =>
        obtain ⟨b, others, hb, hothers, rfl⟩ := configureAll_cons_eq_ok_iff.mp hselected
        rw [configure_of_ruleOptions_eq hoptions hc] at hb
        rw [if_pos hwanted, List.map_cons, ← ih hrest hothers, hseverity, Except.ok.inj hb]
      next hwanted =>
        rw [if_neg hwanted, ← ih hrest hselected]

theorem select_eq_ok {g : Registry} {selection : Selection} (h : g.select selection = .ok rs) :
    rs = g.rules.filter selection.wants := by
  rw [Registry.select] at h
  cases hunknown : g.unknownIn selection with
  | nil =>
      rw [hunknown] at h
      exact (Except.ok.inj h).symm
  | cons id rest =>
      rw [hunknown] at h
      cases h

/-- What is registered are the configured rules, in their order. -/
theorem configureAll_of_registerConfigured {g next : Registry}
    (h : s.registerConfigured g rs = .ok next) :
    ∃ cs, s.configureAll rs = .ok cs ∧ next.rules = g.rules ++ cs := by
  induction rs generalizing g with
  | nil => exact ⟨[], rfl, by rw [← Except.ok.inj h, List.append_nil]⟩
  | cons r rs ih =>
      rw [registerConfigured] at h
      cases hc : s.configure r with
      | error e =>
          rw [hc] at h
          exact nomatch h
      | ok c =>
          cases hg : g.register c with
          | error e =>
              simp only [hc, hg] at h
              exact nomatch h
          | ok more =>
              simp only [hc, hg] at h
              obtain ⟨cs, hcs, hrules⟩ := ih h
              refine ⟨c :: cs, configureAll_cons_eq_ok_iff.mpr ⟨c, cs, hc, hcs, rfl⟩, ?_⟩
              rw [hrules, Registry.rules_register hg, List.append_assoc, List.singleton_append]

theorem builtin_ids_nodup : (Rule.builtin.map Rule.id).Nodup := by
  rw [Rule.builtin, List.map_map]
  exact Check.info_all_nodup

/-- The catalog has the rules of the library, and none of them is refused. -/
theorem catalog_refines : catalog.Refines { rules := Rule.builtin } := by
  obtain ⟨g, hg, hrefines⟩ := Registry.exists_registerAll_empty builtin_ids_nodup
  rwa [catalog, hg]

theorem configureAll_of_registry {g : Registry} (h : s.registry = .ok g) :
    s.configureAll (Rule.builtin.filter s.selection.wants) = .ok g.rules := by
  rw [registry] at h
  cases hunknown : s.configuredRules.find? fun id => !catalog.contains id with
  | some id =>
      rw [hunknown] at h
      exact nomatch h
  | none =>
      rw [hunknown] at h
      cases hselected : catalog.select s.selection with
      | error e =>
          rw [hselected] at h
          exact nomatch h
      | ok selected =>
          rw [hselected] at h
          obtain ⟨next, hnext, rfl⟩ := Except.map_eq_ok_iff.mp h
          obtain ⟨cs, hcs, hrules⟩ := configureAll_of_registerConfigured hnext
          have hrest : selected = Rule.builtin.filter s.selection.wants := by
            rw [select_eq_ok hselected, catalog_refines.rules]
          rw [← hrest, hcs]
          exact congrArg Except.ok hrules.symm

theorem configureAll_of_registry_of_all {g : Registry} (h : s.registry = .ok g)
    (hrules : s.rules = []) (hcategories : s.categories = []) (hdisabled : s.disabledRules = []) :
    s.configureAll Rule.builtin = .ok g.rules := by
  have hall : Rule.builtin.filter s.selection.wants = Rule.builtin := by
    rw [List.filter_eq_self]
    intro r _
    simp [Selection.wants, selection, hrules, hcategories, hdisabled]
  rw [← configureAll_of_registry h, hall]

/-! ## Selected names -/

/-- The settings select the rule with the name. -/
def Selects (s : Settings) (id : String) : Prop :=
  ∃ r ∈ Rule.builtin, r.id = id ∧ (s.rules = [] ∨ id ∈ s.rules) ∧
    (s.categories = [] ∨ r.category ∈ s.categories) ∧ id ∉ s.disabledRules

instance (s : Settings) (id : String) : Decidable (s.Selects id) :=
  inferInstanceAs (Decidable (∃ r ∈ Rule.builtin, _))

theorem wants_eq_true_iff :
    s.selection.wants r = true ↔ (s.rules = [] ∨ r.id ∈ s.rules) ∧
      (s.categories = [] ∨ r.category ∈ s.categories) ∧ r.id ∉ s.disabledRules := by
  simp [Selection.wants, selection, and_assoc]

/-- A configured rule of the library is wanted where its name is selected. -/
theorem wants_eq_decide_selects (h : plain.configureAll Rule.builtin = .ok cs) (hc : c ∈ cs) :
    s.selection.wants c = decide (s.Selects c.id) := by
  obtain ⟨r, hr, hconfigure⟩ := exists_of_mem_configureAll h hc
  obtain ⟨hid, hcategory, _⟩ := configure_eq_ok hconfigure
  rw [Bool.eq_iff_iff, decide_eq_true_iff, wants_eq_true_iff]
  constructor
  · rintro ⟨hnamed, hfamily, hdisabled⟩
    exact ⟨r, hr, hid.symm, hnamed, hcategory ▸ hfamily, hdisabled⟩
  · rintro ⟨q, hq, hqid, hnamed, hfamily, hdisabled⟩
    obtain rfl : q = r := List.inj_on_of_nodup_map builtin_ids_nodup hq hr (hqid.trans hid)
    exact ⟨hnamed, hcategory ▸ hfamily, hdisabled⟩

/-! ## Relabelled diagnostics -/

/-- The diagnostic with the severity that the settings give to findings of its rule.  What is no
finding keeps its severity. -/
def relabel (s : Settings) (e : Diagnostic) : Diagnostic :=
  match e.kind with
  | .finding => { e with severity := (s.severityOverrides.lookup e.rule).getD e.severity }
  | .detectorFault | .parseError => e

theorem relabel_key (e : Diagnostic) : (s.relabel e).key = e.key := by
  rw [relabel]
  split <;> rfl

theorem relabel_message (e : Diagnostic) : (s.relabel e).message = e.message := by
  rw [relabel]
  split <;> rfl

/-- A rule with the severity it is given has its diagnostics relabelled. -/
theorem diagnostics_withSeverity (d : Document) :
    (c.withSeverity (s.severityOf c)).diagnostics d = (c.diagnostics d).map s.relabel := by
  have hfindings : (c.withSeverity (s.severityOf c)).findings d = c.findings d := rfl
  rw [Rule.diagnostics, hfindings, Rule.diagnostics]
  cases h : c.findings d with
  | error fault => rfl
  | ok fs =>
      have hown := (Rule.findings_eq_ok_iff.mp h).2
      rw [List.map_map]
      refine List.map_congr_left fun f hf => ?_
      simp only [Function.comp_apply, relabel, Diagnostic.ofFinding, hown f hf]
      rfl

theorem flatMap_diagnostics_relabel (d : Document) (rules : List Rule) :
    ((rules.map fun c => c.withSeverity (s.severityOf c)).flatMap fun r => r.diagnostics d) =
      (rules.flatMap fun r => r.diagnostics d).map s.relabel := by
  rw [List.flatMap_map, List.map_flatMap]
  exact List.flatMap_congr fun c _ => diagnostics_withSeverity d

theorem analyze_map_withSeverity {d : Document} (hclean : d.hasErrors = false)
    (rules : List Rule) :
    d.analyze (rules.map fun c => c.withSeverity (s.severityOf c)) =
      (d.analyze rules).map s.relabel := by
  rw [Document.analyze_eq_merge hclean, Document.analyze_eq_merge hclean,
    flatMap_diagnostics_relabel, Diagnostic.merge_map relabel_key relabel_message]

/-- What settings say of a file is what settings with the same options, which select all rules and
override no severity, say of it, without the rules that are not selected and with the severities of
the overrides on findings.  Faults stay errors. -/
theorem analyze_eq_filter_map_relabel {d : Document} (hclean : d.hasErrors = false)
    {g all : Registry} (hselected : s.registry = .ok g) (hall : plain.registry = .ok all)
    (hoptions : plain.ruleOptions = s.ruleOptions) (hrules : plain.rules = [])
    (hcategories : plain.categories = []) (hdisabled : plain.disabledRules = [])
    (hoverrides : plain.severityOverrides = []) :
    d.analyze g.rules =
        ((d.analyze all.rules).filter fun e => decide (s.Selects e.rule)).map s.relabel ∧
      ∀ e ∈ d.analyze g.rules, e.kind = .detectorFault → e.severity = .error := by
  have hconfigured := configureAll_of_registry_of_all hall hrules hcategories hdisabled
  have hfilter : all.rules.filter s.selection.wants =
      all.rules.filter fun c => decide (s.Selects c.id) :=
    List.filter_congr fun c hc => wants_eq_decide_selects hconfigured hc
  constructor
  · rw [configureAll_filter_eq hoptions hoverrides hconfigured
      (configureAll_of_registry hselected), analyze_map_withSeverity hclean, hfilter,
      Document.analyze_filter hclean fun id => decide (s.Selects id)]
  · intro e he hkind
    rw [Document.analyze_eq_merge hclean] at he
    obtain ⟨r, _, hr⟩ := List.mem_flatMap.mp (Diagnostic.mem_of_mem_merge he)
    exact Rule.severity_of_mem_diagnostics_of_fault hr hkind

/-! ## Settings for one rule -/

/-- Settings that select one rule and make its findings warnings. -/
def onlyThrows : Settings where
  rules := ["functional/no-throw-statements"]
  severityOverrides := [("functional/no-throw-statements", .warning)]

end Settings

/-- The file `throw x;`. -/
def Document.throwing : Document :=
  ⟨"throw.ts", .ofString "throw x;",
    .node ⟨"program", true, false, none, 0, 8⟩
      [.node ⟨"throw_statement", true, false, none, 0, 8⟩
        [.node ⟨"throw", false, false, none, 0, 5⟩ [],
          .node ⟨"identifier", true, false, none, 6, 7⟩ [],
          .node ⟨";", false, false, none, 7, 8⟩ []]]⟩

/-- The settings for one rule, beside the settings as they come. -/
theorem Settings.analyze_onlyThrows :
    Document.throwing.hasErrors = false ∧
      ∃ g all, onlyThrows.registry = .ok g ∧ Settings.registry {} = .ok all ∧
        Document.throwing.analyze g.rules =
          ((Document.throwing.analyze all.rules).filter fun e =>
            decide (onlyThrows.Selects e.rule)).map onlyThrows.relabel := by
  have hclean : Document.throwing.hasErrors = false := by decide
  obtain ⟨g, hg⟩ : ∃ g, onlyThrows.registry = .ok g := ⟨_, rfl⟩
  obtain ⟨all, hall⟩ : ∃ all, Settings.registry {} = .ok all := ⟨_, rfl⟩
  exact ⟨hclean, g, all, hg, hall,
    (analyze_eq_filter_map_relabel hclean hg hall rfl rfl rfl rfl rfl).1⟩

end CodeConventions
