import CodeConventions.Proofs.Rules.Builtin

/-!
# The registry that settings describe

Settings can fail to describe a registry in two ways only.  They name a rule that the library does
not have; that is looked at first, for all names in the settings.  Or they give a rule that they
select options that it cannot take.  Otherwise the registry has the selected rules in the order of
the library, each with the options and the severity that it is given, and takes no more rules.

Main statement: `Settings.registry_outcome`.

## Strategy

A rule of the library is a check, and `Rule.configure_cases` says of each check and all entries
that it either takes them or rejects them.  Configured rules keep their names, which differ from
each other, so no registration is refused and the loop over the selected rules ends early only at
a rule that rejects its options (`registerConfigured_cases`).
-/

namespace CodeConventions

/-! ## Options of a check -/

namespace Check

variable {check b : Check} {entries : Json.Entries}

/-- The check with the options that some entries describe; a check without options takes no
entries. -/
inductive Configured (check : Check) (entries : Json.Entries) : Check → Prop
  | options {k : Configurable} {o : k.Options} (hk : check.configurable? = some k)
      (ho : Field.readRecord k.fields k.defaults entries = .good o) :
      Configured check entries (k.make o)
  | none (hk : check.configurable? = none) (hentries : entries = []) :
      Configured check entries check

/-- The entries describe no options of the check. -/
inductive Rejects (check : Check) (entries : Json.Entries) : Prop
  | invalid {k : Configurable} {issues : List Issue} (hk : check.configurable? = some k)
      (hissues : Field.readRecord k.fields k.defaults entries = .bad issues)
  | noOptions (hk : check.configurable? = none) (hentries : entries ≠ [])

/-- The options of the check, if it has any, are their defaults. -/
def HasDefaults (check : Check) : Prop :=
  ∀ k ∈ check.configurable?, k.make k.defaults = check

instance (check : Check) : Decidable check.HasDefaults :=
  inferInstanceAs (Decidable (∀ k ∈ check.configurable?, _))

theorem hasDefaults_of_mem_all : ∀ check ∈ all, check.HasDefaults := by decide

/-- Options do not make a check another one. -/
theorem Configured.info_eq (h : check.Configured entries b) : b.info = check.info := by
  cases h with
  | options hk ho => exact info_make hk _
  | none => rfl

theorem Configured.not_rejects (h : check.Configured entries b) : ¬ check.Rejects entries := by
  intro hrejects
  cases h with
  | options hk ho =>
      cases hrejects with
      | invalid hk' hissues =>
          obtain rfl := Option.some.inj (hk.symm.trans hk')
          exact nomatch ho.symm.trans hissues
      | noOptions hk' => exact nomatch hk.symm.trans hk'
  | none hk hentries =>
      cases hrejects with
      | invalid hk' => exact nomatch hk.symm.trans hk'
      | noOptions _ hentries' => exact hentries' hentries

end Check

/-- A rule that is a check takes its options or rejects them. -/
theorem Rule.configure_cases {r : Rule} {check : Check} (hdetector : r.detector = .check check)
    (entries : Json.Entries) :
    (∃ b, check.Configured entries b ∧
      r.configure entries = .ok { r with detector := .check b }) ∨
      check.Rejects entries ∧ ∃ e, r.configure entries = .error e := by
  rw [configure, configuredCheck?, hdetector]
  simp only [Check.configure?]
  cases hk : check.configurable? with
  | none =>
      by_cases hentries : entries = []
      · refine .inl ⟨check, .none hk hentries, ?_⟩
        rw [hentries, ← hdetector]
        rfl
      · refine .inr ⟨.noOptions hk hentries, .noOptions r.id, ?_⟩
        simp [hentries]
  | some k =>
      cases ho : Field.readRecord k.fields k.defaults entries with
      | good o => exact .inl ⟨k.make o, .options hk ho, by rw [Option.map_some, ho]; rfl⟩
      | bad issues => exact .inr ⟨.invalid hk ho, .invalid issues, by rw [Option.map_some, ho]; rfl⟩

/-! ## Rules under settings -/

namespace Settings

variable {s : Settings} {r c : Rule} {rs : List Rule}

/-- The settings name a rule that the library does not have. -/
def NamesUnknown (s : Settings) : Prop :=
  ∃ id ∈ (s.ruleOptions.map Prod.fst ++ s.severityOverrides.map Prod.fst) ++
    (s.rules ++ s.disabledRules), id ∉ Rule.builtin.map Rule.id

/-- The rules of the library that the settings select, in the order of the library. -/
def selected (s : Settings) : List Rule := Rule.builtin.filter fun r => s.Selects r.id

/-- The settings give a rule options that it cannot take. -/
def Rejects (s : Settings) (r : Rule) : Prop :=
  ∃ entries check, s.ruleOptions.lookup r.id = some entries ∧ r.detector = .check check ∧
    check.Rejects entries

/-- The settings make the second rule of the first one: it has the options that they give and else
its defaults, the severity that they give and else its own, and is otherwise the same. -/
structure Gives (s : Settings) (r c : Rule) : Prop where
  id : c.id = r.id
  category : c.category = r.category
  description : c.description = r.description
  severity : c.severity = (s.severityOverrides.lookup r.id).getD r.severity
  defaults : s.ruleOptions.lookup r.id = none →
    ∃ check, r.detector = .check check ∧ c.detector = .check check ∧ check.HasDefaults
  options : ∀ entries, s.ruleOptions.lookup r.id = some entries →
    ∃ a b, r.detector = .check a ∧ c.detector = .check b ∧ a.Configured entries b ∧
      b.info = a.info

theorem configure_of_lookup_eq_some {entries : Json.Entries}
    (h : s.ruleOptions.lookup r.id = some entries) :
    s.configure r = (r.configure entries).map fun c => c.withSeverity (s.severityOf r) := by
  rw [configure, h]

theorem configure_of_lookup_eq_none (h : s.ruleOptions.lookup r.id = none) :
    s.configure r = .ok (r.withSeverity (s.severityOf r)) := by
  rw [configure, h]
  rfl

/-- A rule of the library takes what the settings give it, or rejects its options. -/
theorem configure_cases (hr : r ∈ Rule.builtin) :
    (∃ c, s.configure r = .ok c ∧ s.Gives r c) ∨
      s.Rejects r ∧ ∃ e, s.configure r = .error e := by
  obtain ⟨check, hcheck, rfl⟩ := List.mem_map.mp hr
  cases hlookup : s.ruleOptions.lookup (Rule.ofCheck check).id with
  | none =>
      refine .inl ⟨_, configure_of_lookup_eq_none hlookup, ⟨rfl, rfl, rfl, rfl, fun _ => ?_, ?_⟩⟩
      · exact ⟨check, rfl, rfl, Check.hasDefaults_of_mem_all check hcheck⟩
      · intro entries h
        exact nomatch hlookup.symm.trans h
  | some entries =>
      have hdetector : (Rule.ofCheck check).detector = .check check := rfl
      rw [configure_of_lookup_eq_some hlookup]
      rcases Rule.configure_cases hdetector entries with ⟨b, hb, hok⟩ | ⟨hrejects, e, he⟩
      · rw [hok]
        refine .inl ⟨_, rfl, ⟨rfl, rfl, rfl, rfl, fun h => ?_, fun given h => ?_⟩⟩
        · exact nomatch hlookup.symm.trans h
        · obtain rfl := Option.some.inj (hlookup.symm.trans h)
          exact ⟨check, b, rfl, rfl, hb, hb.info_eq⟩
      · rw [he]
        exact .inr ⟨⟨entries, check, hlookup, rfl, hrejects⟩, e, rfl⟩

theorem Gives.not_rejects (h : s.Gives r c) : ¬ s.Rejects r := by
  rintro ⟨entries, check, hlookup, hdetector, hrejects⟩
  obtain ⟨a, b, ha, -, hconfigured, -⟩ := h.options entries hlookup
  obtain rfl := Detector.check.inj (ha.symm.trans hdetector)
  exact hconfigured.not_rejects hrejects

/-! ## Registering the configured rules -/

/-- The rules are configured and registered one after the other; only a rule that rejects its
options ends that early. -/
theorem registerConfigured_cases {g : Registry} {l : Ledger} (hg : g.Refines l)
    (hopen : l.isClosed = false) (hrs : ∀ r ∈ rs, r ∈ Rule.builtin)
    (hids : (l.ids ++ rs.map Rule.id).Nodup) :
    (∃ cs next, List.Forall₂ s.Gives rs cs ∧ next.Refines (l.append cs) ∧
      s.registerConfigured g rs = .ok next) ∨
      ∃ r ∈ rs, s.Rejects r ∧ ∃ e, s.registerConfigured g rs = .error (.options r.id e) := by
  induction rs generalizing g l with
  | nil => exact .inl ⟨[], g, .nil, l.append_nil.symm ▸ hg, rfl⟩
  | cons r rs ih =>
      rcases configure_cases (s := s) (hrs r List.mem_cons_self) with ⟨c, hok, hc⟩ |
        ⟨hrejects, e, he⟩
      · have hnew : c.id ∉ l.ids := by
          rw [hc.id]
          intro hr
          exact List.disjoint_of_nodup_append hids hr List.mem_cons_self
        cases hnext : g.register c with
        | error e =>
            have hrefused := hg.register_eq_error_iff.mp hnext
            rw [Ledger.refusal?_eq_none_iff.mpr ⟨hopen, hnew⟩] at hrefused
            exact nomatch hrefused
        | ok next =>
            have hrest : ((l.append [c]).ids ++ rs.map Rule.id).Nodup := by
              rw [Ledger.ids_append, List.map_singleton, hc.id, List.append_assoc]
              exact hids
            have hstep : s.registerConfigured g (r :: rs) = s.registerConfigured next rs := by
              rw [registerConfigured, hok]
              simp only [hnext]
            rw [hstep]
            rcases ih (hg.register hnext) hopen (fun q hq => hrs q (List.mem_cons_of_mem r hq))
              hrest with ⟨cs, last, hgives, hlast, heq⟩ | ⟨q, hq, hrejects, e, heq⟩
            · rw [Ledger.append_append] at hlast
              exact .inl ⟨c :: cs, last, .cons hc hgives, hlast, heq⟩
            · exact .inr ⟨q, List.mem_cons_of_mem r hq, hrejects, e, heq⟩
      · refine .inr ⟨r, List.mem_cons_self, hrejects, e, ?_⟩
        rw [registerConfigured, he]

/-! ## The registry -/

theorem Gives.of_forall₂ {cs : List Rule} (h : List.Forall₂ s.Gives rs cs) (hr : r ∈ rs) :
    ¬ s.Rejects r := by
  induction h with
  | nil => exact absurd hr List.not_mem_nil
  | cons hgives _ ih =>
      rcases List.mem_cons.mp hr with rfl | hr
      · exact hgives.not_rejects
      · exact ih hr

/-- The first unknown name of a rule that is configured, if there is one. -/
theorem find?_unknown_eq_none_iff {ids : List String} :
    (ids.find? fun id => !catalog.contains id) = none ↔
      ∀ id ∈ ids, id ∈ Rule.builtin.map Rule.id := by
  rw [List.find?_eq_none]
  refine forall₂_congr fun id _ => ?_
  rw [catalog_refines.contains_eq, Bool.not_eq_true', decide_eq_false_iff_not, not_not]
  rfl

/-- Names that are unknown are found, be they those of configured rules or of selected ones. -/
theorem registry_of_namesUnknown (h : s.NamesUnknown) :
    ∃ id, s.registry = .error (.refused (.unknown id)) := by
  rw [registry]
  cases hfound : s.configuredRules.find? fun id => !catalog.contains id with
  | some id => exact ⟨id, rfl⟩
  | none =>
      obtain ⟨id, hid, hnot⟩ := h
      have hknown := find?_unknown_eq_none_iff.mp hfound
      have hselected : id ∈ s.rules ++ s.disabledRules :=
        (List.mem_append.mp hid).resolve_left fun hconfigured => hnot (hknown id hconfigured)
      obtain ⟨other, -, -, heq⟩ :=
        catalog_refines.select_of_unknown (s := s.selection) ⟨id, hselected, hnot⟩
      rw [heq]
      exact ⟨other, rfl⟩

theorem selects_iff_admits (hr : r ∈ Rule.builtin) : s.Selects r.id ↔ s.selection.Admits r := by
  constructor
  · rintro ⟨q, hq, hid, hnamed, hfamily, hdisabled⟩
    obtain rfl := List.inj_on_of_nodup_map builtin_ids_nodup hq hr hid
    exact ⟨hnamed, hfamily, hdisabled⟩
  · rintro ⟨hnamed, hfamily, hdisabled⟩
    exact ⟨r, hr, rfl, hnamed, hfamily, hdisabled⟩

/-- Where all names are known, the registry is that of the selected rules, configured. -/
theorem registry_of_not_namesUnknown (h : ¬ s.NamesUnknown) :
    s.registry = (s.registerConfigured .empty s.selected).map Registry.freeze := by
  have hknown : ∀ id ∈ s.configuredRules ++ (s.rules ++ s.disabledRules),
      id ∈ Rule.builtin.map Rule.id := fun id hid => by_contra fun hnot => h ⟨id, hid, hnot⟩
  have hconfigured := find?_unknown_eq_none_iff.mpr
    fun id hid => hknown id (List.mem_append_left _ hid)
  have hselect : catalog.select s.selection = .ok s.selected := by
    rw [catalog_refines.select_of_known fun id hid => hknown id (List.mem_append_right _ hid)]
    refine congrArg Except.ok (List.filter_congr fun r hr => ?_)
    rw [decide_eq_decide, selects_iff_admits hr]
  rw [registry, hconfigured, hselect]

/-- Settings that name a rule that the library does not have are refused for that; other settings
fail if they give a rule that they select options that it cannot take; and all others describe a
frozen registry of the selected rules, in the order of the library, each as it is given. -/
theorem registry_outcome (s : Settings) :
    ((∃ id, s.registry = .error (.refused (.unknown id))) ↔ s.NamesUnknown) ∧
      (¬ s.NamesUnknown → ((∃ id e, s.registry = .error (.options id e)) ↔
        ∃ r ∈ s.selected, s.Rejects r)) ∧
      (¬ s.NamesUnknown → (¬ ∃ r ∈ s.selected, s.Rejects r) →
        ∃ g rules, s.registry = .ok g ∧ List.Forall₂ s.Gives s.selected rules ∧
          g.Refines { rules := rules, isClosed := true }) := by
  have hids : (([] : List String) ++ s.selected.map Rule.id).Nodup :=
    builtin_ids_nodup.sublist (List.filter_sublist.map Rule.id)
  have hselected : ∀ r ∈ s.selected, r ∈ Rule.builtin := fun r hr => (List.mem_filter.mp hr).1
  have hbuilt := registerConfigured_cases (s := s) Registry.refines_empty rfl hselected hids
  by_cases hnames : s.NamesUnknown
  · exact ⟨iff_of_true (registry_of_namesUnknown hnames) hnames, fun h => absurd hnames h,
      fun h => absurd hnames h⟩
  · rw [registry_of_not_namesUnknown hnames]
    rcases hbuilt with ⟨cs, next, hgives, hnext, heq⟩ | ⟨r, hr, hrejects, e, heq⟩
    · have hfits : ¬ ∃ r ∈ s.selected, s.Rejects r := by
        rintro ⟨r, hr, hrejects⟩
        exact Gives.of_forall₂ hgives hr hrejects
      rw [heq]
      refine ⟨iff_of_false ?_ hnames, fun _ => iff_of_false ?_ hfits, fun _ _ => ?_⟩
      · rintro ⟨id, h⟩
        exact nomatch h
      · rintro ⟨id, e, h⟩
        exact nomatch h
      · exact ⟨next.freeze, cs, rfl, hgives, hnext.freeze⟩
    · rw [heq]
      refine ⟨iff_of_false ?_ hnames, fun _ => iff_of_true ⟨r.id, e, rfl⟩ ⟨r, hr, hrejects⟩,
        fun _ hfits => absurd ⟨r, hr, hrejects⟩ hfits⟩
      rintro ⟨id, h⟩
      exact nomatch h

end Settings

end CodeConventions
