import CodeConventions.Proofs.Settings.Selection

/-!
# The rules of the library

A rule of the library is a check under the name of the check, with any options and any severity.
Giving it options or a severity leaves it one, so all rules of a registry that settings describe are
rules of the library, each name once.

Such a rule returns findings of its own only.  So it has its check's findings, or the check's crash
is its fault; there is nothing in between.
-/

namespace CodeConventions

/-- The rule is one of the library, with any options and any severity. -/
def Rule.IsBuiltin (r : Rule) : Prop := ∃ c : Check, r.detector = .check c ∧ r.id = c.info.id

/-- Options do not change what a check is known by. -/
theorem Check.info_make {c : Check} {k : Configurable} (h : c.configurable? = some k)
    (options : k.Options) : (k.make options).info = c.info := by
  cases c <;> cases h <;> rfl

theorem Check.info_configure? {c b : Check} {entries : Json.Entries}
    (h : c.configure? entries = some (.good b)) : b.info = c.info := by
  obtain ⟨k, hk, hread⟩ := Option.map_eq_some_iff.mp h
  cases hrecord : Field.readRecord k.fields k.defaults entries with
  | good options =>
    rw [hrecord] at hread
    cases hread
    exact info_make hk options
  | bad issues =>
    rw [hrecord] at hread
    cases hread

namespace Rule

variable {r c : Rule} {d : Document} {entries : Json.Entries}

theorem isBuiltin_ofCheck (c : Check) : (ofCheck c).IsBuiltin := ⟨c, rfl, rfl⟩

theorem isBuiltin_of_mem_builtin (h : r ∈ builtin) : r.IsBuiltin := by
  obtain ⟨c, _, rfl⟩ := List.mem_map.mp h
  exact isBuiltin_ofCheck c

theorem IsBuiltin.withSeverity (h : r.IsBuiltin) (severity : Severity) :
    (r.withSeverity severity).IsBuiltin := h

theorem IsBuiltin.configure (h : r.IsBuiltin) (hc : r.configure entries = .ok c) :
    c.IsBuiltin := by
  obtain ⟨check, hdetector, hid⟩ := h
  unfold Rule.configure configuredCheck? at hc
  rw [hdetector] at hc
  split at hc
  next b hb =>
    rw [← Except.ok.inj hc]
    exact ⟨b, rfl, hid.trans (congrArg RuleInfo.id (Check.info_configure? hb)).symm⟩
  next => exact nomatch hc
  next =>
    split at hc
    · rw [← Except.ok.inj hc]
      exact ⟨check, hdetector, hid⟩
    · exact nomatch hc

/-! ## Findings -/

/-- A rule of the library has the findings of its check, or its check's crash as its fault. -/
theorem findings_eq_of_check {check : Check} (hdetector : r.detector = .check check)
    (hid : r.id = check.info.id) (d : Document) :
    r.findings d = (check.findings d).mapError Fault.crashed := by
  unfold findings run
  rw [hdetector]
  dsimp only
  cases hfound : check.findings d with
  | error crash => rfl
  | ok fs =>
    refine (acceptItems_ok_iff _ _ _).mpr ⟨rfl, fun f hf => ?_⟩
    obtain ⟨rs, _, rfl⟩ := Except.map_eq_ok_iff.mp hfound
    obtain ⟨remark, _, rfl⟩ := List.mem_map.mp hf
    exact hid.symm

end Rule

/-! ## The rules of a registry -/

namespace Settings

variable {s : Settings} {r c : Rule} {rs cs : List Rule}

theorem isBuiltin_of_configure (hr : r.IsBuiltin) (h : s.configure r = .ok c) : c.IsBuiltin := by
  unfold configure at h
  obtain ⟨b, hb, rfl⟩ := Except.map_eq_ok_iff.mp h
  refine Rule.IsBuiltin.withSeverity ?_ _
  cases hlookup : s.ruleOptions.lookup r.id with
  | none =>
    rw [hlookup] at hb
    rwa [← Except.ok.inj hb]
  | some entries =>
    rw [hlookup] at hb
    exact hr.configure hb

theorem ids_of_configureAll (h : s.configureAll rs = .ok cs) :
    cs.map Rule.id = rs.map Rule.id := by
  induction rs generalizing cs with
  | nil => rw [← Except.ok.inj h]
  | cons r rs ih =>
    obtain ⟨c, rest, hc, hrest, rfl⟩ := configureAll_cons_eq_ok_iff.mp h
    rw [List.map_cons, List.map_cons, ih hrest, (configure_eq_ok hc).1]

/-- The rules that settings describe are rules of the library, each name once. -/
theorem isBuiltin_of_registry {g : Registry} (h : s.registry = .ok g) :
    (∀ r ∈ g.rules, r.IsBuiltin) ∧ (g.rules.map Rule.id).Nodup := by
  have hconfigured := configureAll_of_registry h
  constructor
  · intro c hc
    obtain ⟨r, hr, hconfigure⟩ := exists_of_mem_configureAll hconfigured hc
    exact isBuiltin_of_configure
      (Rule.isBuiltin_of_mem_builtin (List.mem_filter.mp hr).1) hconfigure
  · rw [ids_of_configureAll hconfigured]
    exact builtin_ids_nodup.sublist (List.filter_sublist.map Rule.id)

end Settings

end CodeConventions
