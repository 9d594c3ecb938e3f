import CodeConventions.Rules.Registry
import Mathlib

/-!
# The registry as a list that only grows

Whoever uses a registry may think of a list of rules to which rules are added at the end until it
is closed: a *ledger*.  A ledger says of every request what may be answered, and knows nothing of
families that are kept on the side.

Main statement: whatever is asked of a new registry, one request after the other, it answers as a
ledger does, and shows the rules of that ledger afterwards (`Registry.performAll_refines`).

## Strategy

`Registry.Refines` relates a registry to a ledger: the same rules, each name once, and for each
family the rules of the ledger that belong to it.  A registration is the only step that touches
both stores of the registry, so `lookup_withMember` is where the two are kept in step; a
registration of several rules goes through by induction on the rules that are left.  A run is then
an induction on the requests.
-/

namespace CodeConventions

/-! ## Requests and answers -/

/-- What can be asked of a registry. -/
inductive RegistryRequest where
  | register (r : Rule)
  | registerAll (rs : List Rule)
  | freeze
  | get (id : String)
  | all
  | ofCategory (c : Category)
  | select (s : Selection)
  | contains (id : String)
  | size

/-- The request only looks at the registry. -/
def RegistryRequest.isLookup : RegistryRequest → Bool
  | .register _ | .registerAll _ | .freeze => false
  | .get _ | .all | .ofCategory _ | .select _ | .contains _ | .size => true

/-- What a registry answers. -/
inductive RegistryAnswer where
  | done
  | refused (reason : RegistryError)
  | rule (r : Rule)
  | rules (rs : List Rule)
  | flag (b : Bool)
  | number (n : Nat)

namespace Registry

/-- The registry after a request, and its answer. -/
def perform (g : Registry) : RegistryRequest → Registry × RegistryAnswer
  | .register r =>
    match g.register r with
    | .ok next => (next, .done)
    | .error e => (g, .refused e)
  | .registerAll rs =>
    match g.registerAll rs with
    | (next, none) => (next, .done)
    | (next, some e) => (next, .refused e)
  | .freeze => (g.freeze, .done)
  | .get id =>
    match g.get id with
    | .ok r => (g, .rule r)
    | .error e => (g, .refused e)
  | .all => (g, .rules g.rules)
  | .ofCategory c => (g, .rules (g.ofCategory c))
  | .select s =>
    match g.select s with
    | .ok rs => (g, .rules rs)
    | .error e => (g, .refused e)
  | .contains id => (g, .flag (g.contains id))
  | .size => (g, .number g.rules.length)

/-- The registry after some requests, one after the other, and its answers. -/
def performAll (g : Registry) : List RegistryRequest → Registry × List RegistryAnswer
  | [] => (g, [])
  | q :: rest =>
    let (next, answer) := g.perform q
    let (last, answers) := next.performAll rest
    (last, answer :: answers)

/-- A new registry after some requests. -/
def after (qs : List RegistryRequest) : Registry := (empty.performAll qs).1

end Registry

/-! ## Ledgers -/

/-- The selection admits the rule: it names the rule and the family, if it names any, and does not
exclude the rule. -/
def Selection.Admits (s : Selection) (r : Rule) : Prop :=
  (s.rules = [] ∨ r.id ∈ s.rules) ∧ (s.categories = [] ∨ r.category ∈ s.categories) ∧
    r.id ∉ s.excluded

instance (s : Selection) (r : Rule) : Decidable (s.Admits r) :=
  inferInstanceAs (Decidable (_ ∧ _))

theorem Selection.wants_eq (s : Selection) (r : Rule) : s.wants r = decide (s.Admits r) := by
  rw [Bool.eq_iff_iff, decide_eq_true_iff]
  simp [wants, Admits, and_assoc]

/-- A list of rules to which rules are added at the end, until it is closed. -/
structure Ledger where
  rules : List Rule := []
  isClosed : Bool := false

namespace Ledger

/-- The names of the rules. -/
def ids (l : Ledger) : List String := l.rules.map Rule.id

/-- Why the ledger does not take a rule, if it does not. -/
def refusal? (l : Ledger) (r : Rule) : Option RegistryError :=
  if l.isClosed then some (.frozen r.id)
  else if r.id ∈ l.ids then some (.duplicate r.id)
  else none

/-- The ledger with more rules at its end. -/
def append (l : Ledger) (rs : List Rule) : Ledger := { l with rules := l.rules ++ rs }

/-- The ledger takes each of some rules, one after the other. -/
inductive Takes : Ledger → List Rule → Prop
  | nil {l : Ledger} : Takes l []
  | cons {l : Ledger} {r : Rule} {rs : List Rule} (hr : l.refusal? r = none)
      (hrs : Takes (l.append [r]) rs) : Takes l (r :: rs)

/-- A ledger may answer a request in this way, and is another ledger afterwards. -/
inductive Step : Ledger → RegistryRequest → RegistryAnswer → Ledger → Prop
  | registered {l : Ledger} {r : Rule} (h : l.refusal? r = none) :
      Step l (.register r) .done (l.append [r])
  | refused {l : Ledger} {r : Rule} {e : RegistryError} (h : l.refusal? r = some e) :
      Step l (.register r) (.refused e) l
  | registeredAll {l : Ledger} {rs : List Rule} (h : l.Takes rs) :
      Step l (.registerAll rs) .done (l.append rs)
  /-- The rules before the first one that is refused stay. -/
  | registeredSome {l : Ledger} {taken rest : List Rule} {r : Rule} {e : RegistryError}
      (htaken : l.Takes taken) (h : (l.append taken).refusal? r = some e) :
      Step l (.registerAll (taken ++ r :: rest)) (.refused e) (l.append taken)
  | frozen {l : Ledger} : Step l .freeze .done { l with isClosed := true }
  | found {l : Ledger} {r : Rule} (h : r ∈ l.rules) : Step l (.get r.id) (.rule r) l
  | notFound {l : Ledger} {id : String} (h : id ∉ l.ids) :
      Step l (.get id) (.refused (.unknown id)) l
  | all {l : Ledger} : Step l .all (.rules l.rules) l
  | ofCategory {l : Ledger} {c : Category} :
      Step l (.ofCategory c) (.rules (l.rules.filter fun r => r.category = c)) l
  | selected {l : Ledger} {s : Selection} (h : ∀ id ∈ s.rules ++ s.excluded, id ∈ l.ids) :
      Step l (.select s) (.rules (l.rules.filter fun r => s.Admits r)) l
  | notSelected {l : Ledger} {s : Selection} {id : String} (hid : id ∈ s.rules ++ s.excluded)
      (h : id ∉ l.ids) : Step l (.select s) (.refused (.unknown id)) l
  | contains {l : Ledger} {id : String} : Step l (.contains id) (.flag (id ∈ l.ids)) l
  | size {l : Ledger} : Step l .size (.number l.rules.length) l

/-- A ledger may answer some requests, one after the other, in this way, and is another ledger
afterwards. -/
inductive Steps : Ledger → List RegistryRequest → List RegistryAnswer → Ledger → Prop
  | nil {l : Ledger} : Steps l [] [] l
  | cons {l next last : Ledger} {q : RegistryRequest} {a : RegistryAnswer}
      {qs : List RegistryRequest} {as : List RegistryAnswer} (h : Step l q a next)
      (hrest : Steps next qs as last) : Steps l (q :: qs) (a :: as) last

theorem append_nil (l : Ledger) : l.append [] = l := by
  rw [append, List.append_nil]

theorem append_append (l : Ledger) (rs qs : List Rule) :
    (l.append rs).append qs = l.append (rs ++ qs) := by
  rw [append, append, append, List.append_assoc]

theorem ids_append (l : Ledger) (rs : List Rule) :
    (l.append rs).ids = l.ids ++ rs.map Rule.id := List.map_append

theorem refusal?_eq_none_iff {l : Ledger} {r : Rule} :
    l.refusal? r = none ↔ l.isClosed = false ∧ r.id ∉ l.ids := by
  rw [refusal?]
  cases l.isClosed with
  | true => simp
  | false => by_cases h : r.id ∈ l.ids <;> simp [h]

end Ledger

/-! ## Families -/

namespace Registry

variable {g next : Registry} {l : Ledger} {r : Rule} {rs : List Rule}

/-- A rule that is added is added to its own family, and to no other. -/
theorem lookup_withMember (r : Rule) (c : Category) (families : List (Category × List Rule)) :
    ((withMember r families).lookup c).getD [] =
      (families.lookup c).getD [] ++ if r.category = c then [r] else [] := by
  induction families with
  | nil =>
      rw [withMember, List.lookup_cons]
      by_cases h : c = r.category
      · simp [h]
      · rw [beq_false_of_ne h, if_neg (Ne.symm h)]
        rfl
  | cons family rest ih =>
      obtain ⟨d, members⟩ := family
      rw [withMember]
      by_cases hc : c = d
      · subst hc
        by_cases hr : r.category = c
        · simp [hr]
        · simp [hr, Ne.symm hr]
      · have hnot : (c == d) = false := beq_false_of_ne hc
        by_cases hr : d = r.category
        · have hother : r.category ≠ c := fun h => hc (hr.trans h).symm
          rw [if_pos hr, if_neg hother, List.lookup_cons, List.lookup_cons, hnot,
            List.append_nil]
        · rw [if_neg hr, List.lookup_cons, List.lookup_cons, hnot]
          exact ih

/-! ## Single requests -/

/-- The registry shows the rules of the ledger, all of them and family by family. -/
structure Refines (g : Registry) (l : Ledger) : Prop where
  rules : g.rules = l.rules
  isFrozen : g.isFrozen = l.isClosed
  ids_nodup : l.ids.Nodup
  ofCategory : ∀ c, g.ofCategory c = l.rules.filter fun r => r.category = c

theorem refines_empty : empty.Refines {} where
  rules := rfl
  isFrozen := rfl
  ids_nodup := List.nodup_nil
  ofCategory _ := rfl

theorem Refines.freeze (h : g.Refines l) : g.freeze.Refines { l with isClosed := true } where
  rules := h.rules
  isFrozen := rfl
  ids_nodup := h.ids_nodup
  ofCategory := h.ofCategory

theorem Refines.contains_eq (h : g.Refines l) (id : String) :
    g.contains id = decide (id ∈ l.ids) := by
  rw [Bool.eq_iff_iff, contains_eq_true_iff, h.rules, decide_eq_true_iff, Ledger.ids]

/-- The registry refuses the rules that the ledger refuses, for the same reasons. -/
theorem Refines.register_eq_error_iff (h : g.Refines l) {e : RegistryError} :
    g.register r = .error e ↔ l.refusal? r = some e := by
  rw [register, Ledger.refusal?, h.isFrozen, h.contains_eq]
  cases l.isClosed with
  | true => simp
  | false => by_cases hid : r.id ∈ l.ids <;> simp [hid]

theorem Refines.refusal?_eq_none (h : g.Refines l) (hnext : g.register r = .ok next) :
    l.refusal? r = none := by
  rw [Option.eq_none_iff_forall_ne_some]
  intro e he
  rw [h.register_eq_error_iff.mpr he] at hnext
  exact nomatch hnext

/-- A rule that is registered comes at the end of the ledger. -/
theorem Refines.register (h : g.Refines l) (hnext : g.register r = .ok next) :
    next.Refines (l.append [r]) := by
  obtain ⟨-, hid⟩ := Ledger.refusal?_eq_none_iff.mp (h.refusal?_eq_none hnext)
  obtain ⟨-, -, rfl⟩ := register_eq_ok_iff.mp hnext
  refine ⟨?_, h.isFrozen, ?_, fun c => ?_⟩
  · exact congrArg (· ++ [r]) h.rules
  · rw [Ledger.ids_append]
    exact h.ids_nodup.append (List.nodup_singleton _) (List.disjoint_singleton.mpr hid)
  · have hmember : (l.append [r]).rules.filter (fun q => q.category = c) =
        l.rules.filter (fun q => q.category = c) ++ if r.category = c then [r] else [] := by
      rw [Ledger.append, List.filter_append]
      by_cases hc : r.category = c <;> simp [hc]
    rw [hmember, ← h.ofCategory c]
    exact lookup_withMember r c g.families

/-- Of several rules, the registry takes those before the first one that the ledger refuses. -/
theorem Refines.registerAll_cases (h : g.Refines l) (rs : List Rule) :
    (∃ next, g.registerAll rs = (next, none) ∧ l.Takes rs ∧ next.Refines (l.append rs)) ∨
      ∃ taken r rest e next, rs = taken ++ r :: rest ∧ g.registerAll rs = (next, some e) ∧
        l.Takes taken ∧ (l.append taken).refusal? r = some e ∧
        next.Refines (l.append taken) := by
  -- the induction is on the rules that are left; those taken before are in the ledger
  induction rs generalizing g l with
  | nil => exact .inl ⟨g, rfl, .nil, l.append_nil.symm ▸ h⟩
  | cons r rs ih =>
      rw [Registry.registerAll]
      cases hr : g.register r with
      | error e =>
          have he := h.register_eq_error_iff.mp hr
          rw [← l.append_nil] at he h
          exact .inr ⟨[], r, rs, e, g, rfl, rfl, .nil, he, h⟩
      | ok more =>
          have hnone := h.refusal?_eq_none hr
          rcases ih (h.register hr) with ⟨next, hall, htakes, hnext⟩ |
            ⟨taken, q, rest, e, next, rfl, hall, htakes, he, hnext⟩
          · rw [Ledger.append_append] at hnext
            exact .inl ⟨next, hall, .cons hnone htakes, hnext⟩
          · rw [Ledger.append_append] at he hnext
            exact .inr ⟨r :: taken, q, rest, e, next, rfl, hall, .cons hnone htakes, he, hnext⟩

/-- Rules with names of their own are registered without a refusal. -/
theorem exists_registerAll_empty (hids : (rs.map Rule.id).Nodup) :
    ∃ next, empty.registerAll rs = (next, none) ∧ next.Refines { rules := rs } := by
  rcases refines_empty.registerAll_cases rs with ⟨next, hall, -, hnext⟩ |
    ⟨taken, r, rest, e, next, rfl, -, -, he, -⟩
  · exact ⟨next, hall, hnext⟩
  · have hnot : r.id ∉ taken.map Rule.id := by
      rw [List.map_append, List.map_cons] at hids
      exact fun hr => List.disjoint_of_nodup_append hids hr List.mem_cons_self
    have hnone : ({ rules := taken } : Ledger).refusal? r = none :=
      Ledger.refusal?_eq_none_iff.mpr ⟨rfl, hnot⟩
    exact nomatch hnone.symm.trans he

/-- The rule with a name is the rule of the ledger with that name. -/
theorem Refines.get (h : g.Refines l) (id : String) : l.Step (.get id) (g.perform (.get id)).2 l := by
  rw [perform, Registry.get, find?, h.rules]
  cases hfound : l.rules.find? fun r => r.id == id with
  | some r =>
      have hid : r.id = id := by simpa using List.find?_some hfound
      subst hid
      exact .found (List.mem_of_find?_eq_some hfound)
  | none =>
      refine .notFound fun hid => ?_
      obtain ⟨r, hr, hname⟩ := List.mem_map.mp hid
      exact List.find?_eq_none.mp hfound r hr (beq_iff_eq.mpr hname)

theorem Refines.unknownIn_eq (h : g.Refines l) (s : Selection) :
    g.unknownIn s = (s.rules ++ s.excluded).filter fun id => id ∉ l.ids := by
  simp [unknownIn, h.contains_eq]

/-- A selection of names that are all known gives rules of the ledger in their order. -/
theorem Refines.select_of_known (h : g.Refines l) {s : Selection}
    (hknown : ∀ id ∈ s.rules ++ s.excluded, id ∈ l.ids) :
    g.select s = .ok (l.rules.filter fun r => s.Admits r) := by
  have hnone : g.unknownIn s = [] := by
    rw [h.unknownIn_eq, List.filter_eq_nil_iff]
    intro id hid
    simpa using hknown id hid
  have hwants : s.wants = fun r => decide (s.Admits r) := funext s.wants_eq
  rw [Registry.select, hnone, h.rules, hwants]

/-- A selection with a name that is not known is refused for such a name. -/
theorem Refines.select_of_unknown (h : g.Refines l) {s : Selection}
    (hunknown : ∃ id ∈ s.rules ++ s.excluded, id ∉ l.ids) :
    ∃ id ∈ s.rules ++ s.excluded, id ∉ l.ids ∧ g.select s = .error (.unknown id) := by
  rw [Registry.select]
  cases hfound : g.unknownIn s with
  | nil =>
      rw [h.unknownIn_eq, List.filter_eq_nil_iff] at hfound
      obtain ⟨id, hid, hnot⟩ := hunknown
      exact absurd (decide_eq_true hnot) (hfound id hid)
  | cons id rest =>
      have hid : id ∈ g.unknownIn s := hfound ▸ List.mem_cons_self
      rw [h.unknownIn_eq] at hid
      obtain ⟨hnamed, hnot⟩ := List.mem_filter.mp hid
      exact ⟨id, hnamed, of_decide_eq_true hnot, rfl⟩

theorem Refines.select (h : g.Refines l) (s : Selection) :
    l.Step (.select s) (g.perform (.select s)).2 l := by
  rw [perform]
  by_cases hunknown : ∃ id ∈ s.rules ++ s.excluded, id ∉ l.ids
  · obtain ⟨id, hid, hnot, heq⟩ := h.select_of_unknown hunknown
    rw [heq]
    exact .notSelected hid hnot
  · have hknown : ∀ id ∈ s.rules ++ s.excluded, id ∈ l.ids := by simpa using hunknown
    rw [h.select_of_known hknown]
    exact .selected hknown

theorem perform_of_isLookup {q : RegistryRequest} (hq : q.isLookup = true) :
    (g.perform q).1 = g := by
  cases q with
  | register | registerAll | freeze => exact nomatch hq
  | all | ofCategory | contains | size => rfl
  | get id =>
      rw [perform]
      cases g.get id <;> rfl
  | select s =>
      rw [perform]
      cases g.select s <;> rfl

/-- A registry that has answered a request is that of the ledger after the request. -/
theorem Refines.perform (h : g.Refines l) (q : RegistryRequest) :
    ∃ k, l.Step q (g.perform q).2 k ∧ (g.perform q).1.Refines k := by
  by_cases hlookup : q.isLookup = true
  · refine ⟨l, ?_, by rwa [perform_of_isLookup hlookup]⟩
    cases q with
    | register | registerAll | freeze => exact nomatch hlookup
    | get id => exact h.get id
    | all =>
        rw [Registry.perform, h.rules]
        exact .all
    | ofCategory c =>
        rw [Registry.perform, h.ofCategory c]
        exact .ofCategory
    | select s => exact h.select s
    | contains id =>
        rw [Registry.perform, h.contains_eq id]
        exact .contains
    | size =>
        rw [Registry.perform, h.rules]
        exact .size
  · cases q with
    | get | all | ofCategory | select | contains | size => exact absurd rfl hlookup
    | freeze => exact ⟨_, .frozen, h.freeze⟩
    | register r =>
        rw [Registry.perform]
        cases hr : g.register r with
        | error e => exact ⟨l, .refused (h.register_eq_error_iff.mp hr), h⟩
        | ok next => exact ⟨_, .registered (h.refusal?_eq_none hr), h.register hr⟩
    | registerAll rs =>
        rw [Registry.perform]
        rcases h.registerAll_cases rs with ⟨next, hall, htakes, hnext⟩ |
          ⟨taken, r, rest, e, next, rfl, hall, htakes, he, hnext⟩
        · rw [hall]
          exact ⟨_, .registeredAll htakes, hnext⟩
        · rw [hall]
          exact ⟨_, .registeredSome htakes he, hnext⟩

/-! ## Runs -/

theorem Refines.performAll (h : g.Refines l) (qs : List RegistryRequest) :
    ∃ k, l.Steps qs (g.performAll qs).2 k ∧ (g.performAll qs).1.Refines k := by
  induction qs generalizing g l with
  | nil => exact ⟨l, .nil, h⟩
  | cons q qs ih =>
      obtain ⟨next, hstep, hnext⟩ := h.perform q
      obtain ⟨last, hsteps, hlast⟩ := ih hnext
      exact ⟨last, .cons hstep hsteps, hlast⟩

/-- A registry that is frozen stays as it is, whatever is asked of it. -/
theorem perform_of_isFrozen (hg : g.isFrozen = true) (q : RegistryRequest) :
    (g.perform q).1 = g := by
  have hrefused (r : Rule) : g.register r = .error (.frozen r.id) := by
    rw [register, if_pos hg]
  by_cases hlookup : q.isLookup = true
  · exact perform_of_isLookup hlookup
  · cases q with
    | get | all | ofCategory | select | contains | size => exact absurd rfl hlookup
    | freeze =>
        obtain ⟨rules, families, isFrozen⟩ := g
        exact congrArg (Registry.mk rules families) hg.symm
    | register r => rw [perform, hrefused r]
    | registerAll rs =>
        cases rs with
        | nil => rfl
        | cons r rs => rw [perform, registerAll, hrefused r]

theorem performAll_of_isFrozen (hg : g.isFrozen = true) (qs : List RegistryRequest) :
    (g.performAll qs).1 = g := by
  induction qs with
  | nil => rfl
  | cons q qs ih =>
      calc (g.performAll (q :: qs)).1
          = ((g.perform q).1.performAll qs).1 := rfl
        _ = (g.performAll qs).1 := by rw [perform_of_isFrozen hg q]
        _ = g := ih

/-- Whatever is asked of a new registry, it answers as a ledger does and shows the rules of the
ledger, each name once and family by family.  A look-up and a registration that is refused leave
the registry as it is, and once it is frozen it stays as it is. -/
theorem performAll_refines (qs : List RegistryRequest) :
    (∃ l, Ledger.Steps {} qs (empty.performAll qs).2 l ∧ (after qs).Refines l) ∧
      (∀ q, q.isLookup = true → ((after qs).perform q).1 = after qs) ∧
      (∀ r e, ((after qs).perform (.register r)).2 = .refused e →
        ((after qs).perform (.register r)).1 = after qs) ∧
      ∀ more, ((after qs).freeze.performAll more).1 = (after qs).freeze := by
  refine ⟨refines_empty.performAll qs, fun q hq => perform_of_isLookup hq, fun r e he => ?_,
    fun more => performAll_of_isFrozen rfl more⟩
  rw [perform] at he ⊢
  cases hr : (after qs).register r with
  | error e => rfl
  | ok next =>
      rw [hr] at he
      exact nomatch he

end Registry

end CodeConventions
