import CodeConventions.Proofs.Rules.Apart
import CodeConventions.Proofs.Rules.Reactivity.Variable
import CodeConventions.Proofs.Tree.Attribute
import CodeConventions.Proofs.Tree.Climb
import CodeConventions.Rules.Reactivity.Read

/-!
# What the rule on reactive variables says twice of a range

A use of a reactive variable is shown by its name, by the chain of members that begins with it, or
by the call around it.  The name and the chain lead back to the use.  The call does not: reads of
several variables that are lost in one call are all shown by the call.

## Strategy

Accessors that are passed along, asynchronous functions and uses are nodes of different kinds, or
stand in nodes of different kinds.  Of the uses one looks at pairs of a variable and a use.  Where
two pairs are shown by one node that is no call, the uses are one, and the variables have one
declaration and one name.
-/

namespace CodeConventions.Document

variable {d : Document} {call n p use : Node} {v w : ReactiveVariable}

/-! ## Chains of members -/

/-- What is accessed has the name at its base that the access has. -/
theorem Regular.rootIdentifier?_of_isAccessedBy (hd : d.Regular) (hn : n ∈ d.root.nodes)
    (hp : p ∈ d.root.nodes) (hkind : n.kind ∈ firmKinds) (h : n.isAccessedBy p = true) :
    p.kind ∈ Node.accessKinds ∧ p.rootIdentifier? = n.rootIdentifier? := by
  obtain ⟨haccess, hoperand⟩ := Bool.and_eq_true_iff.mp h
  rw [Node.isOneOf_iff] at haccess
  obtain ⟨o, ho, hsame⟩ := (Option.any_eq_true _ _).mp hoperand
  obtain rfl := hd.eq_of_same hn (mem_of_operand? hp ho) hkind hsame
  obtain ⟨c, hc, rfl⟩ := Option.map_eq_some_iff.mp ho
  exact ⟨haccess, by rw [Node.rootIdentifier?_of_child? haccess hc, Node.rootIdentifier?_unwrap]⟩

/-- The whole chain has the name at its base with which it begins. -/
theorem Regular.rootIdentifier?_wholeAccess (hd : d.Regular) (hn : n ∈ d.root.nodes)
    (hkind : n.kind ∈ Node.accessKinds) :
    n.wholeAccess ∈ d.root.nodes ∧ n.wholeAccess.kind ∈ Node.accessKinds ∧
      n.wholeAccess.rootIdentifier? = n.rootIdentifier? := by
  have hfirm : ∀ kind ∈ Node.accessKinds, kind ∈ firmKinds := by decide
  induction n using Node.climbInduction with
  | step n ih =>
      rw [Node.wholeAccess]
      split
      next p hp =>
        split
        next haccessed =>
          have hpmem := mem_of_climb? hn hp
          obtain ⟨hpkind, hroot⟩ :=
            hd.rootIdentifier?_of_isAccessedBy hn hpmem (hfirm _ hkind) haccessed
          rw [← hroot]
          exact ih p hp hpmem hpkind
        next => exact ⟨hn, hkind, rfl⟩
      next => exact ⟨hn, hkind, rfl⟩

/-! ## What shows a use -/

/-- The message says that a read is lost. -/
def IsLostRead (message : String) : Prop :=
  ∃ name, message = unwrappedRead name ∨ message = untrackedRead name

/-- The kinds of nodes in which a use is shown by its name. -/
def namingKinds : List String :=
  ["assignment_expression", "augmented_assignment_expression", "update_expression",
    "member_expression", "array", "variable_declarator"]

/-- The ways in which a use is shown. -/
inductive ShowsUse (d : Document) (use : Node) : Remark → Prop where
  | byName {p : Node} (message : String) (hp : use.climb? = some p) (hkind : p.kind ∈ namingKinds) :
      ShowsUse d use (d.remark use message)
  | byCall {call : Node} (message : String) (hcall : call ∈ d.find ["call_expression"])
      (hlost : IsLostRead message) : ShowsUse d use (d.remark call message)
  | byChain {n : Node} (message : String) (hn : n ∈ d.root.nodes)
      (hkind : n.kind ∈ Node.accessKinds) (hroot : n.rootIdentifier? = some use) :
      ShowsUse d use (d.remark n message)

/-- There is at most one remark, and it shows the use. -/
private def AtMostShows (d : Document) (use : Node) (rs : List Remark) : Prop :=
  rs = [] ∨ ∃ r, rs = [r] ∧ d.ShowsUse use r

theorem lostRead_cases (d : Document) (c : ReactiveContext) (owner use shown : Node)
    (name : String) :
    d.lostRead c owner use shown name = [] ∨
      ∃ message, IsLostRead message ∧
        d.lostRead c owner use shown name = [d.remark shown message] := by
  rw [lostRead]
  split_ifs
  · exact Or.inl rfl
  · exact Or.inr ⟨_, ⟨name, Or.inl rfl⟩, rfl⟩
  · exact Or.inr ⟨_, ⟨name, Or.inr rfl⟩, rfl⟩

theorem mem_of_callAround? (huse : use ∈ d.root.nodes) (h : use.callAround? = some call) :
    call ∈ d.find ["call_expression"] := by
  have hfind : ∀ q : Node, q ∈ d.root.nodes → q.kind = "call_expression" →
      q ∈ d.find ["call_expression"] := fun q hq hkind =>
    List.mem_filter.mpr ⟨hq, Node.isOneOf_iff.mpr (List.mem_singleton.mpr hkind)⟩
  rw [Node.callAround?] at h
  split at h
  · cases h
  next p hp =>
    have hpmem := mem_of_climb? huse hp
    split_ifs at h with hcall
    · obtain rfl := Option.some_inj.mp h
      simp only [Bool.and_eq_true, decide_eq_true_eq] at hcall
      exact hfind p hpmem hcall.1
    · obtain ⟨hparent, hkind⟩ := Option.filter_eq_some_iff.mp h
      exact hfind call (mem_of_parent? hpmem hparent) (beq_iff_eq.mp hkind)

private theorem atMostShows_signalUse (c : ReactiveContext) (huse : use ∈ d.root.nodes) :
    d.AtMostShows use (d.signalUse c v use) := by
  rw [signalUse]
  split
  next call hcall =>
    rcases d.lostRead_cases c v.owner use call (d.text v.name) with heq | ⟨message, hlost, heq⟩
    · exact Or.inl heq
    · exact Or.inr ⟨_, heq, .byCall message (mem_of_callAround? huse hcall) hlost⟩
  next =>
    split
    next harray =>
      rcases d.lostRead_cases c v.owner use use (d.text v.name) with heq | ⟨message, _, heq⟩
      · exact Or.inl heq
      · rw [Node.isInArgumentArray] at harray
        split at harray
        · cases harray
        next p hp =>
          refine Or.inr ⟨_, heq, .byName message hp ?_⟩
          rw [beq_iff_eq.mp (Bool.and_eq_true_iff.mp harray).1]
          decide
    next => exact Or.inl rfl

private theorem Regular.atMostShows_propsUse (hd : d.Regular) (c : ReactiveContext)
    (huse : use ∈ d.root.nodes) (hkind : use.kind = "identifier") :
    d.AtMostShows use (d.propsUse c v use) := by
  rw [propsUse]
  split
  · exact Or.inl rfl
  next parent hparent =>
    split
    next haccessed =>
      split
      · exact Or.inl rfl
      · have hmem := mem_of_climb? huse hparent
        obtain ⟨haccess, hroot⟩ :=
          hd.rootIdentifier?_of_isAccessedBy huse hmem (by rw [hkind]; decide) haccessed
        obtain ⟨hwhole, hwholekind, hwholeroot⟩ := hd.rootIdentifier?_wholeAccess hmem haccess
        dsimp only
        rcases d.lostRead_cases c v.owner use parent.wholeAccess (d.text parent.wholeAccess) with
          heq | ⟨message, _, heq⟩
        · exact Or.inl heq
        · refine Or.inr ⟨_, heq, .byChain message hwhole hwholekind ?_⟩
          rw [hwholeroot, hroot, Node.rootIdentifier?_of_identifier hkind]
    next =>
      split
      next hplain =>
        refine Or.inr ⟨_, rfl, .byName _ hparent ?_⟩
        have hnaming : ∀ kind ∈ ["variable_declarator", "assignment_expression"],
            kind ∈ namingKinds := by decide
        exact hnaming _ (Node.isOneOf_iff.mp hplain)
      next => exact Or.inl rfl

private theorem exists_of_isReactiveWrite (h : isReactiveWrite v use = true) :
    ∃ p, use.climb? = some p ∧ p.kind ∈ namingKinds := by
  rcases Bool.or_eq_true_iff.mp h with h | h
  · obtain ⟨p, hp, h⟩ := (Option.any_eq_true _ _).mp h
    refine ⟨p, hp, ?_⟩
    rcases Bool.or_eq_true_iff.mp h with h | h
    · have hnaming : ∀ kind ∈ ["assignment_expression", "augmented_assignment_expression"],
          kind ∈ namingKinds := by decide
      exact hnaming _ (Node.isOneOf_iff.mp (Bool.and_eq_true_iff.mp h).1)
    · rw [beq_iff_eq.mp (Bool.and_eq_true_iff.mp h).1]
      decide
  · obtain ⟨p, hp, h⟩ := (Option.any_eq_true _ _).mp (Bool.and_eq_true_iff.mp h).2
    refine ⟨p, hp, ?_⟩
    rw [beq_iff_eq.mp (Bool.and_eq_true_iff.mp (Bool.and_eq_true_iff.mp h).1).2]
    decide

private theorem Regular.atMostShows_reactiveUse (hd : d.Regular) (c : ReactiveContext)
    (huse : use ∈ d.root.nodes) (hkind : use.kind = "identifier") :
    d.AtMostShows use (d.reactiveUse c v use) := by
  rw [reactiveUse]
  split_ifs with hwrite
  · obtain ⟨p, hp, hpkind⟩ := exists_of_isReactiveWrite hwrite
    exact Or.inr ⟨_, rfl, .byName _ hp hpkind⟩
  · exact Or.inl rfl
  · cases v.kind with
    | signal => exact atMostShows_signalUse c huse
    | props => exact hd.atMostShows_propsUse c huse hkind

/-! ## Uses of variables -/

/-- The node is a use of two reactive variables, which one declaration makes of one name. -/
def IsUsedTwice (d : Document) (use : Node) : Prop :=
  ∃ v ∈ d.reactiveVariables d.synchronousFunctions,
    ∃ w ∈ d.reactiveVariables d.synchronousFunctions,
      v ≠ w ∧ v.declaration = w.declaration ∧ d.text v.name = d.text w.name ∧
        use ∈ d.usesOf v ∧ use ∈ d.usesOf w

/-- What the rule may say twice of one range: that reads are lost in one call, or one and the same of
a use of two variables. -/
def reactivityRepeated (d : Document) (r q : Remark) : Prop :=
  (IsLostRead r.message ∧ IsLostRead q.message ∧
      ∃ call ∈ d.find ["call_expression"], r.Shows call) ∨
    r = q ∧ ∃ use, d.IsUsedTwice use ∧ d.ShowsUse use r

theorem of_mem_usesOf (howner : v.owner ∈ d.root.nodes) (h : use ∈ d.usesOf v) :
    use ∈ d.root.nodes ∧ use.kind = "identifier" ∧ d.text use = d.text v.name ∧
      ∃ m, d.resolve? use = some m ∧ v.declaration.same m = true := by
  obtain ⟨hfind, hcond⟩ := List.mem_filter.mp h
  obtain ⟨hmem, hkind⟩ := List.mem_filter.mp hfind
  simp only [Bool.and_eq_true] at hcond
  obtain ⟨m, hm, hsame⟩ := (Option.any_eq_true _ _).mp hcond.2
  exact ⟨mem_of_mem_nodes howner hmem, List.mem_singleton.mp (Node.isOneOf_iff.mp hkind),
    beq_iff_eq.mp hcond.1.1, m, hm, hsame⟩

/-- The remarks about a use depend on the owner, the kind and the name of the variable only. -/
private theorem reactiveUse_congr (c : ReactiveContext) (use : Node) (howner : v.owner = w.owner)
    (hkind : v.kind = w.kind) (htext : d.text v.name = d.text w.name) :
    d.reactiveUse c v use = d.reactiveUse c w use := by
  simp only [reactiveUse, isReactiveWrite, signalUse, propsUse, howner, hkind, htext]

private theorem Regular.inner_shown (hd : d.Regular) (huse : use ∈ d.root.nodes)
    (hkind : use.kind = "identifier") {r : Remark} (h : d.ShowsUse use r) :
    ∃ n, d.Inner n ∧ r.Shows n ∧
      (n = use ∧ (∃ p, use.climb? = some p ∧ p.kind ∈ namingKinds) ∨
        n.kind = "call_expression" ∧ n ∈ d.find ["call_expression"] ∧ IsLostRead r.message ∨
          n.kind ∈ Node.accessKinds ∧ n.rootIdentifier? = some use) := by
  cases h with
  | byName message hp hpkind =>
      exact ⟨use, hd.inner_of_kind huse (by rw [hkind]; decide), d.remark_shows use _,
        Or.inl ⟨rfl, _, hp, hpkind⟩⟩
  | @byCall call message hcall hlost =>
      obtain ⟨hmem, hcallkind⟩ := mem_of_mem_find hcall
      rw [List.mem_singleton] at hcallkind
      exact ⟨call, hd.inner_of_kind hmem (by rw [hcallkind]; decide), d.remark_shows call _,
        Or.inr (Or.inl ⟨hcallkind, hcall, hlost⟩)⟩
  | @byChain n message hn haccess hroot =>
      have hfirm : ∀ kind ∈ Node.accessKinds, kind ∈ firmKinds := by decide
      exact ⟨n, hd.inner_of_kind hn (hfirm _ haccess), d.remark_shows n _,
        Or.inr (Or.inr ⟨haccess, hroot⟩)⟩

/-- Two remarks about uses are of one range only if they are lost in one call or show one use. -/
private theorem Regular.use_eq_of_spot_eq (hd : d.Regular) {other : Node} {r q : Remark}
    (huse : use ∈ d.root.nodes) (hkind : use.kind = "identifier") (hother : other ∈ d.root.nodes)
    (hotherkind : other.kind = "identifier") (hr : d.ShowsUse use r) (hq : d.ShowsUse other q)
    (hspot : r.spot = q.spot) :
    (IsLostRead r.message ∧ IsLostRead q.message ∧
      ∃ call ∈ d.find ["call_expression"], r.Shows call) ∨ use = other := by
  obtain ⟨m, hm, hrm, hmcases⟩ := hd.inner_shown huse hkind hr
  obtain ⟨n, hn, hqn, hncases⟩ := hd.inner_shown hother hotherkind hq
  obtain rfl := hd.separated_inner m n hm hn (hrm.spot_eq hqn hspot)
  have hcall : "call_expression" ∉ Node.accessKinds := by decide
  have hidentifier : "identifier" ∉ Node.accessKinds := by decide
  rcases hmcases with ⟨rfl, _⟩ | ⟨hmkind, hfind, hlost⟩ | ⟨hmkind, hroot⟩
  · rcases hncases with ⟨heq, _⟩ | ⟨hnkind, _⟩ | ⟨hnkind, _⟩
    · exact Or.inr heq
    · exact absurd (hkind.symm.trans hnkind) (by decide)
    · exact absurd (hkind ▸ hnkind) hidentifier
  · rcases hncases with ⟨rfl, _⟩ | ⟨_, _, hlost'⟩ | ⟨hnkind, _⟩
    · exact absurd (hotherkind.symm.trans hmkind) (by decide)
    · exact Or.inl ⟨hlost, hlost', m, hfind, hrm⟩
    · exact absurd (hmkind ▸ hnkind) hcall
  · rcases hncases with ⟨rfl, _⟩ | ⟨hnkind, _⟩ | ⟨_, hroot'⟩
    · exact absurd (hotherkind ▸ hmkind) hidentifier
    · exact absurd (hnkind ▸ hmkind) hcall
    · exact Or.inr (Option.some_inj.mp (hroot.symm.trans hroot'))

private theorem shows_of_mem_reactiveUse (hd : d.Regular) (c : ReactiveContext)
    (huse : use ∈ d.root.nodes) (hkind : use.kind = "identifier") {r : Remark}
    (hr : r ∈ d.reactiveUse c v use) :
    d.ShowsUse use r ∧ ∀ q ∈ d.reactiveUse c v use, q = r := by
  rcases hd.atMostShows_reactiveUse (v := v) c huse hkind with heq | ⟨r', heq, hshows⟩
  · rw [heq] at hr
    exact absurd hr List.not_mem_nil
  · rw [heq] at hr ⊢
    obtain rfl := List.mem_singleton.mp hr
    exact ⟨hshows, fun q hq => List.mem_singleton.mp hq⟩

/-- Remarks of one range about two uses, or about uses of two variables. -/
private theorem Regular.reactivityRepeated_of_spot_eq (hd : d.Regular) (c : ReactiveContext)
    (hv : v ∈ d.reactiveVariables d.synchronousFunctions)
    (hw : w ∈ d.reactiveVariables d.synchronousFunctions) {other : Node} {r q : Remark}
    (huse : use ∈ d.usesOf v) (hother : other ∈ d.usesOf w) (hne : use = other → v ≠ w)
    (hr : r ∈ d.reactiveUse c v use) (hq : q ∈ d.reactiveUse c w other) (hspot : r.spot = q.spot) :
    d.reactivityRepeated r q := by
  obtain ⟨husemem, hkind, htext, m, hm, hvm⟩ := of_mem_usesOf (owner_mem hv) huse
  obtain ⟨hothermem, hotherkind, hothertext, n, hn, hwn⟩ := of_mem_usesOf (owner_mem hw) hother
  rcases hd.use_eq_of_spot_eq husemem hkind hothermem hotherkind
    (shows_of_mem_reactiveUse hd c husemem hkind hr).1
    (shows_of_mem_reactiveUse hd c hothermem hotherkind hq).1 hspot with hlost | rfl
  · exact Or.inl hlost
  · obtain rfl : m = n := Option.some_inj.mp (hm.symm.trans hn)
    have hdeclaration : v.declaration = w.declaration := by
      rw [Node.same, beq_iff_eq] at hvm hwn
      have hkey : v.declaration.key = w.declaration.key := hvm.trans hwn.symm
      rw [Node.key, Node.key, Prod.mk.injEq, Prod.mk.injEq] at hkey
      exact hd.separated_inner _ _ (hd.inner_declaration hv) (hd.inner_declaration hw)
        (Node.spot_eq_iff.mpr ⟨hkey.1, hkey.2.1⟩)
    have hname := htext.symm.trans hothertext
    obtain ⟨howner, hvkind⟩ := hd.owner_kind_eq hv hw hdeclaration
    rw [← reactiveUse_congr c use howner hvkind hname] at hq
    obtain ⟨hshows, hone⟩ := shows_of_mem_reactiveUse hd c husemem hkind hr
    exact Or.inr ⟨(hone q hq).symm, use,
      ⟨v, hv, w, hw, hne rfl, hdeclaration, hname, huse, hother⟩, hshows⟩

private theorem Regular.pairwise_uses (hd : d.Regular) (c : ReactiveContext) :
    ((d.reactiveVariables d.synchronousFunctions).flatMap fun v =>
      (d.usesOf v).flatMap (d.reactiveUse c v)).Pairwise fun r q =>
        r.spot = q.spot → d.reactivityRepeated r q := by
  rw [List.pairwise_flatMap]
  constructor
  · intro v hv
    have hnodup : (d.usesOf v).Nodup := ((hd.nodes_nodup (owner_mem hv)).filter _).filter _
    rw [List.pairwise_flatMap]
    refine ⟨fun use huse => ?_, hnodup.imp_of_mem fun {use other} huse hother hne r hr q hq => ?_⟩
    · obtain ⟨husemem, hkind, _⟩ := of_mem_usesOf (owner_mem hv) huse
      rcases hd.atMostShows_reactiveUse (v := v) c husemem hkind with heq | ⟨r, heq, _⟩
      · rw [heq]
        exact List.Pairwise.nil
      · rw [heq]
        exact List.pairwise_singleton _ _
    · exact hd.reactivityRepeated_of_spot_eq c hv hv huse hother (fun heq => absurd heq hne) hr hq
  · refine (hd.reactiveVariables_nodup _).imp_of_mem fun {v w} hv hw hne r hr q hq => ?_
    obtain ⟨use, huse, hr⟩ := List.mem_flatMap.mp hr
    obtain ⟨other, hother, hq⟩ := List.mem_flatMap.mp hq
    exact hd.reactivityRepeated_of_spot_eq c hv hw huse hother (fun _ => hne) hr hq

/-! ## Accessors and asynchronous functions -/

/-- The node is a name in braces, or the value of an attribute. -/
private def IsPassedName (d : Document) (n : Node) : Prop :=
  d.Inner n ∧ n.kind = "identifier" ∧
    ∃ p, n.climb? = some p ∧ p.kind ∈ ["jsx_expression", "jsx_attribute"]

theorem attributeExpression?_of_mem_valueExpressions (hn : n ∈ d.valueExpressions) :
    ∃ a, d.IsAttribute a ∧ a.kind = "jsx_attribute" ∧ a.attributeExpression? = some n := by
  obtain ⟨a, ha, hn⟩ := List.mem_filterMap.mp hn
  obtain ⟨tag, htag, ha⟩ := List.mem_flatMap.mp ha
  refine ⟨a, ⟨tag, (List.mem_filter.mp htag).1, ha⟩, ?_⟩
  split at hn
  · cases hn
  next name hname =>
    split at hn
    · cases hn
    · exact ⟨(of_attributeName? hname).1, hn⟩

private theorem Nested.valueExpressions_nodup (hd : d.Nested) : d.valueExpressions.Nodup := by
  refine nodup_filterMap_of_back (hd.attributes_nodup List.filter_sublist)
    (fun n => n.ancestors.find? fun b => b.kind == "jsx_attribute") fun a _ n hn => ?_
  split at hn
  · cases hn
  next name hname =>
    split at hn
    · cases hn
    · exact (attributeExpression?_back (of_attributeName? hname).1 hn).2.1

private theorem Regular.apartOn_uncalledAccessors (hd : d.Regular) :
    ApartOn d.IsPassedName d.uncalledAccessors := by
  rw [uncalledAccessors]
  split
  · exact ApartOn.nil
  · have hpassed : ∀ n ∈ (d.contentExpressions ++ d.valueExpressions).filter
        (d.standsFor d.accessors), d.IsPassedName n := fun n hn => by
      obtain ⟨hn, hstands⟩ := List.mem_filter.mp hn
      have hkind : n.kind = "identifier" := beq_iff_eq.mp (Bool.and_eq_true_iff.mp hstands).1
      rcases List.mem_append.mp hn with hn | hn
      · obtain ⟨hmem, _, c, hc, hckind, _⟩ := exists_of_mem_contentExpressions hn
        exact ⟨hd.inner_of_kind hmem (by rw [hkind]; decide), hkind, c, hc, by rw [hckind]; decide⟩
      · obtain ⟨a, ha, hakind, hvalue⟩ := attributeExpression?_of_mem_valueExpressions hn
        obtain ⟨hmem, _, hclimb⟩ := attributeExpression?_back hakind hvalue
        refine ⟨hd.inner_of_kind (mem_of_mem_nodes ha.mem hmem) (by rw [hkind]; decide), hkind, ?_⟩
        rcases hclimb with hclimb | ⟨braces, hclimb, hbraces, _⟩
        · exact ⟨a, hclimb, by rw [hakind]; decide⟩
        · exact ⟨braces, hclimb, by rw [hbraces]; decide⟩
    refine (ApartOn.map_remark hd.separated_inner (List.Nodup.filter _ ?_) fun n hn =>
      (hpassed n hn).1).mono hpassed
    rw [List.nodup_append]
    refine ⟨hd.contentExpressions_nodup, hd.valueExpressions_nodup, ?_⟩
    rintro n hn m hm rfl
    obtain ⟨_, _, c, hc, hckind, p, hp, hpkind⟩ := exists_of_mem_contentExpressions hn
    obtain ⟨a, _, hakind, hvalue⟩ := attributeExpression?_of_mem_valueExpressions hm
    rcases (attributeExpression?_back hakind hvalue).2.2 with hclimb | ⟨braces, hclimb, _, hparent⟩
    · rw [hc, Option.some_inj] at hclimb
      rw [hclimb, hakind] at hckind
      exact absurd hckind (by decide)
    · rw [hc, Option.some_inj] at hclimb
      rw [hclimb, hparent, Option.some_inj] at hp
      rw [← hp, hakind] at hpkind
      exact absurd hpkind (by decide)

private theorem Regular.apartOn_asynchronousScopes (hd : d.Regular) :
    ApartOn (d.InnerOf functionKinds) d.asynchronousScopes := by
  have hcallback : ∀ call ∈ (d.find ["call_expression"]).filter fun c =>
      (d.libraryCallee? Reactive.library c).any Reactive.trackedRunners.contains,
      ∀ f, call.arguments.head?.map Node.unwrap = some f →
        f ∈ d.root.nodes ∧ f.callOf? = some call := fun call hcall f hf => by
    exact firstArgument_back (mem_of_mem_find (List.mem_filter.mp hcall).1).1 hf
  have hfirm : ∀ kind ∈ functionKinds, kind ∈ firmKinds := by decide
  have hinner : ∀ f ∈ (((d.find ["call_expression"]).filter fun c =>
      (d.libraryCallee? Reactive.library c).any Reactive.trackedRunners.contains).filterMap
        fun c => c.arguments.head?.map Node.unwrap).filter fun f => f.isFunction && f.isAsync,
      d.InnerOf functionKinds f := fun f hf => by
    obtain ⟨hf, hfunction⟩ := List.mem_filter.mp hf
    obtain ⟨call, hcall, hf⟩ := List.mem_filterMap.mp hf
    have hkind := Node.isOneOf_iff.mp (Bool.and_eq_true_iff.mp hfunction).1
    exact ⟨hd.inner_of_kind (hcallback call hcall f hf).1 (hfirm _ hkind), hkind⟩
  refine (ApartOn.map_remark hd.separated_inner (List.Nodup.filter _ ?_) fun f hf =>
    (hinner f hf).1).mono hinner
  exact nodup_filterMap_of_back ((hd.find_nodup _).filter _) Node.callOf? fun call hcall f hf =>
    (hcallback call hcall f hf).2

/-- No use is shown where an accessor is passed along or an asynchronous function stands. -/
private theorem Regular.spot_ne_of_use (hd : d.Regular) {r q : Remark}
    (hr : d.IsPassedName n ∨ d.InnerOf functionKinds n) (hrn : r.Shows n)
    (huse : use ∈ d.root.nodes) (hkind : use.kind = "identifier") (hq : d.ShowsUse use q) :
    r.spot ≠ q.spot := by
  intro hspot
  obtain ⟨m, hm, hqm, hcases⟩ := hd.inner_shown huse hkind hq
  have hinner : d.Inner n := by
    rcases hr with hr | hr
    · exact hr.1
    · exact hr.1
  obtain rfl := hd.separated_inner n m hinner hm (hrn.spot_eq hqm hspot)
  have hshown : n.kind ∈ "identifier" :: "call_expression" :: Node.accessKinds := by
    rcases hcases with ⟨rfl, _⟩ | ⟨hcall, _⟩ | ⟨haccess, _⟩
    · rw [hkind]
      decide
    · rw [hcall]
      decide
    · exact List.mem_cons_of_mem _ (List.mem_cons_of_mem _ haccess)
  rcases hr with ⟨_, hidentifier, p, hp, hpkind⟩ | ⟨_, hfunction⟩
  · rcases hcases with ⟨rfl, p', hp', hpkind'⟩ | ⟨hcall, _⟩ | ⟨haccess, _⟩
    · obtain rfl : p = p' := Option.some_inj.mp (hp.symm.trans hp')
      have hdisjoint : ∀ kind ∈ ["jsx_expression", "jsx_attribute"], kind ∉ namingKinds := by
        decide
      exact hdisjoint _ hpkind hpkind'
    · exact absurd (hidentifier.symm.trans hcall) (by decide)
    · exact absurd (hidentifier ▸ haccess) (by decide)
  · have hdisjoint : ∀ kind ∈ functionKinds,
        kind ∉ "identifier" :: "call_expression" :: Node.accessKinds := by decide
    exact hdisjoint _ hfunction hshown

theorem Regular.pairwise_reactivity (hd : d.Regular) (options : ReactivityOptions) :
    (d.reactivity options).Pairwise fun r q => r.spot = q.spot → d.reactivityRepeated r q := by
  have hothers := hd.apartOn_uncalledAccessors.append hd.separated_inner
    hd.apartOn_asynchronousScopes (fun n hn => hn.1) (fun n hn => hn.1) fun n hn hn' => by
      have hkind := hn'.2
      rw [hn.2.1] at hkind
      exact absurd hkind (by decide)
  rw [reactivity]
  refine List.pairwise_append.mpr ⟨?_, hd.pairwise_uses _, fun r hr q hq hspot => ?_⟩
  · exact (List.pairwise_map.mp hothers.apart).imp fun hne hspot => absurd hspot hne
  · obtain ⟨n, hn, hrn⟩ := hothers.shows r hr
    obtain ⟨v, hv, hq⟩ := List.mem_flatMap.mp hq
    obtain ⟨use, huse, hq⟩ := List.mem_flatMap.mp hq
    obtain ⟨husemem, hkind, _⟩ := of_mem_usesOf (owner_mem hv) huse
    exact absurd hspot (hd.spot_ne_of_use hn hrn husemem hkind
      (shows_of_mem_reactiveUse hd _ husemem hkind hq).1)

end CodeConventions.Document
