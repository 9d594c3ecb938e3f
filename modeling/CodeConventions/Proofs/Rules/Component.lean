import CodeConventions.Proofs.Rules.Apart
import CodeConventions.Proofs.Tree.Argument
import CodeConventions.Proofs.Tree.Attribute
import CodeConventions.Rules.Check

/-!
# Rules on components keep their remarks apart

What a component returns and takes apart leads back to the component, as the own nodes of a function
are not inside another function.  Of a return that is nothing but its keyword the keyword has the
range, but no rule shows keywords.  Imports stand one after the other.

The own nodes of a function are all the nodes of its body that lie in no other function, so which of
its returns are shown can be said without going down the body (`returns_shown_once`).
-/

namespace CodeConventions.Document

variable {d : Document} {m n call fn body r : Node} {q : Remark} {rs : List Remark}

/-! ## What components return -/

/-- The kinds of expressions whose value is one of several. -/
def choosingKinds : List String := ["ternary_expression", "binary_expression"]

/-- The node is a return, or an expression that chooses between values. -/
def Decides (d : Document) (n : Node) : Prop :=
  n ∈ d.root.nodes ∧ (n.kind = "return_statement" ∨ n.kind ∈ choosingKinds)

private theorem Regular.separated_decides (hd : d.Regular) : Separated d.Decides := by
  have hone : ∀ m n, d.Decides m → d.Decides n → n ∈ m.nodes → n.spot = m.spot → n = m := by
    rintro m n ⟨hm, hmkind⟩ ⟨_, hnkind⟩ hnm hspot
    have hfirm : ∀ kind ∈ choosingKinds, kind ∈ firmKinds := by decide
    rcases hmkind with hreturn | hchoosing
    · rcases Node.mem_nodes_iff.mp hnm with rfl | ⟨c, hc, hnc⟩
      · rfl
      · have hcm := hd.spot_eq_of_between hm (Node.mem_nodes_of_mem_children hc) hnc hspot
        obtain ⟨hkeyword, hlength⟩ := hd.returning m hm hreturn c hc hcm
        -- nothing is below the keyword
        rw [Node.nodes_eq, List.length_eq_zero_iff.mp hlength, List.flatMap_nil,
          List.mem_singleton] at hnc
        rw [hnc, hkeyword] at hnkind
        exact absurd hnkind (by decide)
    · exact hd.eq_of_isInnermost hm hnm hspot (hd.firm m hm (hfirm _ hchoosing))
  intro m n hm hn hspot
  rcases hd.mem_nodes_or_mem_nodes_of_spot_eq hm.1 hn.1 hspot with h | h
  · exact hone n m hn hm h hspot
  · exact (hone m n hm hn h hspot.symm).symm

theorem mem_of_mem_components (h : fn ∈ d.components) :
    fn ∈ d.root.nodes ∧ fn.isFunction = true := by
  obtain ⟨hmem, hkind⟩ := mem_of_mem_find (List.mem_filter.mp h).1
  exact ⟨hmem, Node.isOneOf_iff.mpr hkind⟩

private theorem kind_of_isConditional (h : d.isConditional n = true) :
    n.unwrap.kind ∈ choosingKinds := by
  rw [isConditional, Bool.or_eq_true, Bool.and_eq_true, beq_iff_eq, beq_iff_eq] at h
  rcases h with hkind | ⟨hkind, _⟩
  · rw [hkind]
    decide
  · rw [hkind]
    decide

/-- What is said of the own returns in the body of a component, or of the value that it is. -/
def saidOfReturns (d : Document) (fn : Node) : List (Node × String) :=
  match fn.child? "body" with
  | none => []
  | some body =>
    if body.kind = "statement_block" then
      (fn.ownNodes.filter fun n => n.kind == "return_statement").flatMap fun r =>
        ((d.returnFault? body.parts.getLast? r).map (Prod.mk r)).toList
    else if d.isConditional body then [(body.unwrap, conditionalReturn)]
    else []

theorem returnsOf_eq_map (d : Document) (fn : Node) :
    d.returnsOf fn = (d.saidOfReturns fn).map fun p => d.remark p.1 p.2 := by
  rw [returnsOf, saidOfReturns]
  cases fn.child? "body" with
  | none => rfl
  | some body =>
      dsimp only
      split
      · rw [List.filterMap_eq_flatMap_toList, List.map_flatMap]
        refine List.flatMap_congr fun r _ => ?_
        cases d.returnFault? body.parts.getLast? r <;> rfl
      · split <;> rfl

/-- What is said of a component is said of a return or of a value that it returns. -/
theorem of_mem_saidOfReturns {p : Node × String} (hfn : fn ∈ d.components)
    (hp : p ∈ d.saidOfReturns fn) : d.Decides p.1 ∧ p.1.enclosingFunction? = some fn := by
  obtain ⟨hmem, hfunction⟩ := mem_of_mem_components hfn
  rw [saidOfReturns] at hp
  split at hp
  · exact absurd hp List.not_mem_nil
  next body hbody =>
    split at hp
    · obtain ⟨r, hr, hp⟩ := List.mem_flatMap.mp hp
      obtain ⟨hr, hkind⟩ := List.mem_filter.mp hr
      obtain ⟨message, _, rfl⟩ := Option.map_eq_some_iff.mp (Option.mem_toList.mp hp)
      obtain ⟨hrmem, henclosing⟩ := mem_of_mem_ownNodes hmem hfunction hr
      exact ⟨⟨hrmem, Or.inl (beq_iff_eq.mp hkind)⟩, henclosing⟩
    · split at hp
      next hconditional =>
        obtain rfl := List.mem_singleton.mp hp
        refine ⟨⟨mem_of_unwrap (mem_of_child? hmem hbody),
          Or.inr (kind_of_isConditional hconditional)⟩, ?_⟩
        rw [Node.enclosingFunction?_unwrap, enclosingFunction?_of_child? hfunction hbody]
      next => exact absurd hp List.not_mem_nil

private theorem Regular.apartOn_returnsOf (hd : d.Regular) (hfn : fn ∈ d.components) :
    ApartOn (fun n => d.Decides n ∧ n.enclosingFunction? = some fn) (d.returnsOf fn) := by
  obtain ⟨hmem, hfunction⟩ := mem_of_mem_components hfn
  refine ⟨?_, fun q hq => ?_⟩
  · rw [returnsOf]
    split
    · exact List.nodup_nil
    · split
      · refine (ApartOn.filterMap_self hd.separated_decides ((hd.ownNodes_nodup hmem).filter _)
          fun n hn r hr => ?_).apart
        obtain ⟨hn, hkind⟩ := List.mem_filter.mp hn
        obtain ⟨message, _, rfl⟩ := Option.map_eq_some_iff.mp hr
        exact ⟨⟨(mem_of_mem_ownNodes hmem hfunction hn).1, Or.inl (beq_iff_eq.mp hkind)⟩,
          d.remark_shows n message⟩
      · split
        · exact List.nodup_singleton _
        · exact List.nodup_nil
  · rw [returnsOf_eq_map] at hq
    obtain ⟨p, hp, rfl⟩ := List.mem_map.mp hq
    exact ⟨p.1, of_mem_saidOfReturns hfn hp, d.remark_shows p.1 p.2⟩

theorem Regular.apart_componentReturns (hd : d.Regular) : Apart d.componentReturns :=
  (ApartOn.flatMap hd.separated_decides ((hd.find_nodup _).filter _) Node.enclosingFunction?
    (fun _ hfn => hd.apartOn_returnsOf hfn) fun _ _ _ hn => hn).apart

/-! ## Each return once -/

theorem findings_componentReturns (d : Document) :
    Check.componentReturns.findings d = .ok ((d.components.flatMap d.saidOfReturns).map
      (d.findingOn "solid/components-return-once")) := by
  have hremarks : d.componentReturns =
      (d.components.flatMap d.saidOfReturns).map fun p => d.remark p.1 p.2 := by
    rw [componentReturns, List.map_flatMap]
    exact List.flatMap_congr fun fn _ => d.returnsOf_eq_map fn
  rw [Check.findings, Check.remarks, hremarks, Except.map, List.map_map]
  rfl

/-- Of an own return of a component that is said which is wrong about it. -/
theorem saidOf_componentReturns (hd : d.KeysApart) (hfn : fn ∈ d.components)
    (hbody : fn.child? "body" = some body) (hblock : body.kind = "statement_block")
    (hr : r ∈ fn.ownNodes) (hkind : r.kind = "return_statement") :
    saidOf (d.components.flatMap d.saidOfReturns) r =
      (d.returnFault? body.parts.getLast? r).toList := by
  obtain ⟨hmem, hfunction⟩ := mem_of_mem_components hfn
  have henclosing := (mem_of_mem_ownNodes hmem hfunction hr).2
  have hcomponents : d.components.Nodup := (hd.nodes_nodup.filter _).filter _
  have hown : (fn.ownNodes.filter fun n => n.kind == "return_statement").Nodup :=
    (ownNodes_nodup_of_nodup hd.nodes_nodup hmem).filter _
  have hblocks : d.saidOfReturns fn =
      (fn.ownNodes.filter fun n => n.kind == "return_statement").flatMap fun s =>
        ((d.returnFault? body.parts.getLast? s).map (Prod.mk s)).toList := by
    simp only [saidOfReturns, hbody, if_pos hblock]
  rw [saidOf_flatMap hcomponents hfn, hblocks,
    saidOf_flatMap hown (List.mem_filter.mpr ⟨hr, beq_iff_eq.mpr hkind⟩), saidOf_message?]
  · intro s _ hne p hp hpr
    obtain ⟨message, _, rfl⟩ := Option.map_eq_some_iff.mp (Option.mem_toList.mp hp)
    exact hne hpr
  · intro other hother hne p hp hpr
    have h := (of_mem_saidOfReturns hother hp).2
    rw [hpr, henclosing] at h
    exact hne (Option.some_inj.mp h).symm

/-- No expression that chooses between values has the range of a return. -/
def ReturnsApart (d : Document) : Prop :=
  ∀ r ∈ d.root.nodes, r.kind = "return_statement" →
    ∀ e ∈ d.root.nodes, e.kind ∈ choosingKinds → e.spot ≠ r.spot

/-- What is said of something with the range of a return is said of the return. -/
theorem eq_of_mem_saidOfReturns {p : Node × String} (hd : d.KeysApart) (hreturns : d.ReturnsApart)
    (hr : r ∈ d.root.nodes) (hkind : r.kind = "return_statement")
    (hp : p ∈ d.components.flatMap d.saidOfReturns) (hspot : p.1.spot = r.spot) : p.1 = r := by
  obtain ⟨fn, hfn, hp⟩ := List.mem_flatMap.mp hp
  obtain ⟨⟨hmem, hpkind⟩, _⟩ := of_mem_saidOfReturns hfn hp
  rcases hpkind with hreturn | hchoosing
  · exact hd.eq_of_spot hmem hr (hreturn.trans hkind.symm) hspot
  · exact absurd hspot (hreturns r hr hkind p.1 hmem hchoosing)

/-- What is returned, without its wrappers, is a ternary, or two expressions with an operator
between them that chooses one. -/
def ReturnsChoice (d : Document) (r : Node) : Prop :=
  ∃ e, r.firstPart? = some e ∧ (e.unwrap.kind = "ternary_expression" ∨
    e.unwrap.kind = "binary_expression" ∧ d.operator e.unwrap ∈ choosingOperators)

theorem returnsChoice_iff :
    d.ReturnsChoice r ↔ r.firstPart?.any d.isConditional = true := by
  simp [ReturnsChoice, Option.any_eq_true, isConditional]

theorem returnFault?_eq_early (hd : d.KeysApart) (hbody : body ∈ d.root.nodes)
    (hr : r ∈ d.root.nodes) (hlast : body.parts.getLast? ≠ some r) :
    d.returnFault? body.parts.getLast? r = some earlyReturn := by
  have hother : body.parts.getLast?.any r.same = false := by
    cases hparts : body.parts.getLast? with
    | none => rfl
    | some last =>
        have hmem := mem_of_mem_parts hbody (List.mem_of_getLast? hparts)
        rw [Option.any_some, Bool.eq_false_iff]
        intro hsame
        rw [hd.eq_of_same hr hmem hsame] at hlast
        exact hlast hparts
  rw [returnFault?, hother]
  rfl

theorem returnFault?_last (r : Node) : d.returnFault? (some r) r =
    if r.firstPart?.any d.isConditional then some conditionalReturn else none := by
  simp [returnFault?, Node.same]

/-- In the body of a component each return that lies in no other function is shown once, but the
last statement only if it returns a choice.  A return of another function in the body is none of the
component's: if it is shown at all, then for a component of its own.  Where no choice has the range
of a return, what is found at the range of a return is what is said of the return. -/
theorem returns_shown_once (hd : d.KeysApart) :
    ∃ (said : Node → List (Node × String)) (fs : List Finding),
      Check.componentReturns.findings d = .ok fs ∧
      fs = (d.components.flatMap said).map (d.findingOn "solid/components-return-once") ∧
      ∀ fn ∈ d.components, (∀ p ∈ said fn, p.1.enclosingFunction? = some fn) ∧
        ∀ body, fn.child? "body" = some body → body.kind = "statement_block" →
        ∀ r ∈ body.nodes, r.kind = "return_statement" →
        (r.enclosingFunction? = some fn →
          (body.parts.getLast? ≠ some r →
            saidOf (d.components.flatMap said) r = [earlyReturn]) ∧
          (body.parts.getLast? = some r → d.ReturnsChoice r →
            saidOf (d.components.flatMap said) r = [conditionalReturn]) ∧
          (body.parts.getLast? = some r → ¬d.ReturnsChoice r →
            saidOf (d.components.flatMap said) r = [])) ∧
        (r.enclosingFunction? ≠ some fn →
          saidOf (said fn) r = [] ∧
          (∀ g, r.enclosingFunction? = some g → g ∉ d.components →
            saidOf (d.components.flatMap said) r = [])) ∧
        (d.ReturnsApart → d.findingsAt fs r = (saidOf (d.components.flatMap said) r).map
          fun message => ⟨"solid/components-return-once", d.spanOf r, message⟩) := by
  refine ⟨d.saidOfReturns, _, d.findings_componentReturns, rfl, fun fn hfn => ⟨?_, ?_⟩⟩
  · intro p hp
    exact (of_mem_saidOfReturns hfn hp).2
  intro body hbody hblock r hr hkind
  obtain ⟨hmem, hfunction⟩ := mem_of_mem_components hfn
  have hbodymem := mem_of_child? hmem hbody
  have hrmem := mem_of_mem_nodes hbodymem hr
  refine ⟨fun henclosing => ?_, fun hother => ⟨?_, fun g henclosing hg => ?_⟩, fun hreturns => ?_⟩
  · rw [saidOf_componentReturns hd hfn hbody hblock
      ((mem_ownNodes_iff hfunction hbody).mpr ⟨hr, henclosing⟩) hkind]
    refine ⟨fun hlast => ?_, fun hlast hchoice => ?_, fun hlast hchoice => ?_⟩
    · rw [returnFault?_eq_early hd hbodymem hrmem hlast]
      rfl
    · rw [hlast, returnFault?_last, if_pos (returnsChoice_iff.mp hchoice)]
      rfl
    · rw [hlast, returnFault?_last, if_neg (returnsChoice_iff.not.mp hchoice)]
      rfl
  · apply saidOf_eq_nil
    intro p hp hpr
    exact hother (hpr ▸ (of_mem_saidOfReturns hfn hp).2)
  · apply saidOf_eq_nil
    intro p hp hpr
    obtain ⟨owner, howner, hp⟩ := List.mem_flatMap.mp hp
    have h := (of_mem_saidOfReturns howner hp).2
    rw [hpr, henclosing] at h
    exact hg (Option.some_inj.mp h ▸ howner)
  · exact findingsAt_map_findingOn "solid/components-return-once" fun p hp hspot =>
      eq_of_mem_saidOfReturns hd hreturns hrmem hkind hp hspot

instance (d : Document) : Decidable d.ReturnsApart :=
  inferInstanceAs (Decidable (∀ r ∈ d.root.nodes, r.kind = "return_statement" →
    ∀ e ∈ d.root.nodes, e.kind ∈ choosingKinds → e.spot ≠ r.spot))

/-- The file
`function A(p) { if (p) return 1; const f = () => { return 2; }; return p && <b/>; }`. -/
def threeReturns : Document :=
  ⟨"a.tsx",
    .ofString
      "function A(p) \x7b if (p) return 1; const f = () => \x7b return 2; \x7d; return p && <b/>; \x7d",
    .node ⟨"program", true, false, none, 0, 83⟩ [
      .node ⟨"function_declaration", true, false, none, 0, 83⟩ [
        .node ⟨"function", false, false, none, 0, 8⟩ [],
        .node ⟨"identifier", true, false, some "name", 9, 10⟩ [],
        .node ⟨"formal_parameters", true, false, some "parameters", 10, 13⟩ [
          .node ⟨"(", false, false, none, 10, 11⟩ [],
          .node ⟨"required_parameter", true, false, none, 11, 12⟩ [
            .node ⟨"identifier", true, false, some "pattern", 11, 12⟩ []],
          .node ⟨")", false, false, none, 12, 13⟩ []],
        .node ⟨"statement_block", true, false, some "body", 14, 83⟩ [
          .node ⟨"\x7b", false, false, none, 14, 15⟩ [],
          .node ⟨"if_statement", true, false, none, 16, 32⟩ [
            .node ⟨"if", false, false, none, 16, 18⟩ [],
            .node ⟨"parenthesized_expression", true, false, some "condition", 19, 22⟩ [
              .node ⟨"(", false, false, none, 19, 20⟩ [],
              .node ⟨"identifier", true, false, none, 20, 21⟩ [],
              .node ⟨")", false, false, none, 21, 22⟩ []],
            .node ⟨"return_statement", true, false, some "consequence", 23, 32⟩ [
              .node ⟨"return", false, false, none, 23, 29⟩ [],
              .node ⟨"number", true, false, none, 30, 31⟩ [],
              .node ⟨";", false, false, none, 31, 32⟩ []]],
          .node ⟨"lexical_declaration", true, false, none, 33, 63⟩ [
            .node ⟨"const", false, false, some "kind", 33, 38⟩ [],
            .node ⟨"variable_declarator", true, false, none, 39, 62⟩ [
              .node ⟨"identifier", true, false, some "name", 39, 40⟩ [],
              .node ⟨"=", false, false, none, 41, 42⟩ [],
              .node ⟨"arrow_function", true, false, some "value", 43, 62⟩ [
                .node ⟨"formal_parameters", true, false, some "parameters", 43, 45⟩ [
                  .node ⟨"(", false, false, none, 43, 44⟩ [],
                  .node ⟨")", false, false, none, 44, 45⟩ []],
                .node ⟨"=>", false, false, none, 46, 48⟩ [],
                .node ⟨"statement_block", true, false, some "body", 49, 62⟩ [
                  .node ⟨"\x7b", false, false, none, 49, 50⟩ [],
                  .node ⟨"return_statement", true, false, none, 51, 60⟩ [
                    .node ⟨"return", false, false, none, 51, 57⟩ [],
                    .node ⟨"number", true, false, none, 58, 59⟩ [],
                    .node ⟨";", false, false, none, 59, 60⟩ []],
                  .node ⟨"\x7d", false, false, none, 61, 62⟩ []]]],
            .node ⟨";", false, false, none, 62, 63⟩ []],
          .node ⟨"return_statement", true, false, none, 64, 81⟩ [
            .node ⟨"return", false, false, none, 64, 70⟩ [],
            .node ⟨"binary_expression", true, false, none, 71, 80⟩ [
              .node ⟨"identifier", true, false, some "left", 71, 72⟩ [],
              .node ⟨"&&", false, false, some "operator", 73, 75⟩ [],
              .node ⟨"jsx_self_closing_element", true, false, some "right", 76, 80⟩ [
                .node ⟨"<", false, false, none, 76, 77⟩ [],
                .node ⟨"identifier", true, false, some "name", 77, 78⟩ [],
                .node ⟨"/>", false, false, none, 78, 80⟩ []]],
            .node ⟨";", false, false, none, 80, 81⟩ []],
          .node ⟨"\x7d", false, false, none, 82, 83⟩ []]]]⟩

/-- The return under the condition and the choice at the end are shown, the return of the helper is
not. -/
theorem returns_shown_once_threeReturns :
    threeReturns.KeysApart ∧ threeReturns.ReturnsApart ∧
      ∃ fs, Check.componentReturns.findings threeReturns = .ok fs ∧
        (∃ r, threeReturns.text r = "return 1;" ∧ threeReturns.findingsAt fs r =
          [⟨"solid/components-return-once", threeReturns.spanOf r, earlyReturn⟩]) ∧
        (∃ r, threeReturns.text r = "return p && <b/>;" ∧ threeReturns.findingsAt fs r =
          [⟨"solid/components-return-once", threeReturns.spanOf r, conditionalReturn⟩]) ∧
        ∃ r, threeReturns.text r = "return 2;" ∧ threeReturns.findingsAt fs r = [] := by
  have hkeys : threeReturns.KeysApart := by decide +kernel
  have hreturns : threeReturns.ReturnsApart := by decide +kernel
  have hblocks : ∀ fn ∈ threeReturns.components, ∃ body ∈ (fn.child? "body").toList,
      body.kind = "statement_block" := by decide +kernel
  have hearly : ∀ fn ∈ threeReturns.components, ∀ body ∈ (fn.child? "body").toList,
      ∃ r ∈ body.nodes, r.kind = "return_statement" ∧ r.enclosingFunction? = some fn ∧
        body.parts.getLast? ≠ some r ∧ threeReturns.text r = "return 1;" := by decide +kernel
  have hlast : ∀ fn ∈ threeReturns.components, ∀ body ∈ (fn.child? "body").toList,
      ∃ r ∈ body.nodes, r.kind = "return_statement" ∧ r.enclosingFunction? = some fn ∧
        body.parts.getLast? = some r ∧ r.firstPart?.any threeReturns.isConditional = true ∧
        threeReturns.text r = "return p && <b/>;" := by decide +kernel
  have hnested : ∀ fn ∈ threeReturns.components, ∀ body ∈ (fn.child? "body").toList,
      ∃ r ∈ body.nodes, r.kind = "return_statement" ∧ r.enclosingFunction? ≠ some fn ∧
        (∃ g ∈ r.enclosingFunction?.toList, g ∉ threeReturns.components) ∧
        threeReturns.text r = "return 2;" := by decide +kernel
  obtain ⟨said, fs, hfs, -, hall⟩ := returns_shown_once hkeys
  obtain ⟨fn, hfn⟩ : ∃ fn, fn ∈ threeReturns.components :=
    List.exists_mem_of_ne_nil _ (by decide +kernel)
  obtain ⟨body, hbody, hblock⟩ := hblocks fn hfn
  replace hall := (hall fn hfn).2 body (Option.mem_toList.mp hbody) hblock
  refine ⟨hkeys, hreturns, fs, hfs, ?_, ?_, ?_⟩
  · obtain ⟨r, hr, hkind, henclosing, hplace, htext⟩ := hearly fn hfn body hbody
    obtain ⟨hown, _, hfound⟩ := hall r hr hkind
    refine ⟨r, htext, ?_⟩
    rw [hfound hreturns, (hown henclosing).1 hplace]
    rfl
  · obtain ⟨r, hr, hkind, henclosing, hplace, hchoice, htext⟩ := hlast fn hfn body hbody
    obtain ⟨hown, _, hfound⟩ := hall r hr hkind
    refine ⟨r, htext, ?_⟩
    rw [hfound hreturns, (hown henclosing).2.1 hplace (returnsChoice_iff.mpr hchoice)]
    rfl
  · obtain ⟨r, hr, hkind, hother, ⟨g, hg, hnone⟩, htext⟩ := hnested fn hfn body hbody
    obtain ⟨_, hnested, hfound⟩ := hall r hr hkind
    refine ⟨r, htext, ?_⟩
    rw [hfound hreturns, (hnested hother).2 g (Option.mem_toList.mp hg) hnone]
    rfl

/-! ## Properties that are taken apart -/

private theorem of_patternFor {parameter v : Node}
    (h : (match v.child? "name", v.operand? "value" with
      | some pattern, some value =>
        if pattern.kind = "object_pattern" && value.kind == "identifier"
            && (d.resolve? value).any parameter.same then
          some pattern
        else none
      | _, _ => none) = some n) : v.child? "name" = some n ∧ n.kind = "object_pattern" := by
  split at h
  next pattern value hpattern _ =>
    split at h
    next hcond =>
      obtain rfl := Option.some_inj.mp h
      simp only [Bool.and_eq_true, decide_eq_true_eq] at hcond
      exact ⟨hpattern, hcond.1.1⟩
    next => cases h
  next => cases h

theorem exists_of_mem_patternsFor {parameter : Node} (h : n ∈ d.patternsFor fn parameter) :
    ∃ v ∈ fn.ownNodes, v.kind = "variable_declarator" ∧ v.child? "name" = some n ∧
      n.kind = "object_pattern" := by
  obtain ⟨v, hv, h⟩ := List.mem_filterMap.mp h
  obtain ⟨hv, hkind⟩ := List.mem_filter.mp hv
  exact ⟨v, hv, beq_iff_eq.mp hkind, of_patternFor h⟩

private theorem mem_propsPatterns (hd : d.Regular) (hfn : fn ∈ d.components)
    (hn : n ∈ d.propsPatterns fn) :
    d.Inner n ∧ n.enclosingFunction? = some fn := by
  obtain ⟨hmem, hfunction⟩ := mem_of_mem_components hfn
  rw [propsPatterns] at hn
  split at hn
  · exact absurd hn List.not_mem_nil
  next props hprops =>
    split at hn
    next hkind =>
      obtain rfl := List.mem_singleton.mp hn
      obtain ⟨hnmem, henclosing⟩ :=
        hd.enclosingFunction?_of_mem_parameters hmem hfunction (List.mem_of_mem_head? hprops)
      exact ⟨hd.inner_of_kind hnmem (by rw [hkind]; decide), henclosing⟩
    next =>
      split at hn
      · obtain ⟨v, hv, hvkind, hname, hkind⟩ := exists_of_mem_patternsFor hn
        obtain ⟨hvmem, henclosing⟩ := mem_of_mem_ownNodes hmem hfunction hv
        refine ⟨hd.inner_of_kind (mem_of_child? hvmem hname) (by rw [hkind]; decide), ?_⟩
        have hnot : v.isFunction = false :=
          Node.not_isFunction_of_kind (List.mem_singleton.mpr hvkind) (by decide)
        rw [Node.enclosingFunction?_of_mem_children (Node.mem_children_of_child? hname), hnot,
          ← henclosing]
        rfl
      · exact absurd hn List.not_mem_nil

private theorem Nested.propsPatterns_nodup (hd : d.Nested) (hfn : fn ∈ d.components) :
    (d.propsPatterns fn).Nodup := by
  rw [propsPatterns]
  split
  · exact List.nodup_nil
  · split
    · exact List.nodup_singleton _
    · split
      · refine nodup_filterMap_of_back ((hd.ownNodes_nodup (mem_of_mem_components hfn).1).filter _)
          Node.parent? fun v _ n hn => ?_
        exact Node.parent?_of_child? (of_patternFor hn).1
      · exact List.nodup_nil

theorem Regular.apart_destructuredComponents (hd : d.Regular) : Apart d.destructuredComponents := by
  refine (ApartOn.map_remark hd.separated_inner ?_ fun n hn => ?_).apart
  · exact nodup_flatMap_of_back ((hd.find_nodup _).filter _) Node.enclosingFunction?
      (fun fn hfn => hd.propsPatterns_nodup hfn) fun fn hfn n hn => (mem_propsPatterns hd hfn hn).2
  · obtain ⟨fn, hfn, hn⟩ := List.mem_flatMap.mp hn
    exact (mem_propsPatterns hd hfn hn).1

/-! ## Dependencies -/

theorem Nested.arguments_nodup (hd : d.Nested) (hcall : call ∈ d.root.nodes) :
    call.arguments.Nodup := by
  rw [Node.arguments]
  split
  next list hlist =>
    split
    · exact hd.parts_nodup (mem_of_child? hcall hlist)
    · exact List.nodup_nil
  next => exact List.nodup_nil

theorem Regular.outer_of_mem_arguments (hd : d.Regular) (hcall : call ∈ d.root.nodes)
    (hn : n ∈ call.arguments) : d.Outer n := by
  obtain ⟨list, hlist, hkind, hn⟩ := Node.exists_of_mem_arguments hn
  exact hd.outer_of_parent (mem_of_child? hcall hlist) (Node.mem_children_of_mem_parts hn)
    (by rw [hkind]; decide)

theorem mem_arguments_of_dependencies? (h : d.dependencies? call = some n) :
    n ∈ call.arguments := by
  rw [dependencies?] at h
  split at h
  next callback list harguments =>
    split at h
    · cases h
    · dsimp only at h
      split at h
      · obtain rfl := Option.some_inj.mp h
        rw [harguments]
        exact List.mem_cons_of_mem _ (List.mem_cons_self ..)
      · cases h
  next => cases h

theorem Regular.apart_dependencyLists (hd : d.Regular) : Apart d.dependencyLists := by
  refine (ApartOn.filterMap (A := fun call n => n ∈ call.arguments) hd.separated_outer
    (hd.find_nodup _) Node.callOf? (fun call _ r hr => ?_) fun call hcall n hn => ?_).apart
  · split at hr
    · split at hr
      · obtain ⟨list, hlist, rfl⟩ := Option.map_eq_some_iff.mp hr
        exact ⟨list, mem_arguments_of_dependencies? hlist, d.remark_shows list _⟩
      · cases hr
    · cases hr
  · exact ⟨hd.outer_of_mem_arguments (mem_of_mem_find hcall).1 hn,
      Node.callOf?_of_mem_arguments hn⟩

/-! ## Imports -/

/-- The imports stand in the node, one after the other. -/
private def StandIn (n : Node) (bs : List ImportBinding) : Prop :=
  (bs.Pairwise fun a b => a.node.stop ≤ b.node.start) ∧
    ∀ b ∈ bs, b.node.start < b.node.stop ∧ n.start ≤ b.node.start ∧ b.node.stop ≤ n.stop

private theorem Nested.standIn_flatMap (hd : d.Nested) (hn : n ∈ d.root.nodes) {xs : List Node}
    (hxs : xs.Sublist n.children) {f : Node → List ImportBinding}
    (hf : ∀ x ∈ xs, StandIn x (f x)) : StandIn n (xs.flatMap f) := by
  constructor
  · rw [List.pairwise_flatMap]
    refine ⟨fun x hx => (hf x hx).1, ((hd.ordered n hn).sublist hxs).imp_of_mem ?_⟩
    intro x y hx hy hxy a ha b hb
    exact ((hf x hx).2 a ha).2.2.trans (hxy.trans ((hf y hy).2 b hb).2.1)
  · intro b hb
    obtain ⟨x, hx, hb⟩ := List.mem_flatMap.mp hb
    obtain ⟨hstart, hstop⟩ := hd.within n hn x (hxs.subset hx)
    obtain ⟨hlt, hstart', hstop'⟩ := (hf x hx).2 b hb
    exact ⟨hlt, hstart.trans hstart', hstop'.trans hstop⟩

private theorem standIn_singleton {b : ImportBinding} (h : b.node.start < b.node.stop) :
    StandIn b.node [b] := by
  refine ⟨List.pairwise_singleton _ _, fun c hc => ?_⟩
  obtain rfl := List.mem_singleton.mp hc
  exact ⟨h, le_rfl, le_rfl⟩

private theorem Nested.standIn_partImports (hd : d.Nested) {source : String} {typeOnly : Bool}
    {clause part : Node} (hclause : clause ∈ d.root.nodes) (hpart : part ∈ clause.children) :
    StandIn part (d.partImports source typeOnly part) := by
  have hmem := mem_of_mem_children hclause hpart
  have hlt := hd.nonempty clause hclause part hpart
  have hnil : StandIn part [] := ⟨List.Pairwise.nil, fun b hb => absurd hb List.not_mem_nil⟩
  rw [partImports]
  split_ifs
  · exact standIn_singleton (b := ⟨_, _, _, _, part⟩) hlt
  · split
    · exact standIn_singleton (b := ⟨_, _, _, _, part⟩) hlt
    · exact hnil
  · rw [List.map_eq_flatMap]
    refine hd.standIn_flatMap hmem (List.filter_sublist.trans part.parts_sublist_children)
      fun s hs => ?_
    have hchild := (List.filter_sublist.trans part.parts_sublist_children).subset hs
    exact standIn_singleton (b := d.specifierImport source typeOnly s)
      (hd.nonempty part hmem s hchild)
  · exact hnil

private theorem Nested.standIn_importsOf (hd : d.Nested) {statement : Node}
    (hmem : statement ∈ d.root.nodes) : StandIn statement (d.importsOf statement) := by
  refine hd.standIn_flatMap hmem (List.filter_sublist.trans statement.parts_sublist_children)
    fun clause hclause => ?_
  have hchild := (List.filter_sublist.trans statement.parts_sublist_children).subset hclause
  have hclausemem := mem_of_mem_children hmem hchild
  exact hd.standIn_flatMap hclausemem clause.parts_sublist_children fun part hpart =>
    hd.standIn_partImports hclausemem (Node.mem_children_of_mem_parts hpart)

private theorem Nested.standIn_allImports (hd : d.Nested) : StandIn d.root d.allImports := by
  have hsublist : d.importStatements.Sublist d.root.children :=
    List.filter_sublist.trans d.root.parts_sublist_children
  exact hd.standIn_flatMap d.root.self_mem_nodes hsublist fun statement hstatement =>
    hd.standIn_importsOf (mem_of_mem_children d.root.self_mem_nodes (hsublist.subset hstatement))

theorem imports_sublist (d : Document) : d.imports.Sublist d.allImports := by
  suffices h : ∀ bs kept : List ImportBinding, (bs.foldl (fun kept b =>
      if kept.any fun k => k.name == b.name then kept else kept ++ [b]) kept).Sublist
      (kept ++ bs) from h d.allImports []
  intro bs
  induction bs with
  | nil => exact fun kept => (List.append_nil kept).symm ▸ List.Sublist.refl _
  | cons b bs ih =>
      intro kept
      rw [List.foldl_cons]
      split
      · exact (ih kept).trans (List.sublist_append_right [b] bs |>.append_left kept)
      · have h := ih (kept ++ [b])
        rwa [List.append_assoc] at h

theorem Regular.apart_misplacedImports (hd : d.Regular) : Apart d.misplacedImports := by
  obtain ⟨hpairwise, hnonempty⟩ := hd.standIn_allImports
  rw [Apart, misplacedImports, List.Nodup, List.pairwise_map, List.pairwise_filterMap]
  refine (hpairwise.sublist d.imports_sublist).imp_of_mem fun {a b} ha _ hab r hr q hq hspot => ?_
  have hshows : ∀ (b : ImportBinding) (r : Remark), d.misplacedImport? b = some r →
      r.Shows b.node := fun b r hr => by
    rw [misplacedImport?] at hr
    split at hr
    · cases hr
    · obtain ⟨proper, _, rfl⟩ := Option.map_eq_some_iff.mp hr
      exact d.remark_shows b.node _
  have hstart := (Node.spot_eq_iff.mp ((hshows a r hr).spot_eq (hshows b q hq) hspot)).1
  have hlt := (hnonempty a (d.imports_sublist.subset ha)).1
  omega

/-! ## Proxies -/

private theorem apartOn_storeImports (hd : d.Regular) :
    ApartOn (d.InnerOf ["import_statement"]) d.storeImports := by
  have hstatement : ∀ s ∈ d.importStatements, s ∈ d.root.parts ∧ s.kind = "import_statement" :=
    fun s hs => ⟨(List.mem_filter.mp hs).1, beq_iff_eq.mp (List.mem_filter.mp hs).2⟩
  have hinner : ∀ s ∈ d.importStatements, d.Inner s := fun s hs =>
    hd.inner_of_kind (mem_of_mem_parts d.root.self_mem_nodes (hstatement s hs).1)
      (by rw [(hstatement s hs).2]; decide)
  refine (ApartOn.map_remark hd.separated_inner
    (((hd.parts_nodup d.root.self_mem_nodes).filter _).filter _) fun s hs => ?_).mono fun s hs => ?_
  · exact hinner s (List.mem_filter.mp hs).1
  · have hs := (List.mem_filter.mp hs).1
    exact ⟨hinner s hs, List.mem_singleton.mpr (hstatement s hs).2⟩

private theorem apartOn_madeProxies (hd : d.Regular) :
    ApartOn (d.InnerOf (["new_expression"] ++ ["call_expression"])) d.madeProxies := by
  rw [madeProxies, List.map_append]
  exact hd.apartOn_append_innerOf (hd.apartOn_find List.filter_sublist (by decide))
    (hd.apartOn_find List.filter_sublist (by decide)) (by decide)

private theorem apartOn_spreadAttributes (hd : d.Regular) :
    ApartOn (d.InnerOf ["jsx_expression"])
      ((d.tags.flatMap Node.attributes).filterMap d.spreadAttribute?) := by
  have hkind : ∀ (a : Node) (r : Remark), d.spreadAttribute? a = some r →
      a.kind = "jsx_expression" ∧ r.Shows a := fun a r hr => by
    rw [spreadAttribute?] at hr
    split at hr
    · cases hr
    next o ho =>
      have hbraces : a.kind = "jsx_expression" := by
        by_contra hne
        rw [spreadObject?, Node.braced?, if_neg hne] at ho
        cases ho
      refine ⟨hbraces, ?_⟩
      split_ifs at hr
      · exact Option.some_inj.mp hr ▸ d.remark_shows a _
      · exact Option.some_inj.mp hr ▸ d.remark_shows a _
  have hmem : ∀ a ∈ d.tags.flatMap Node.attributes, a ∈ d.root.nodes := fun a ha => by
    obtain ⟨tag, htag, ha⟩ := List.mem_flatMap.mp ha
    exact IsAttribute.mem ⟨tag, htag, ha⟩
  refine (ApartOn.filterMap_self hd.separated_innerOf (hd.attributes_nodup (List.Sublist.refl _))
    fun a ha r hr => ?_).mono fun _ hn => hn.2
  obtain ⟨hbraces, hshows⟩ := hkind a r hr
  exact ⟨⟨hd.inner_of_kind (hmem a ha) (by rw [hbraces]; decide), List.mem_singleton.mpr hbraces⟩,
    hshows⟩

private theorem kind_of_isFunction_unwrap (h : n.unwrap.isFunction = true) :
    n.kind ∈ wrapperKinds ++ functionKinds := by
  rcases n.unwrap_cases with heq | ⟨hwrapper, _⟩
  · rw [heq] at h
    exact List.mem_append_right _ (Node.isOneOf_iff.mp h)
  · exact List.mem_append_left _ (Node.isWrapper_iff.mp hwrapper)

private theorem apartOn_mergedFunctions (hd : d.Regular) :
    ApartOn (d.InnerOf (wrapperKinds ++ functionKinds)) d.mergedFunctions := by
  have hcalls : ∀ call ∈ (d.callsNamed ["mergeProps"] d.root).filter fun c =>
      d.libraryCallee? Reactive.library c == some "mergeProps", call ∈ d.root.nodes :=
    fun call hcall => (mem_of_mem_find (List.mem_filter.mp (List.mem_filter.mp hcall).1).1).1
  have hfirm : ∀ kind ∈ wrapperKinds ++ functionKinds, kind ∈ firmKinds := by decide
  have hinner : ∀ a ∈ (((d.callsNamed ["mergeProps"] d.root).filter fun c =>
      d.libraryCallee? Reactive.library c == some "mergeProps").flatMap Node.arguments).filter
        fun a => a.unwrap.isFunction, d.InnerOf (wrapperKinds ++ functionKinds) a := fun a ha => by
    obtain ⟨ha, hfunction⟩ := List.mem_filter.mp ha
    obtain ⟨call, hcall, ha⟩ := List.mem_flatMap.mp ha
    have hkind := kind_of_isFunction_unwrap hfunction
    exact ⟨hd.inner_of_kind (mem_of_mem_arguments (hcalls call hcall) ha) (hfirm _ hkind), hkind⟩
  refine (ApartOn.map_remark hd.separated_inner (List.Nodup.filter _ ?_) fun a ha =>
    (hinner a ha).1).mono hinner
  refine nodup_flatMap_of_back (((hd.find_nodup _).filter _).filter _) Node.callOf?
    (fun call hcall => hd.arguments_nodup (hcalls call hcall)) fun call _ a ha => ?_
  exact Node.callOf?_of_mem_arguments ha

theorem Regular.apart_proxies (hd : d.Regular) : Apart d.proxies := by
  have himports := hd.apartOn_append_innerOf (apartOn_storeImports hd) (apartOn_madeProxies hd)
    (by decide)
  have hattributes := hd.apartOn_append_innerOf himports (apartOn_spreadAttributes hd) (by decide)
  exact (hd.apartOn_append_innerOf hattributes (apartOn_mergedFunctions hd) (by decide)).apart

end CodeConventions.Document
