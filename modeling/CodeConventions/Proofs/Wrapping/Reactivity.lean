import CodeConventions.Proofs.Likeness.Reactivity
import CodeConventions.Proofs.Wrapping.Tree

/-!
# Wrapped names and reactivity

Parentheses around a name that is called or reached into do not matter to what is said of reactive
variables, with one exception.  A call of a function with a telling name may track every function
that is passed to it, under whatever name.  A name that is called or reached into in an argument is
not passed on itself, so it is *withheld*.  But only the node directly above the name is looked at:
with a wrapper between them the name counts as passed on, and the scope that it then is hides a
lost read.

So the remarks are the same before and after a wrapper is put around a name, unless the name is
withheld from a call that would track it.  If it is, the wrapper makes a tracked scope of it.
-/

namespace CodeConventions

namespace Document

/-- The name might be that of a function, but is not passed on where it stands. -/
def isWithheld (d : Document) (name : Node) : Bool :=
  !d.isPassedName name && ((d.trace name).isFunction || (d.trace name).kind == "identifier")

/-- A call that may track every function that is passed to it has the name in an argument, where it
is withheld. -/
def withholds (d : Document) (custom : List String) (name : Node) : Bool :=
  d.isWithheld name && (d.find ["call_expression"]).any fun call =>
    d.tracksPassed custom call && call.arguments.any fun a => a.namesIn.contains name

end Document

namespace Wrapping

variable {w : Wrapping} {d : Document} {n : Node} (hd : d.ListsParameters)
  (hw : w.name ∈ d.root.nodes)

/-! ## Elements of array patterns -/

theorem elementFrom_wrapped (k : Nat) (cs : List Node) :
    Node.elementFrom k (cs.map (Node.wrapped w)) =
      (Node.elementFrom k cs).map (Node.wrapped w) := by
  induction cs generalizing k with
  | nil => rfl
  | cons c cs ih =>
    have hnamed : (c.wrapped w).isNamed = c.isNamed := by
      rw [Node.isNamed, Node.label_wrapped]
      split <;> rfl
    simp only [List.map_cons, Node.elementFrom, Node.kind_wrapped, hnamed, ih]
    split
    · cases k <;> simp
    · split
      · rfl
      · cases k <;> rfl

theorem keepsElements : (likeness hd hw).KeepsElements := fun p _ hkind index => by
  -- a pattern does not hold the name, so the elements are counted as before
  have hchildren : (p.wrapped w).children = p.children.map (Node.wrapped w) := by
    rw [Node.children_wrapped]
    exact List.map_congr_left fun c hc => Node.standing_of_ne w
      (Node.ne_name_of_mem_children w (by rw [hkind]; decide) hc)
  show (p.wrapped w).nameAt? index = (p.nameAt? index).map (Node.wrapped w)
  rw [Node.nameAt?, hchildren, ← List.map_drop, elementFrom_wrapped, Option.filter_map, Node.nameAt?]
  simp [Function.comp_def]

/-! ## Names that are passed on -/

include hd hw in
/-- Above every node but the name there is what was above it. -/
theorem isPassedName_wrapped (hn : n ≠ w.name) :
    (d.wrapped w).isPassedName (n.wrapped w) = d.isPassedName n := by
  have hsame : ∀ m, (n.wrapped w).same (m.wrapped w) = n.same m := (likeness hd hw).same_image n
  have hcallee : ∀ p : Node, (p.wrapped w).callee? = p.callee?.map (Node.wrapped w) :=
    (likeness hd hw).callee?_image
  have htrace : (d.wrapped w).trace (n.wrapped w) = (d.trace n).wrapped w :=
    (likeness hd hw).trace_image n
  have hfunction : ((d.trace n).wrapped w).isFunction = (d.trace n).isFunction :=
    Node.isOneOf_wrapped w _ _
  simp only [Document.isPassedName, Node.parent?_wrapped w hn, Option.any_map,
    Node.isOneOf_wrapped, Node.kind_wrapped, hcallee, hsame, htrace, hfunction]

include hd hw in
/-- Above the name there is the wrapper now, and the name is no longer withheld. -/
theorem isPassedName_wrapped_name :
    (d.wrapped w).isPassedName (w.name.wrapped w) =
      (d.isPassedName w.name || d.isWithheld w.name) := by
  have htrace : (d.wrapped w).trace (w.name.wrapped w) = (d.trace w.name).wrapped w :=
    (likeness hd hw).trace_image w.name
  have hfunction : ((d.trace w.name).wrapped w).isFunction = (d.trace w.name).isFunction :=
    Node.isOneOf_wrapped w _ _
  have hwrapper := Node.isWrapper_iff.mp (Node.isWrapper_standing_name w)
  have haccess : (w.name.standing w).isOneOf Node.accessKinds = false := by
    rw [Bool.eq_false_iff, ne_eq, Node.isOneOf_iff]
    intro h
    have hapart : ∀ kind ∈ Node.accessKinds, kind ∉ wrapperKinds := by decide
    exact hapart _ h hwrapper
  have hcall : ((w.name.standing w).kind == "call_expression") = false :=
    beq_false_of_ne fun h => absurd (h ▸ hwrapper) (by decide)
  have hpassed : (d.wrapped w).isPassedName (w.name.wrapped w) =
      ((d.trace w.name).isFunction || (d.trace w.name).kind == "identifier") := by
    simp only [Document.isPassedName, Node.parent?_wrapped_name, Option.any_some, haccess, hcall,
      Bool.false_and, Bool.or_false, Bool.not_false, Bool.true_and, htrace, hfunction,
      Node.kind_wrapped]
  rw [hpassed, Document.isWithheld]
  -- what is passed on may be a function
  cases hold : d.isPassedName w.name with
  | false => simp
  | true =>
    simp only [Document.isPassedName, Bool.and_eq_true] at hold
    rw [hold.2]
    rfl

theorem keepsPassed {custom : List String} (hfree : d.withholds custom w.name = false) :
    (likeness hd hw).KeepsPassed custom := by
  intro call hcall htracks a ha i hi
  show (d.wrapped w).isPassedName (i.wrapped w) = d.isPassedName i
  by_cases hname : i = w.name
  -- the call tracks what is passed to it, so the name is not withheld
  · have hpassed : d.isWithheld w.name = false := by
      by_contra hwithheld
      rw [Bool.not_eq_false] at hwithheld
      rw [Document.withholds, hwithheld, Bool.true_and, Bool.eq_false_iff] at hfree
      refine hfree (List.any_eq_true.mpr ⟨call, hcall, ?_⟩)
      rw [htracks, Bool.true_and]
      exact List.any_eq_true.mpr ⟨a, ha, List.contains_iff_mem.mpr (hname ▸ hi)⟩
    rw [hname, isPassedName_wrapped_name hd hw, hpassed, Bool.or_false]
  · exact isPassedName_wrapped hd hw hname

/-! ## The scope that a withheld name becomes -/

theorem mem_passedFunctions_wrapped {a m : Node} (hm : m.unwrap = a.unwrap.wrapped w)
    (hname : w.name ∈ a.namesIn)
    (hpassed : (d.wrapped w).isPassedName (w.name.wrapped w) = true) :
    w.name.wrapped w ∈ (d.wrapped w).passedFunctions m := by
  induction a using Node.unwrapInduction generalizing m with
  | step a ih =>
    rw [Node.namesIn_eq] at hname
    have hfunction : (a.unwrap.wrapped w).isFunction = a.unwrap.isFunction :=
      Node.isOneOf_wrapped w _ _
    rw [Document.passedFunctions_eq, hm, hfunction, Node.kind_wrapped]
    by_cases hf : a.unwrap.isFunction = true
    · rw [if_pos hf] at hname
      exact absurd hname List.not_mem_nil
    rw [if_neg hf] at hname ⊢
    by_cases hkind : a.unwrap.kind = "identifier"
    · rw [if_pos hkind, List.mem_singleton] at hname
      rw [if_pos hkind, ← hname, if_pos hpassed]
      exact List.mem_singleton_self _
    · rw [if_neg hkind] at hname ⊢
      obtain ⟨c, hc, hin⟩ := List.mem_flatMap.mp hname
      refine List.mem_flatMap.mpr ⟨c.standing w, ?_, ?_⟩
      · rw [Node.parts_wrapped]
        exact List.mem_map_of_mem hc
      · exact ih c (Node.mem_children_of_mem_parts hc) (Node.unwrap_standing w c) hin

end Wrapping

namespace Document

variable {d : Document} {w : Wrapping}

/-- A wrapper makes a tracked scope of a name that is withheld from a call that would track it. -/
theorem ListsParameters.mem_trackedScopes_wrapped (hd : d.ListsParameters)
    (hw : w.name ∈ d.root.nodes) {custom : List String}
    (hheld : d.withholds custom w.name = true) :
    ⟨w.name.wrapped w, .callback⟩ ∈ (d.wrapped w).trackedScopes custom := by
  rw [withholds, Bool.and_eq_true, List.any_eq_true] at hheld
  obtain ⟨hwithheld, call, hcall, htracks⟩ := hheld
  rw [Bool.and_eq_true, List.any_eq_true] at htracks
  obtain ⟨htracks, a, ha, hname⟩ := htracks
  have hpassed : (d.wrapped w).isPassedName (w.name.wrapped w) = true := by
    rw [Wrapping.isPassedName_wrapped_name hd hw, hwithheld, Bool.or_true]
  have hin : w.name.wrapped w ∈ (d.wrapped w).passedFunctions (a.wrapped w) :=
    Wrapping.mem_passedFunctions_wrapped (Node.unwrap_wrapped w a)
      (List.contains_iff_mem.mp hname) hpassed
  have harguments : (call.wrapped w).arguments = call.arguments.map (Node.wrapped w) :=
    (Wrapping.likeness hd hw).arguments_image call
  have hcalls : (d.wrapped w).find ["call_expression"] =
      (d.find ["call_expression"]).map (Node.wrapped w) :=
    (Wrapping.likeness hd hw).findAll_image (by decide)
  have htracks' : (d.wrapped w).tracksPassed custom (call.wrapped w) = true :=
    ((Wrapping.likeness hd hw).tracksPassed_image custom call).trans htracks
  have hscope : TrackedScope.of .callback (w.name.wrapped w) = ⟨w.name.wrapped w, .callback⟩ := by
    rw [TrackedScope.of, Node.unwrap_wrapped,
      Node.unwrap_of_not_isWrapper (Node.not_isWrapper_name w)]
  have hmem : (⟨w.name.wrapped w, .callback⟩ : TrackedScope) ∈
      (d.wrapped w).scopesOfCall custom (call.wrapped w) := by
    rw [scopesOfCall_of_tracksPassed htracks', passedScopes, harguments, ← hscope]
    exact List.mem_map_of_mem
      (List.mem_flatMap.mpr ⟨a.wrapped w, List.mem_map_of_mem ha, hin⟩)
  unfold trackedScopes
  rw [hcalls]
  refine List.mem_append_left _ (List.mem_append_right _ ?_)
  exact List.mem_flatMap.mpr ⟨call.wrapped w, List.mem_map_of_mem hcall, hmem⟩

/-- A wrapper around a name that is called or reached into changes nothing in what is said of
reactive variables, unless the name is withheld from a call that would track it. -/
theorem ListsParameters.reactivity_wrapped {d : Document} (hd : d.ListsParameters) (w : Wrapping)
    (hw : w.name ∈ d.root.nodes) (options : ReactivityOptions)
    (hfree : d.withholds options.customReactiveFunctions w.name = false) :
    (d.wrapped w).reactivity options = d.reactivity options := by
  have hremarks := (Wrapping.keepsElements hd hw).reactivity_image options
    (Wrapping.keepsPassed hd hw hfree)
  rw [hremarks]
  exact List.map_id _

/-- A function that passes one member of its properties on and logs another one. -/
def passing : Document :=
  ⟨"a.ts", .ofString "function A(props) \x7b useA(props.x); log(props.y); \x7d",
    .node ⟨"program", true, false, none, 0, 50⟩ [
      .node ⟨"function_declaration", true, false, none, 0, 50⟩ [
        .node ⟨"function", false, false, none, 0, 8⟩ [],
        .node ⟨"identifier", true, false, some "name", 9, 10⟩ [],
        .node ⟨"formal_parameters", true, false, some "parameters", 10, 17⟩ [
          .node ⟨"(", false, false, none, 10, 11⟩ [],
          .node ⟨"required_parameter", true, false, none, 11, 16⟩ [
            .node ⟨"identifier", true, false, some "pattern", 11, 16⟩ []],
          .node ⟨")", false, false, none, 16, 17⟩ []],
        .node ⟨"statement_block", true, false, some "body", 18, 50⟩ [
          .node ⟨"\x7b", false, false, none, 18, 19⟩ [],
          .node ⟨"expression_statement", true, false, none, 20, 34⟩ [
            .node ⟨"call_expression", true, false, none, 20, 33⟩ [
              .node ⟨"identifier", true, false, some "function", 20, 24⟩ [],
              .node ⟨"arguments", true, false, some "arguments", 24, 33⟩ [
                .node ⟨"(", false, false, none, 24, 25⟩ [],
                .node ⟨"member_expression", true, false, none, 25, 32⟩ [
                  .node ⟨"identifier", true, false, some "object", 25, 30⟩ [],
                  .node ⟨".", false, false, none, 30, 31⟩ [],
                  .node ⟨"property_identifier", true, false, some "property", 31, 32⟩ []],
                .node ⟨")", false, false, none, 32, 33⟩ []]],
            .node ⟨";", false, false, none, 33, 34⟩ []],
          .node ⟨"expression_statement", true, false, none, 35, 48⟩ [
            .node ⟨"call_expression", true, false, none, 35, 47⟩ [
              .node ⟨"identifier", true, false, some "function", 35, 38⟩ [],
              .node ⟨"arguments", true, false, some "arguments", 38, 47⟩ [
                .node ⟨"(", false, false, none, 38, 39⟩ [],
                .node ⟨"member_expression", true, false, none, 39, 46⟩ [
                  .node ⟨"identifier", true, false, some "object", 39, 44⟩ [],
                  .node ⟨".", false, false, none, 44, 45⟩ [],
                  .node ⟨"property_identifier", true, false, some "property", 45, 46⟩ []],
                .node ⟨")", false, false, none, 46, 47⟩ []]],
            .node ⟨";", false, false, none, 47, 48⟩ []],
          .node ⟨"\x7d", false, false, none, 49, 50⟩ []]]]⟩

end Document

/-- The assertion that a name is not null. -/
def Wrapping.nonNull (name : Node) (hname : name.kind = "identifier" ∧ name.isNamed = true)
    (hheld : ∃ p : Node, p.Holds name) : Wrapping where
  name := name
  kind := "non_null_expression"
  before := []
  after := [.node ⟨"!", false, false, none, name.stop, name.stop⟩ []]
  kind_mem := by decide
  tokens t ht := by
    obtain rfl := List.mem_singleton.mp ht
    exact ⟨rfl, (by decide : "!" ∈ wrapperTokens), rfl⟩
  isName := hname
  held := hheld

namespace Document

/-- The assertion that the properties are not null where a member of them is logged. -/
def logged : Wrapping :=
  .nonNull ((passing.find ["identifier"]).getD 5 passing.root) (by decide +kernel)
    ⟨(passing.find ["member_expression"]).getD 1 passing.root,
      Or.inr ⟨by decide +kernel, by decide +kernel⟩⟩

/-- The lost read in what is logged is found before and after the assertion is made. -/
theorem reactivity_wrapped_logged :
    passing.ListsParameters ∧ logged.name ∈ passing.root.nodes ∧
      passing.withholds [] logged.name = false ∧ passing.reactivity {} ≠ [] ∧
        (passing.wrapped logged).reactivity {} = passing.reactivity {} := by
  have hlists : passing.ListsParameters := by
    rw [ListsParameters]
    decide +kernel
  have hname : logged.name ∈ passing.root.nodes := by decide +kernel
  have hfree : passing.withholds [] logged.name = false := by decide +kernel
  have hfound : passing.reactivity {} ≠ [] := by decide +kernel
  exact ⟨hlists, hname, hfree, hfound, hlists.reactivity_wrapped logged hname {} hfree⟩

/-- The assertion that the properties are not null where a member of them is passed on. -/
def passed : Wrapping :=
  .nonNull ((passing.find ["identifier"]).getD 3 passing.root) (by decide +kernel)
    ⟨(passing.find ["member_expression"]).getD 0 passing.root,
      Or.inr ⟨by decide +kernel, by decide +kernel⟩⟩

/-- The lost read in what is passed on is found before the assertion is made, and not after it. -/
theorem reactivity_wrapped_passed :
    passing.hasErrors = false ∧ passing.ListsParameters ∧ passed.name ∈ passing.root.nodes ∧
      (passing.wrapped passed).reactivity {} ≠ passing.reactivity {} := by
  have hlists : passing.ListsParameters := by
    rw [ListsParameters]
    decide +kernel
  have hread : (passing.reactivity {}).length = 2 := by decide +kernel
  have hwrapped : ((passing.wrapped passed).reactivity {}).length = 1 := by decide +kernel
  refine ⟨by decide +kernel, hlists, by decide +kernel, fun h => ?_⟩
  rw [h, hread] at hwrapped
  exact absurd hwrapped (by decide)

end Document

end CodeConventions
