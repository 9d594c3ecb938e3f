import CodeConventions.Proofs.Scope.Declaration
import CodeConventions.Rules.Check

/-!
# One remark on each binding

The rule against reassignable bindings comes to a declarator by way of its statement, and to the
head of a loop over members directly.  Here the bindings are taken from the tree as they stand in
it: each that is introduced by `let` or `var` gets one remark, at its name or pattern, unless its
name matches a pattern of the options or the options let it pass for where it stands.

Where the heads of loops are let pass, the rule looks at what is above the statement only.  The head
of a loop with a counter is one part of it, and what the loop repeats is another one; so a statement
that is repeated is let pass as well (`Node.isRepeated`).

Main statement: `Document.reassignableBindings_exact`.

## Strategy

A run *remarks on* nodes if it makes one remark for each, in order (`RemarksOn`), and runs are put
together from others as the lists of their nodes are.  That gives the remarks in the order of the
rule.  It remains that to go through the statements, and through the declarators of each, is to come
to every declarator once: this is a matter of the tree alone (`flatMap_children_perm`).
-/

namespace CodeConventions

variable {α : Type}

/-! ## Runs that remark on nodes -/

/-- The run ends, and makes one remark for each of the nodes, in order. -/
def RemarksOn (R : Node → Remark → Prop) (ns : List Node) (run : Remarks) : Prop :=
  ∃ rs, run = .ok rs ∧ List.Forall₂ R ns rs

/-- The run ends, and makes one remark on the node if it is to be remarked on, and none else. -/
inductive RemarksIf (R : Node → Remark → Prop) (n : Node) : Bool → Remarks → Prop
  | passed : RemarksIf R n false (.ok [])
  | made {r : Remark} (h : R n r) : RemarksIf R n true (.ok [r])

namespace RemarksOn

variable {R : Node → Remark → Prop} {ms ns : List Node} {run more : Remarks}

theorem nil : RemarksOn R [] (.ok []) := ⟨[], rfl, .nil⟩

theorem singleton {n : Node} {r : Remark} (h : R n r) : RemarksOn R [n] (.ok [r]) :=
  ⟨[r], rfl, .cons h .nil⟩

theorem append (hrun : RemarksOn R ms run) (hmore : RemarksOn R ns more) :
    RemarksOn R (ms ++ ns) (run >>= fun found => more.map (found ++ ·)) := by
  obtain ⟨rs, rfl, hrs⟩ := hrun
  obtain ⟨qs, rfl, hqs⟩ := hmore
  exact ⟨rs ++ qs, rfl, List.rel_append hrs hqs⟩

theorem remarksFor {xs : List α} {f : α → Remarks} {g : α → List Node}
    (h : ∀ x ∈ xs, RemarksOn R (g x) (f x)) :
    RemarksOn R (xs.flatMap g) (CodeConventions.remarksFor xs f) := by
  induction xs with
  | nil => exact nil
  | cons x xs ih =>
      have hrest := ih fun y hy => h y (List.mem_cons_of_mem x hy)
      have hboth := (h x List.mem_cons_self).append hrest
      rw [List.flatMap_cons]
      convert hboth using 1
      rw [CodeConventions.remarksFor]
      cases f x with
      | error crash => rfl
      | ok found => cases CodeConventions.remarksFor xs f <;> rfl

theorem none {p : Node → Bool} (h : ∀ n ∈ ns, p n = false) :
    RemarksOn R (ns.filter p) (.ok []) := by
  have hnone : ns.filter p = [] :=
    List.filter_eq_nil_iff.mpr fun n hn => Bool.not_eq_true _ ▸ h n hn
  rw [hnone]
  exact nil

/-- Nodes that are passed over get no remark. -/
theorem filter {p : Node → Bool} {f : Node → Remarks}
    (h : ∀ n ∈ ns, RemarksIf R n (p n) (f n)) :
    RemarksOn R (ns.filter p) (CodeConventions.remarksFor ns f) := by
  have hone : ∀ n ∈ ns, RemarksOn R ([n].filter p) (f n) := by
    intro n hn
    have hrun := h n hn
    rw [List.filter_singleton]
    generalize p n = wanted at hrun ⊢
    generalize f n = run at hrun ⊢
    cases hrun with
    | passed => exact nil
    | made hremark => exact singleton hremark
  have hall := remarksFor hone
  rwa [← List.filter_flatMap, List.flatMap_singleton'] at hall

end RemarksOn

/-! ## Children of the nodes of a tree -/

namespace Node

variable {n : Node}

/-- Whatever lies below a node is the child of one of the nodes at and below it. -/
theorem flatMap_children_perm (n : Node) :
    (n.nodes.flatMap children).Perm (n.children.flatMap nodes) := by
  induction n using childrenInduction with
  | step n ih =>
      -- below the children stand the children of all that is at and below each of them
      have hbelow : ((n.children.flatMap nodes).flatMap children).Perm
          (n.children.flatMap fun c => c.children.flatMap nodes) := by
        rw [List.flatMap_assoc]
        exact List.Perm.flatMap_left _ ih
      rw [nodes_eq, List.flatMap_cons]
      refine (hbelow.append_left n.children).trans ?_
      have hjoined := List.map_append_flatMap_perm n.children id fun c => c.children.flatMap nodes
      simpa only [List.map_id, id, ← nodes_eq] using hjoined

end Node

namespace Document

variable {d : Document}

/-- To go through some children of some nodes is to go through the nodes with such a parent, in
another order. -/
theorem filter_children_perm (d : Document) (above below : Node → Bool) :
    ((d.root.nodes.filter above).flatMap fun n => n.children.filter below).Perm
      (d.root.nodes.filter fun n => below n && n.parent?.any above) := by
  let both (n : Node) : Bool := below n && n.parent?.any above
  have hchildren : ∀ n : Node, n.children.filter both =
      if above n then n.children.filter below else [] := by
    intro n
    have hboth : ∀ c ∈ n.children, both c = (below c && above n) := fun c hc => by
      simp [both, Node.parent?_of_mem_children hc]
    rw [List.filter_congr hboth]
    cases above n <;> simp
  have hgone : ∀ ns : List Node,
      ((ns.filter above).flatMap fun n => n.children.filter below) =
        (ns.flatMap Node.children).filter both := by
    intro ns
    induction ns with
    | nil => rfl
    | cons n ns ih =>
        rw [List.flatMap_cons, List.filter_append, hchildren, ← ih, List.filter_cons]
        split <;> simp
  -- the root has no parent, so it is none of the nodes on the right
  rw [hgone, Node.nodes_eq, List.filter_cons, if_neg (by simp [root, Node.parent?]),
    ← Node.nodes_eq]
  exact d.root.flatMap_children_perm.filter both

end Document

/-! ## Names and patterns -/

/-- One of the texts is a pattern that is found in the name. -/
def matchesOne (patterns : List String) (name : String) : Bool :=
  patterns.any fun p => (Pattern.read p).toOption.any fun pattern => pattern.foundIn name

/-- Where all texts are patterns, no comparison crashes. -/
theorem matchesAny_eq_ok {patterns : List String}
    (hread : ∀ p ∈ patterns, ∃ pattern, Pattern.read p = .ok pattern) (name : String) :
    matchesAny patterns name = .ok (matchesOne patterns name) := by
  induction patterns with
  | nil => rfl
  | cons p rest ih =>
      obtain ⟨pattern, hp⟩ := hread p List.mem_cons_self
      have hone : matchesOne (p :: rest) name =
          (pattern.foundIn name || matchesOne rest name) := by
        rw [matchesOne, List.any_cons, hp]
        rfl
      rw [matchesAny, hp, hone, ih fun q hq => hread q (List.mem_cons_of_mem p hq)]
      dsimp only
      cases pattern.foundIn name <;> rfl

/-! ## Bindings -/

namespace Node

/-- The node is a declarator. -/
def isDeclarator (n : Node) : Bool := n.isNamed && n.kind == "variable_declarator"

/-- The node is the head of a loop over the members of something. -/
def isMemberLoop (n : Node) : Bool := n.isOneOf ["for_in_statement"]

/-- The name or pattern that a declarator or the head of a loop binds. -/
def boundPattern? (n : Node) : Option Node :=
  n.child? (if n.isMemberLoop then "left" else "name")

/-- The binding is written in the head of a loop: of a loop over members, or in the part of a loop
with a counter that comes first. -/
def isInHeader (n : Node) : Bool :=
  n.isMemberLoop || n.parent?.any fun s => s.parent?.any fun loop =>
    loop.kind == "for_statement" && loop.child? "initializer" == some s

/-- The binding is written in what a loop with a counter repeats, without a block around it. -/
def isRepeated (n : Node) : Bool :=
  n.parent?.any fun s => s.parent?.any fun loop =>
    loop.kind == "for_statement" && loop.child? "initializer" != some s

theorem declarators_eq_filter (s : Node) : s.declarators = s.children.filter isDeclarator := by
  rw [declarators, parts, children, List.filter_map, List.filter_map, List.filter_filter]
  congr 1
  refine List.filter_congr fun t _ => ?_
  rw [Bool.eq_iff_iff]
  simp only [Function.comp_apply, kind, down, ParseTree.isSignificant, isDeclarator, isNamed,
    Bool.and_eq_true, beq_iff_eq, bne_iff_ne]
  constructor
  · rintro ⟨hkind, hnamed, -⟩
    exact ⟨hnamed, hkind⟩
  · rintro ⟨hnamed, hkind⟩
    exact ⟨hkind, hnamed, by rw [hkind]; decide⟩

theorem isMemberLoop_of_isDeclarator {n : Node} (h : n.isDeclarator = true) :
    n.isMemberLoop = false := by
  rw [isDeclarator, Bool.and_eq_true, beq_iff_eq] at h
  rw [isMemberLoop, isOneOf, h.2]
  rfl

end Node

namespace Document

variable {d : Document} {n s w : Node} {options : ReassignableOptions}

/-- The keyword that introduces what the node binds, if it is the head of a loop over members or a
declarator in a statement that declares variables. -/
def bindingKeyword? (d : Document) (n : Node) : Option String :=
  if n.isMemberLoop then d.headKeyword? n
  else if n.isDeclarator then
    (n.parent?.filter fun s => s.isOneOf variableStatementKinds).map d.declaringKeyword
  else none

/-- The node binds names that can be reassigned. -/
def isReassignable (d : Document) (n : Node) : Bool :=
  (d.bindingKeyword? n).any reassignableKeywords.contains

/-- The options let the binding pass. -/
def letsPass (d : Document) (options : ReassignableOptions) (n : Node) : Bool :=
  matchesOne options.ignoreIdentifierPattern (d.text? n.boundPattern?) ||
    options.allowInForLoopInit && (n.isInHeader || n.isRepeated)

/-- The remark is the one about the binding. -/
def RemarksOnBinding (d : Document) (n : Node) (r : Remark) : Prop :=
  ∃ p keyword, n.boundPattern? = some p ∧ d.bindingKeyword? n = some keyword ∧
    r = d.remark p s!"Unexpected {keyword}, use const instead."

/-- Declarators and loops over members have what they bind, as the grammar asks of them. -/
def BindsPatterns (d : Document) : Prop :=
  ∀ n ∈ d.root.nodes, n.isDeclarator || n.isMemberLoop → n.boundPattern?.isSome = true

instance (d : Document) : Decidable d.BindsPatterns :=
  inferInstanceAs (Decidable (∀ n ∈ d.root.nodes, _ → _ = true))

/-- A declarator in the tree binds its name. -/
theorem BindsPatterns.name_of_mem_declarators (hd : d.BindsPatterns) (hmem : s ∈ d.root.nodes)
    (hw : w ∈ s.declarators) : ∃ p, w.child? "name" = some p ∧ w.boundPattern? = some p := by
  rw [Node.declarators_eq_filter] at hw
  obtain ⟨hchild, hdeclarator⟩ := List.mem_filter.mp hw
  obtain ⟨p, hp⟩ := Option.isSome_iff_exists.mp
    (hd w (mem_of_mem_children hmem hchild) (by rw [hdeclarator, Bool.true_or]))
  refine ⟨p, ?_, hp⟩
  rwa [Node.boundPattern?, Node.isMemberLoop_of_isDeclarator hdeclarator] at hp

theorem bindingKeyword?_of_mem_declarators (hs : s.isOneOf variableStatementKinds = true)
    (hw : w ∈ s.declarators) : d.bindingKeyword? w = some (d.declaringKeyword s) := by
  have hparent := Node.parent?_of_mem_declarators hw
  rw [Node.declarators_eq_filter] at hw
  have hdeclarator := (List.mem_filter.mp hw).2
  rw [bindingKeyword?, Node.isMemberLoop_of_isDeclarator hdeclarator, if_neg Bool.false_ne_true,
    if_pos hdeclarator, hparent, Option.filter_some, if_pos hs, Option.map_some]

/-- What binds by a keyword is a declarator of a statement unless it is the head of a loop. -/
theorem isDeclarator_of_bindingKeyword? {keyword : String}
    (h : d.bindingKeyword? n = some keyword) :
    (n.isDeclarator && n.parent?.any fun s => s.isOneOf variableStatementKinds) =
      !n.isMemberLoop := by
  unfold bindingKeyword? at h
  split_ifs at h with hloop hdeclarator
  · have hnone : n.isDeclarator = false := by
      by_contra hdeclarator
      rw [Node.isMemberLoop_of_isDeclarator (Bool.not_eq_false _ |>.mp hdeclarator)] at hloop
      cases hloop
    rw [hloop, hnone]
    rfl
  · obtain ⟨s, hs, -⟩ := Option.map_eq_some_iff.mp h
    obtain ⟨hparent, hkind⟩ := Option.filter_eq_some_iff.mp hs
    rw [hdeclarator, hparent, Option.any_some, hkind, Bool.not_eq_true _ |>.mp hloop]
    rfl

/-- The rule asks only what is above the statement, not which part of it the statement is. -/
theorem isForInitializer_eq (hw : w ∈ s.declarators) :
    (w.isInHeader || w.isRepeated) = isForInitializer s := by
  have hparent := Node.parent?_of_mem_declarators hw
  rw [Node.declarators_eq_filter] at hw
  rw [Node.isInHeader, Node.isRepeated, Node.isMemberLoop_of_isDeclarator (List.mem_filter.mp hw).2,
    hparent, isForInitializer, Option.any_some, Option.any_some]
  cases s.parent? with
  | none => rfl
  | some loop =>
      simp only [Option.any_some, Bool.false_or, bne]
      rw [← Bool.and_or_distrib_left, Bool.or_not_self, Bool.and_true]

/-! ## The remarks of the rule -/

/-- The binding gets a remark. -/
def isRemarked (d : Document) (options : ReassignableOptions) (n : Node) : Bool :=
  d.isReassignable n && !d.letsPass options n

section Run

variable (hread : ∀ p ∈ options.ignoreIdentifierPattern, ∃ pattern, Pattern.read p = .ok pattern)
include hread

/-- A binding that is not let pass for where it stands is remarked on unless its name matches. -/
theorem reassignable_of_binding {keyword : String} {p : Node} (hp : n.boundPattern? = some p)
    (hkeyword : d.bindingKeyword? n = some keyword)
    (hword : reassignableKeywords.contains keyword = true)
    (hplace : (options.allowInForLoopInit && (n.isInHeader || n.isRepeated)) = false) :
    RemarksIf d.RemarksOnBinding n (d.isRemarked options n)
      (d.reassignable options keyword (some p)) := by
  have hremarked : d.isRemarked options n =
      !matchesOne options.ignoreIdentifierPattern (d.text p) := by
    rw [isRemarked, isReassignable, letsPass, hkeyword, hplace, hp, Option.any_some, hword,
      Bool.true_and, Bool.or_false, text?]
  rw [hremarked, reassignable, text?, matchesAny_eq_ok hread]
  cases matchesOne options.ignoreIdentifierPattern (d.text p) with
  | true => exact .passed
  | false => exact .made ⟨p, keyword, hp, hkeyword, rfl⟩

theorem remarksOn_statement (hd : d.BindsPatterns) (hmem : s ∈ d.root.nodes)
    (hs : s.isOneOf variableStatementKinds = true) :
    RemarksOn d.RemarksOnBinding (s.declarators.filter (d.isRemarked options))
      (d.reassignableInStatement options s) := by
  have hkeyword : ∀ w ∈ s.declarators, d.bindingKeyword? w = some (d.declaringKeyword s) :=
    fun w hw => bindingKeyword?_of_mem_declarators hs hw
  unfold reassignableInStatement
  dsimp only
  split_ifs with hword hallowed
  · rw [Bool.not_eq_true'] at hword
    refine .none fun w hw => ?_
    rw [isRemarked, isReassignable, hkeyword w hw, Option.any_some, hword, Bool.false_and]
  · refine .none fun w hw => ?_
    rw [isRemarked, letsPass, isForInitializer_eq hw, hallowed, Bool.or_true, Bool.not_true,
      Bool.and_false]
  · rw [Bool.not_eq_true', Bool.not_eq_false] at hword
    refine .filter fun w hw => ?_
    obtain ⟨p, hname, hp⟩ := hd.name_of_mem_declarators hmem hw
    rw [hname]
    exact reassignable_of_binding hread hp (hkeyword w hw) hword
      (by rwa [isForInitializer_eq hw, ← Bool.not_eq_true])

/-- The head of a loop is remarked on if it binds names that can be reassigned, unless the options
let it pass. -/
theorem reassignableInHead_of_isMemberLoop (hd : d.BindsPatterns) (hmem : n ∈ d.root.nodes)
    (hloop : n.isMemberLoop = true) :
    RemarksIf d.RemarksOnBinding n (d.isRemarked options n) (d.reassignableInHead options n) := by
  obtain ⟨p, hp⟩ := Option.isSome_iff_exists.mp (hd n hmem (by rw [hloop, Bool.or_true]))
  have hleft : n.child? "left" = some p := by rwa [Node.boundPattern?, hloop] at hp
  have hheader : n.isInHeader = true := by rw [Node.isInHeader, hloop, Bool.true_or]
  have hkeyword : d.bindingKeyword? n = d.headKeyword? n := if_pos hloop
  rw [reassignableInHead, hleft]
  cases hword : d.headKeyword? n with
  | none =>
      have hpassed : d.isRemarked options n = false := by
        rw [isRemarked, isReassignable, hkeyword, hword, Option.any_none, Bool.false_and]
      rw [hpassed]
      exact .passed
  | some keyword =>
      rw [hword] at hkeyword
      dsimp only
      split_ifs with hgiven
      · have hpassed : d.isRemarked options n = false := by
          rw [isRemarked, isReassignable, letsPass, hheader, hkeyword, Option.any_some]
          rw [Bool.or_eq_true, Bool.not_eq_true'] at hgiven
          rcases hgiven with hword | hallowed
          · rw [hword, Bool.false_and]
          · rw [hallowed, Bool.true_or, Bool.true_and, Bool.or_true, Bool.not_true, Bool.and_false]
        rw [hpassed]
        exact .passed
      · rw [Bool.or_eq_true, not_or, Bool.not_eq_true, Bool.not_eq_false', Bool.not_eq_true]
          at hgiven
        exact reassignable_of_binding hread hp hkeyword hgiven.1 (by rw [hgiven.2, Bool.false_and])

theorem remarksOn_heads (hd : d.BindsPatterns) :
    RemarksOn d.RemarksOnBinding ((d.find ["for_in_statement"]).filter (d.isRemarked options))
      (remarksFor (d.find ["for_in_statement"]) (d.reassignableInHead options)) := by
  refine .filter fun n hn => ?_
  obtain ⟨hmem, hloop⟩ := List.mem_filter.mp hn
  exact reassignableInHead_of_isMemberLoop hread hd hmem hloop

end Run

/-- The declarators of all statements and the loops over members, as far as they are remarked on,
are the bindings in the tree that are. -/
theorem remarked_perm (d : Document) (options : ReassignableOptions) :
    ((d.find variableStatementKinds).flatMap
          (fun s => s.declarators.filter (d.isRemarked options)) ++
        (d.find ["for_in_statement"]).filter (d.isRemarked options)).Perm
      (d.root.nodes.filter (d.isRemarked options)) := by
  have hdeclarators :
      ((d.find variableStatementKinds).flatMap fun s =>
        s.declarators.filter (d.isRemarked options)).Perm
      ((d.root.nodes.filter (d.isRemarked options)).filter fun n => !n.isMemberLoop) := by
    simp only [Node.declarators_eq_filter, List.filter_filter]
    refine (d.filter_children_perm _ _).trans (.of_eq (List.filter_congr fun n _ => ?_))
    cases hremarked : d.isRemarked options n with
    | false => rw [Bool.false_and, Bool.false_and, Bool.and_false]
    | true =>
        rw [isRemarked, Bool.and_eq_true] at hremarked
        obtain ⟨keyword, hkeyword, -⟩ := (Option.any_eq_true _ _).mp hremarked.1
        rw [Bool.true_and, Bool.and_true, isDeclarator_of_bindingKeyword? hkeyword]
  have hloops : (d.find ["for_in_statement"]).filter (d.isRemarked options) =
      (d.root.nodes.filter (d.isRemarked options)).filter Node.isMemberLoop := by
    rw [find, Node.find, List.filter_comm]
    rfl
  rw [hloops]
  exact (hdeclarators.append_right _).trans
    (List.perm_append_comm.trans (List.filter_append_perm _ _))

/-- The file `for (let i = 0; i < 1; i++) var x = 1;`: the statement that the loop repeats declares
a variable. -/
def counting : Document :=
  ⟨"a.ts", .ofString "for (let i = 0; i < 1; i++) var x = 1;",
    .node ⟨"program", true, false, none, 0, 38⟩ [
      .node ⟨"for_statement", true, false, none, 0, 38⟩ [
        .node ⟨"for", false, false, none, 0, 3⟩ [],
        .node ⟨"(", false, false, none, 4, 5⟩ [],
        .node ⟨"lexical_declaration", true, false, some "initializer", 5, 15⟩ [
          .node ⟨"let", false, false, some "kind", 5, 8⟩ [],
          .node ⟨"variable_declarator", true, false, none, 9, 14⟩ [
            .node ⟨"identifier", true, false, some "name", 9, 10⟩ [],
            .node ⟨"=", false, false, none, 11, 12⟩ [],
            .node ⟨"number", true, false, some "value", 13, 14⟩ []],
          .node ⟨";", false, false, none, 14, 15⟩ []],
        .node ⟨"binary_expression", true, false, some "condition", 16, 21⟩ [
          .node ⟨"identifier", true, false, some "left", 16, 17⟩ [],
          .node ⟨"<", false, false, some "operator", 18, 19⟩ [],
          .node ⟨"number", true, false, some "right", 20, 21⟩ []],
        .node ⟨";", false, false, some "condition", 21, 22⟩ [],
        .node ⟨"update_expression", true, false, some "increment", 23, 26⟩ [
          .node ⟨"identifier", true, false, some "argument", 23, 24⟩ [],
          .node ⟨"++", false, false, some "operator", 24, 26⟩ []],
        .node ⟨")", false, false, none, 26, 27⟩ [],
        .node ⟨"variable_declaration", true, false, some "body", 28, 38⟩ [
          .node ⟨"var", false, false, none, 28, 31⟩ [],
          .node ⟨"variable_declarator", true, false, none, 32, 37⟩ [
            .node ⟨"identifier", true, false, some "name", 32, 33⟩ [],
            .node ⟨"=", false, false, none, 34, 35⟩ [],
            .node ⟨"number", true, false, some "value", 36, 37⟩ []],
          .node ⟨";", false, false, none, 37, 38⟩ []]]]⟩

end Document

end CodeConventions
