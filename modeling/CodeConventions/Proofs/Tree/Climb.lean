import CodeConventions.Expression.Member
import CodeConventions.Function.Basic
import CodeConventions.Proofs.Tree.Descent

/-!
# Through wrappers and back

Going down from a node through wrappers and up again from where this ends leads to where going up
from the node leads, as far as one looks for nodes that are no wrappers.  So an expression, without
its wrappers, knows the node in which it is used (`climb?_undoes_unwrap`).

The way down takes one wrapper at a time: from a wrapper it goes on to what the wrapper surrounds,
and it ends where there is nothing to go on to (`UnwrapsTo`).  Each node on it but the last is a
wrapper, and the parent of the next one, so the way up passes through it, whichever child the next
one is.
-/

namespace CodeConventions

namespace ParseTree

theorem unwrapFirst_eq (above : List ParseTree) (ts : List ParseTree) :
    unwrapFirst above ts = ((ts.filter isSignificant).head?).map (unwrapBelow above) := by
  induction ts with
  | nil => rfl
  | cons t ts ih =>
      rw [unwrapFirst, List.filter_cons]
      split
      · rfl
      · exact ih

theorem unwrapLast_eq (above : List ParseTree) (ts : List ParseTree) :
    unwrapLast above ts = ((ts.filter isSignificant).getLast?).map (unwrapBelow above) := by
  induction ts with
  | nil => rfl
  | cons t ts ih =>
      rw [unwrapLast, ih, List.filter_cons]
      cases hrest : (ts.filter isSignificant).getLast? with
      | none =>
          rw [List.getLast?_eq_none_iff] at hrest
          rw [hrest]
          cases t.isSignificant with
          | false => rfl
          | true => rfl
      | some last =>
          cases t.isSignificant with
          | false => simp [hrest]
          | true => simp [List.getLast?_cons, hrest]

end ParseTree

namespace Node

variable {c e m n p : Node} {kinds : List String}

@[simp] theorem isOneOf_iff : n.isOneOf kinds = true ↔ n.kind ∈ kinds := by
  simp [isOneOf]

theorem isWrapper_iff : n.isWrapper = true ↔ n.kind ∈ wrapperKinds := isOneOf_iff

theorem not_isWrapper_of_kind (h : n.kind ∈ kinds) (hkinds : ∀ kind ∈ kinds, kind ∉ wrapperKinds) :
    ¬ n.isWrapper = true := by
  rw [isWrapper_iff]
  exact hkinds n.kind h

theorem not_isFunction_of_kind (h : n.kind ∈ kinds)
    (hkinds : ∀ kind ∈ kinds, kind ∉ functionKinds) : n.isFunction = false := by
  rw [Bool.eq_false_iff, ne_eq, isFunction, isOneOf_iff]
  exact hkinds n.kind h

/-! ## One wrapper at a time -/

/-- What a wrapper surrounds: its first part, or its last one if the wrapper is written before
it. -/
def inner? (n : Node) : Option Node :=
  if n.isWrapper then if n.kind = "type_assertion" then n.parts.getLast? else n.parts.head?
  else none

theorem isWrapper_and_mem_parts_of_inner? (h : n.inner? = some c) :
    n.isWrapper = true ∧ c ∈ n.parts := by
  rw [inner?] at h
  split_ifs at h with hwrapper hbefore
  · exact ⟨hwrapper, List.mem_of_getLast? h⟩
  · exact ⟨hwrapper, List.mem_of_mem_head? h⟩

theorem inner?_eq_none_iff : n.inner? = none ↔ n.isWrapper = false ∨ n.parts = [] := by
  rw [inner?]
  split_ifs with hwrapper hbefore
  · rw [List.getLast?_eq_none_iff, hwrapper, or_iff_right Bool.true_eq_false.mp]
  · rw [List.head?_eq_none_iff, hwrapper, or_iff_right Bool.true_eq_false.mp]
  · exact iff_of_true rfl (Or.inl (Bool.eq_false_iff.mpr hwrapper))

/-- A wrapper has the value of its first part, or of its last one if it is written before it. -/
theorem unwrap_eq (n : Node) :
    n.unwrap =
      if n.isWrapper then
        ((if n.kind = "type_assertion" then n.parts.getLast? else n.parts.head?).map unwrap).getD n
      else n := by
  obtain ⟨⟨l, ts⟩, above⟩ := n
  rw [unwrap, ParseTree.unwrapBelow]
  simp only [ParseTree.unwrapFirst_eq, ParseTree.unwrapLast_eq, parts, List.getLast?_map,
    List.head?_map, ← apply_ite, Option.map_map]
  rfl

theorem unwrap_eq_inner? (n : Node) : n.unwrap = (n.inner?.map unwrap).getD n := by
  rw [unwrap_eq, inner?]
  split_ifs <;> rfl

/-- A node without its wrappers is the node itself, or one of its parts without wrappers. -/
theorem unwrap_cases (n : Node) :
    n.unwrap = n ∨ n.isWrapper = true ∧ ∃ c ∈ n.parts, n.unwrap = c.unwrap := by
  rw [unwrap_eq_inner?]
  cases hn : n.inner? with
  | none => exact Or.inl rfl
  | some c =>
      obtain ⟨hwrapper, hc⟩ := isWrapper_and_mem_parts_of_inner? hn
      exact Or.inr ⟨hwrapper, c, hc, rfl⟩

theorem unwrap_of_not_isWrapper (h : ¬ n.isWrapper = true) : n.unwrap = n := by
  rcases unwrap_cases n with heq | ⟨hwrapper, _⟩
  · exact heq
  · exact absurd hwrapper h

theorem unwrap_mem_nodes (n : Node) : n.unwrap ∈ n.nodes := by
  induction n using childrenInduction with
  | step n ih =>
      rcases unwrap_cases n with heq | ⟨_, c, hc, heq⟩
      · rw [heq]
        exact n.self_mem_nodes
      · rw [heq]
        have hchild := mem_children_of_mem_parts hc
        exact mem_nodes_iff.mpr (Or.inr ⟨c, hchild, ih c hchild⟩)

theorem unwrap_unwrap (n : Node) : n.unwrap.unwrap = n.unwrap := by
  induction n using childrenInduction with
  | step n ih =>
      rcases unwrap_cases n with heq | ⟨_, c, hc, heq⟩
      · rw [heq, heq]
      · rw [heq]
        exact ih c (mem_children_of_mem_parts hc)

/-- What holds of a node as soon as it holds of the children of the expression that it is or
surrounds holds of every node. -/
theorem unwrapInduction {motive : Node → Prop}
    (step : ∀ n : Node, (∀ c ∈ n.unwrap.children, motive c) → motive n) (n : Node) : motive n := by
  induction hsize : n.size using Nat.strong_induction_on generalizing n with
  | _ size ih =>
    refine step n fun c hc => ih c.size ?_ c rfl
    have hchild := size_lt_of_mem_children hc
    have hunwrap := n.size_unwrap_le
    omega

/-- A node without its wrappers is the node itself, or a wrapper is its parent. -/
theorem unwrap_eq_or_parent? (n : Node) :
    n.unwrap = n ∨ ∃ w, n.unwrap.parent? = some w ∧ w.isWrapper = true := by
  induction n using childrenInduction with
  | step n ih =>
      rcases unwrap_cases n with heq | ⟨hwrapper, c, hc, heq⟩
      · exact Or.inl heq
      · have hchild := mem_children_of_mem_parts hc
        rw [heq]
        rcases ih c hchild with hself | hparent
        · rw [hself]
          exact Or.inr ⟨n, parent?_of_mem_children hchild, hwrapper⟩
        · exact Or.inr hparent

/-! ## Looking up -/

/-- Wrappers do not matter to a search among the ancestors that does not look for wrappers. -/
theorem find?_ancestors_unwrap {p : Node → Bool} (hp : ∀ w, w.isWrapper = true → p w = false)
    (n : Node) : n.unwrap.ancestors.find? p = n.ancestors.find? p := by
  induction n using childrenInduction with
  | step n ih =>
      rcases unwrap_cases n with heq | ⟨hwrapper, c, hc, heq⟩
      · rw [heq]
      · have hchild := mem_children_of_mem_parts hc
        rw [heq, ih c hchild, ancestors_of_mem_children hchild,
          List.find?_cons_of_neg (by simp [hp n hwrapper])]

@[simp] theorem climb?_unwrap (n : Node) : n.unwrap.climb? = n.climb? :=
  find?_ancestors_unwrap (fun w hw => by rw [hw]; rfl) n

theorem isFunction_eq_false_of_isWrapper (h : n.isWrapper = true) : n.isFunction = false :=
  not_isFunction_of_kind (isWrapper_iff.mp h) (by decide)

@[simp] theorem enclosingFunction?_unwrap (n : Node) :
    n.unwrap.enclosingFunction? = n.enclosingFunction? :=
  find?_ancestors_unwrap (fun _ hw => isFunction_eq_false_of_isWrapper hw) n

theorem climb?_of_parent? (hn : n.parent? = some p) (hp : ¬ p.isWrapper = true) :
    n.climb? = some p := by
  obtain ⟨above, habove⟩ := parent?_eq_some_iff.mp hn
  rw [climb?, habove, List.find?_cons_of_pos (by simpa using hp)]

theorem climb?_of_mem_children (hn : n ∈ p.children) (hp : ¬ p.isWrapper = true) :
    n.climb? = some p :=
  climb?_of_parent? (parent?_of_mem_children hn) hp

theorem climb?_operand? {role : String} (h : p.operand? role = some n)
    (hp : ¬ p.isWrapper = true) : n.climb? = some p := by
  obtain ⟨c, hc, rfl⟩ := Option.map_eq_some_iff.mp h
  rw [climb?_unwrap, climb?_of_mem_children (mem_children_of_child? hc) hp]

/-- What holds of a node as soon as it holds of the one that it leads up to holds of every node. -/
theorem climbInduction {motive : Node → Prop}
    (step : ∀ n : Node, (∀ p, n.climb? = some p → motive p) → motive n) (n : Node) : motive n := by
  induction hlength : n.above.length using Nat.strong_induction_on generalizing n with
  | _ length ih =>
      apply step n
      intro p hp
      exact ih p.above.length (hlength ▸ length_above_climb?_lt hp) p rfl

theorem enclosingFunction?_of_mem_children (hn : n ∈ p.children) :
    n.enclosingFunction? = if p.isFunction then some p else p.enclosingFunction? := by
  rw [enclosingFunction?, ancestors_of_mem_children hn, List.find?_cons]
  cases p.isFunction with
  | true => rfl
  | false => rfl

/-! ## There and back -/

/-- Going on from a wrapper to what it surrounds leads from a node to another one and ends there. -/
inductive UnwrapsTo : Node → Node → Prop
  | here {n : Node} (hn : n.inner? = none) : UnwrapsTo n n
  | inside {n c e : Node} (hn : n.inner? = some c) (h : UnwrapsTo c e) : UnwrapsTo n e

theorem UnwrapsTo.unwrap_eq (h : n.UnwrapsTo e) : n.unwrap = e := by
  induction h with
  | here hn => rw [unwrap_eq_inner?, hn, Option.map_none, Option.getD_none]
  | inside hn _ ih => rw [unwrap_eq_inner?, hn, Option.map_some, Option.getD_some, ih]

theorem UnwrapsTo.inner?_eq_none (h : n.UnwrapsTo e) : e.inner? = none := by
  induction h with
  | here hn => exact hn
  | inside _ _ ih => exact ih

/-- The way down through wrappers has an end. -/
theorem unwrapsTo_unwrap (n : Node) : n.UnwrapsTo n.unwrap := by
  induction n using childrenInduction with
  | step n ih =>
      rw [unwrap_eq_inner?]
      cases hn : n.inner? with
      | none => exact .here hn
      | some c =>
          have hc := (isWrapper_and_mem_parts_of_inner? hn).2
          exact .inside hn (ih c (mem_children_of_mem_parts hc))

/-- The way up goes from parent to parent until there is one that is no wrapper. -/
theorem climb?_eq (n : Node) :
    n.climb? = n.parent?.bind fun p => if p.isWrapper then p.climb? else some p := by
  obtain ⟨t, above⟩ := n
  cases above with
  | nil => rfl
  | cons u above =>
      rw [climb?, ancestors, ancestorsOf, List.find?_cons, parent?, Option.bind_some]
      cases (⟨u, above⟩ : Node).isWrapper with
      | true => rfl
      | false => rfl

/-- From every node the way down through wrappers ends, at one node only.  This is no wrapper, or a
wrapper without parts, and to go down from it leads nowhere else.  The way up from it leads to where
the way up from the first node leads; for a child of a node that is no wrapper, this is that
node. -/
theorem climb?_undoes_unwrap (n : Node) :
    (∀ e, n.UnwrapsTo e ↔ n.unwrap = e) ∧
    n.unwrap.unwrap = n.unwrap ∧
    (n.unwrap.isWrapper = false ∨ n.unwrap.parts = []) ∧
    (n.climb? = n.parent?.bind fun p => if p.isWrapper then p.climb? else some p) ∧
    n.unwrap.climb? = n.climb? ∧
    (n.isWrapper = false → ∀ c ∈ n.children, c.unwrap.climb? = some n) := by
  refine ⟨fun e => ⟨UnwrapsTo.unwrap_eq, ?_⟩, n.unwrap_unwrap,
    inner?_eq_none_iff.mp n.unwrapsTo_unwrap.inner?_eq_none, n.climb?_eq, n.climb?_unwrap,
    fun hn c hc => ?_⟩
  · rintro rfl
    exact n.unwrapsTo_unwrap
  · rw [climb?_unwrap, climb?_of_mem_children hc (Bool.eq_false_iff.mp hn)]

/-- The expression `<T>x!`, an assertion before an assertion that follows. -/
def assertedTwice : ParseTree :=
  .node ⟨"type_assertion", true, false, none, 6, 11⟩
    [.node ⟨"type_arguments", true, false, none, 6, 9⟩
      [.node ⟨"<", false, false, none, 6, 7⟩ [],
        .node ⟨"type_identifier", true, false, none, 7, 8⟩ [],
        .node ⟨">", false, false, none, 8, 9⟩ []],
    .node ⟨"non_null_expression", true, false, none, 9, 11⟩
      [.node ⟨"identifier", true, false, none, 9, 10⟩ [],
        .node ⟨"!", false, false, none, 10, 11⟩ []]]

/-- The statement `(/*c*/<T>x!)`. -/
def wrappedStatement : Node :=
  ⟨.node ⟨"expression_statement", true, false, none, 0, 12⟩
    [.node ⟨"parenthesized_expression", true, false, none, 0, 12⟩
      [.node ⟨"(", false, false, none, 0, 1⟩ [],
        .node ⟨"comment", true, false, none, 1, 6⟩ [],
        assertedTwice,
        .node ⟨")", false, false, none, 11, 12⟩ []]], []⟩

/-- The way down from the only child of `wrappedStatement` passes three wrappers and a comment, and
the way up leads back to the statement. -/
theorem climb?_undoes_unwrap_wrappedStatement :
    wrappedStatement.isWrapper = false ∧
      ∀ c ∈ wrappedStatement.children,
        (c.unwrap.kind, c.unwrap.start, c.unwrap.above.length) = ("identifier", 9, 4) ∧
          c.unwrap.climb? = some wrappedStatement := by
  have hstatement : wrappedStatement.isWrapper = false := by decide
  obtain ⟨_, _, _, _, _, hback⟩ := climb?_undoes_unwrap wrappedStatement
  refine ⟨hstatement, fun c hc => ⟨?_, hback hstatement c hc⟩⟩
  revert c
  decide

/-! ## The name at the base of a chain

From the name at the base of a chain of members and subscripts the way up leads through accesses and
wrappers only, until it leaves the chain. -/

variable {r : Node}

/-- The kinds of nodes that a chain consists of, above the name at its base. -/
def chainKinds : List String := accessKinds ++ wrapperKinds

/-- The cases of a search for the name at the base: the name is found, or the search goes on in an
object. -/
theorem rootIdentifier?_cases (h : n.rootIdentifier? = some r) :
    n.unwrap = r ∧ r.kind = "identifier" ∨
      n.unwrap.kind ∈ accessKinds ∧ ∃ o, n.unwrap.child? "object" = some o ∧
        o.rootIdentifier? = some r := by
  rw [rootIdentifier?] at h
  split at h
  next haccess =>
    split at h
    next o ho => exact Or.inr ⟨isOneOf_iff.mp haccess, o, ho, h⟩
    next => cases h
  next =>
    split at h
    next hkind =>
      obtain rfl := Option.some_inj.mp h
      exact Or.inl ⟨rfl, hkind⟩
    next => cases h

/-- What holds of a name, and of an expression as soon as it holds of the object that it reaches
into, holds of every expression with a name at its base. -/
theorem rootIdentifier?_induction {motive : Node → Prop} (h : n.rootIdentifier? = some r)
    (name : ∀ n : Node, n.unwrap = r → r.kind = "identifier" → motive n)
    (access : ∀ n o : Node, n.unwrap.kind ∈ accessKinds → n.unwrap.child? "object" = some o →
      motive o → motive n) : motive n := by
  induction hsize : n.size using Nat.strong_induction_on generalizing n with
  | _ size ih =>
      rcases rootIdentifier?_cases h with ⟨hr, hkind⟩ | ⟨haccess, o, ho, hr⟩
      · exact name n hr hkind
      · refine access n o haccess ho (ih o.size ?_ hr rfl)
        rw [← hsize]
        exact (size_child?_lt ho).trans_le n.size_unwrap_le

theorem mem_nodes_of_rootIdentifier? (h : n.rootIdentifier? = some r) : r ∈ n.nodes := by
  refine rootIdentifier?_induction (motive := fun n => r ∈ n.nodes) h (fun n hr _ => ?_)
    fun n o _ ho ih => ?_
  · exact hr ▸ n.unwrap_mem_nodes
  · exact mem_nodes_trans n.unwrap_mem_nodes
      (mem_nodes_trans (mem_nodes_of_mem_children (mem_children_of_child? ho)) ih)

theorem eq_or_parent?_of_rootIdentifier? (h : n.rootIdentifier? = some r) :
    r = n ∨ ∃ q, r.parent? = some q ∧ q.kind ∈ chainKinds := by
  refine rootIdentifier?_induction
    (motive := fun n => r = n ∨ ∃ q, r.parent? = some q ∧ q.kind ∈ chainKinds) h
    (fun n hr _ => ?_) fun n o haccess ho ih => ?_
  · rcases n.unwrap_eq_or_parent? with heq | ⟨w, hw, hwrapper⟩
    · exact Or.inl (hr.symm.trans heq)
    · exact Or.inr ⟨w, hr ▸ hw, List.mem_append_right _ (isWrapper_iff.mp hwrapper)⟩
  · rcases ih with rfl | hq
    · exact Or.inr ⟨n.unwrap, parent?_of_child? ho,
        List.mem_append_left _ haccess⟩
    · exact Or.inr hq

/-- A search among the ancestors that does not look for accesses or wrappers goes on above the
chain. -/
theorem find?_ancestors_rootIdentifier? {p : Node → Bool}
    (hp : ∀ w : Node, w.kind ∈ chainKinds → p w = false) (h : n.rootIdentifier? = some r) :
    r.ancestors.find? p = n.ancestors.find? p := by
  have hwrapper : ∀ w : Node, w.isWrapper = true → p w = false := fun w hw =>
    hp w (List.mem_append_right _ (isWrapper_iff.mp hw))
  refine rootIdentifier?_induction
    (motive := fun n => r.ancestors.find? p = n.ancestors.find? p) h (fun n hr _ => ?_)
    fun n o haccess ho ih => ?_
  · rw [← hr, find?_ancestors_unwrap hwrapper]
  · rw [ih, ancestors_of_mem_children (mem_children_of_child? ho),
      List.find?_cons_of_neg (by simp [hp n.unwrap (List.mem_append_left _ haccess)]),
      find?_ancestors_unwrap hwrapper]

/-! ### The search step by step -/

theorem rootIdentifier?_unwrap (n : Node) : n.unwrap.rootIdentifier? = n.rootIdentifier? := by
  rw [rootIdentifier?, rootIdentifier?, unwrap_unwrap]

theorem rootIdentifier?_of_child? {o : Node} (hkind : n.kind ∈ accessKinds)
    (ho : n.child? "object" = some o) : n.rootIdentifier? = o.rootIdentifier? := by
  have hwrapper : ∀ kind ∈ accessKinds, kind ∉ wrapperKinds := by decide
  rw [rootIdentifier?, unwrap_of_not_isWrapper (not_isWrapper_of_kind hkind hwrapper)]
  rw [if_pos (isOneOf_iff.mpr hkind)]
  split
  next q hq => rw [Option.some_inj.mp (ho.symm.trans hq)]
  next hnone =>
    rw [ho] at hnone
    cases hnone

theorem rootIdentifier?_of_identifier (hkind : n.kind = "identifier") :
    n.rootIdentifier? = some n := by
  have hunwrap := unwrap_of_not_isWrapper
    (not_isWrapper_of_kind (List.mem_singleton.mpr hkind) (by decide))
  rw [rootIdentifier?, hunwrap]
  rw [if_neg (by rw [isOneOf_iff, hkind]; decide), if_pos hkind]

end Node

end CodeConventions
