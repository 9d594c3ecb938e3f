import CodeConventions.Tree.Basic

/-!
# Wrappers

Parentheses, type assertions and non-null assertions surround an expression without changing its
value.  `unwrap` goes down through them to the expression, and `climb` goes up through them to the
node in which the expression is used.  The expression is the first part of a wrapper; only in an
assertion written before its expression it is the last.
-/

namespace CodeConventions

/-- The kinds of nodes that have the value of what they surround. -/
def wrapperKinds : List String :=
  ["parenthesized_expression", "as_expression", "satisfies_expression", "non_null_expression",
    "type_assertion"]

namespace ParseTree

mutual

/-- The expression at the root of a tree, or inside the wrapper at its root. -/
def unwrapBelow (above : List ParseTree) : ParseTree → Node
  | .node l cs =>
    if wrapperKinds.contains l.kind then
      let inner :=
        if l.kind = "type_assertion" then unwrapLast (.node l cs :: above) cs
        else unwrapFirst (.node l cs :: above) cs
      inner.getD ⟨.node l cs, above⟩
    else ⟨.node l cs, above⟩

/-- The expression in the first part of a wrapper. -/
def unwrapFirst (above : List ParseTree) : List ParseTree → Option Node
  | [] => none
  | c :: cs => if c.isSignificant then some (unwrapBelow above c) else unwrapFirst above cs

/-- The expression in the last part of a wrapper. -/
def unwrapLast (above : List ParseTree) : List ParseTree → Option Node
  | [] => none
  | c :: cs =>
    match unwrapLast above cs with
    | some n => some n
    | none => if c.isSignificant then some (unwrapBelow above c) else none

end

mutual

theorem size_unwrapBelow_le (above : List ParseTree) :
    ∀ t : ParseTree, (unwrapBelow above t).size ≤ t.size
  | .node l cs => by
    unfold unwrapBelow
    split
    · have h1 := fun n => size_unwrapFirst_le (.node l cs :: above) cs n
      have h2 := fun n => size_unwrapLast_le (.node l cs :: above) cs n
      dsimp only
      split
      · cases h : unwrapLast (.node l cs :: above) cs with
        | none => exact Nat.le_refl _
        | some n =>
          have := h2 n h
          simp only [Option.getD_some, size]
          omega
      · cases h : unwrapFirst (.node l cs :: above) cs with
        | none => exact Nat.le_refl _
        | some n =>
          have := h1 n h
          simp only [Option.getD_some, size]
          omega
    · exact Nat.le_refl _

theorem size_unwrapFirst_le (above : List ParseTree) :
    ∀ (cs : List ParseTree) (n : Node), unwrapFirst above cs = some n → n.size ≤ sizeAll cs
  | [], n, h => by simp [unwrapFirst] at h
  | c :: cs, n, h => by
    have ih := size_unwrapBelow_le above c
    have ihs := size_unwrapFirst_le above cs n
    unfold unwrapFirst at h
    simp only [sizeAll]
    split at h
    · obtain rfl := Option.some.inj h
      omega
    · have := ihs h
      omega

theorem size_unwrapLast_le (above : List ParseTree) :
    ∀ (cs : List ParseTree) (n : Node), unwrapLast above cs = some n → n.size ≤ sizeAll cs
  | [], n, h => by simp [unwrapLast] at h
  | c :: cs, n, h => by
    have ih := size_unwrapBelow_le above c
    have ihs := size_unwrapLast_le above cs n
    unfold unwrapLast at h
    simp only [sizeAll]
    split at h
    · rename_i m hm
      obtain rfl := Option.some.inj h
      have := ihs hm
      omega
    · split at h
      · obtain rfl := Option.some.inj h
        omega
      · simp at h

end

end ParseTree

namespace Node

/-- The node has the value of what it surrounds. -/
def isWrapper (n : Node) : Bool := n.isOneOf wrapperKinds

/-- The expression that the node is or surrounds. -/
def unwrap (n : Node) : Node := n.tree.unwrapBelow n.above

theorem size_unwrap_le (n : Node) : n.unwrap.size ≤ n.size :=
  ParseTree.size_unwrapBelow_le n.above n.tree

/-- The nearest node above that is no wrapper. -/
def climb? (n : Node) : Option Node := n.ancestors.find? fun a => !a.isWrapper

theorem length_above_of_mem_ancestorsOf {a : Node} {ts : List ParseTree} (h : a ∈ ancestorsOf ts) :
    a.above.length < ts.length := by
  induction ts with
  | nil => simp [ancestorsOf] at h
  | cons t ts ih =>
    rcases List.mem_cons.1 h with rfl | h
    · simp
    · exact Nat.lt_succ_of_lt (ih h)

theorem length_above_climb?_lt {n p : Node} (h : n.climb? = some p) :
    p.above.length < n.above.length :=
  length_above_of_mem_ancestorsOf (List.mem_of_find?_eq_some h)

/-- The expression in a role. -/
def operand? (n : Node) (role : String) : Option Node := (n.child? role).map unwrap

end Node

end CodeConventions
