import CodeConventions.Expression.Literal
import CodeConventions.Expression.Member
import CodeConventions.Proofs.Tree.Climb

/-!
# The value of an expression, one step at a time

The value of an expression is found without its wrappers.  A literal has a value of its own, whatever
the values of names are.  A minus sign asks for the value of its operand, and a name for the value of
the name.  Nothing else has a value.
-/

namespace CodeConventions

/-- The kinds of literals that are known by their kind. -/
def literalKinds : List String := ["string", "number", "true", "false", "null"]

/-- A string, a template without substitutions, a number, a truth value, or null. -/
def Node.IsLiteral (n : Node) : Prop :=
  n.kind ∈ literalKinds ∨
    n.kind = "template_string" ∧ ∀ p ∈ n.parts, p.kind ≠ "template_substitution"

instance (n : Node) : Decidable n.IsLiteral :=
  inferInstanceAs (Decidable (n.kind ∈ literalKinds ∨
    n.kind = "template_string" ∧ ∀ p ∈ n.parts, p.kind ≠ "template_substitution"))

namespace Document

variable (d : Document) (n : Node)

/-- A minus sign before an operand. -/
def IsMinus : Prop := n.kind = "unary_expression" ∧ d.operator n = "-"

theorem valueWith_eq (name : Node → Option StaticValue) :
    d.valueWith name n =
      match d.stringValue? n.unwrap with
      | some s => some (.text s)
      | none =>
        if n.unwrap.kind = "number" then (LiteralNumber.read? (d.text n.unwrap)).map .number
        else if n.unwrap.kind = "true" then some (.truth true)
        else if n.unwrap.kind = "false" then some (.truth false)
        else if n.unwrap.kind = "null" then some .null
        else if n.unwrap.kind = "unary_expression" && d.operator n.unwrap == "-" then
          (n.unwrap.child? "argument").bind fun a =>
            ((d.valueWith name a).bind StaticValue.number?).map fun x => .number x.neg
        else if n.unwrap.kind = "identifier" then name n.unwrap
        else none := by
  rw [valueWith]
  cases d.stringValue? n.unwrap with
  | some s => rfl
  | none =>
    dsimp only
    congr 5
    cases n.unwrap.child? "argument" with
    | none => rfl
    | some a =>
      simp only [Option.bind_some]
      cases d.valueWith name a with
      | none => rfl
      | some v => cases v <;> rfl

variable {d n} {name : Node → Option StaticValue}

/-- Wrappers do not matter to the value. -/
theorem valueWith_unwrap : d.valueWith name n.unwrap = d.valueWith name n := by
  rw [valueWith_eq, valueWith_eq d n, n.unwrap_unwrap]

theorem valueWith_of_literal (h : n.unwrap.IsLiteral) :
    d.valueWith name n = d.literalValue? n.unwrap := by
  rw [literalValue?, valueWith_unwrap, valueWith_eq, valueWith_eq]
  rcases h with hkind | ⟨hkind, _⟩
  · simp only [literalKinds, List.mem_cons, List.not_mem_nil, or_false] at hkind
    rcases hkind with hkind | hkind | hkind | hkind | hkind <;>
      simp [stringValue?, n.unwrap_unwrap, hkind]
  · simp [stringValue?, n.unwrap_unwrap, hkind]

theorem valueWith_of_minus (h : d.IsMinus n.unwrap) :
    d.valueWith name n = (n.unwrap.child? "argument").bind fun a =>
      ((d.valueWith name a).bind StaticValue.number?).map fun x => .number x.neg := by
  rw [valueWith_eq]
  simp [stringValue?, n.unwrap_unwrap, h.1, h.2]

theorem valueWith_of_identifier (h : n.unwrap.kind = "identifier") :
    d.valueWith name n = name n.unwrap := by
  rw [valueWith_eq]
  simp [stringValue?, n.unwrap_unwrap, h]

theorem valueWith_of_other (hliteral : ¬n.unwrap.IsLiteral) (hminus : ¬d.IsMinus n.unwrap)
    (hname : n.unwrap.kind ≠ "identifier") : d.valueWith name n = none := by
  simp only [Node.IsLiteral, literalKinds, List.mem_cons, List.not_mem_nil, or_false, not_or]
    at hliteral
  obtain ⟨⟨hstring, hnumber, htrue, hfalse, hnull⟩, htemplate⟩ := hliteral
  have hsubstitution : n.unwrap.kind = "template_string" →
      n.unwrap.parts.any (fun p => p.kind == "template_substitution") = true := by
    intro hkind
    by_contra hnone
    exact htemplate ⟨hkind, by simpa using hnone⟩
  have htext : d.stringValue? n.unwrap = none := by
    simp only [stringValue?, n.unwrap_unwrap, if_neg hstring]
    split_ifs with hkind hany
    · rfl
    · exact absurd (hsubstitution hkind) hany
    · rfl
  rw [valueWith_eq, htext]
  have hsign : ¬(n.unwrap.kind = "unary_expression" && d.operator n.unwrap == "-") = true := by
    simpa [IsMinus] using hminus
  simp only [if_neg hnumber, if_neg htrue, if_neg hfalse, if_neg hnull, if_neg hsign, if_neg hname]

/-- Only a quoted text has a text for its value, and a name that stands for one. -/
theorem valueWith_eq_text_iff {s : String}
    (hname : n.unwrap.kind = "identifier" → name n.unwrap ≠ some (.text s)) :
    d.valueWith name n = some (.text s) ↔ d.stringValue? n.unwrap = some s := by
  rw [valueWith_eq]
  cases d.stringValue? n.unwrap with
  | some t => simp
  | none =>
    dsimp only
    refine iff_of_false (fun h => ?_) (Option.some_ne_none s).symm
    split_ifs at h with hnumber htrue hfalse hnull hminus hidentifier
    · obtain ⟨x, _, hx⟩ := Option.map_eq_some_iff.mp h
      cases hx
    · cases h
    · cases h
    · cases h
    · obtain ⟨a, _, h⟩ := Option.bind_eq_some_iff.mp h
      obtain ⟨x, _, hx⟩ := Option.map_eq_some_iff.mp h
      cases hx
    · exact hname hidentifier h

end Document

end CodeConventions
