import CodeConventions.Proofs.Rules.Binding
import CodeConventions.Proofs.Scope.Library

/-!
# Changes to members of constants

With its default options the rule against changes to constants remarks on every expression that
changes a member of a constant: an assignment, an increment or a deletion whose target is a chain of
accesses with a name at its base.  The name is resolved, and what introduces it decides.

A name is a constant if `const` introduces it.  Not every name that `const` introduces has a
declarator, though: the head of a loop over members has the keyword itself, and it is the loop that
the name is resolved to.  The rule asks for a declarator, so it passes over such names.

Main statement: `Document.changesToConstants_exact`.

## Strategy

What a name is resolved to is a declarator only if it stands in a statement that declares variables
(`Declares.exists_hasStatement`), and there the test of the rule is one on the keyword
(`isConstant_eq`).  Without patterns no remark fails, and the remarks are put together from those
on single expressions by `RemarksOn.filter`.
-/

namespace CodeConventions

namespace Document

variable {d : Document} {b c i n t : Node}

/-! ## Constants -/

/-- The name is introduced by `const` in a declarator. -/
def isDeclaredConstant (d : Document) (b : Node) : Bool :=
  d.bindingKeyword? b == some "const" && !b.isMemberLoop

/-- A declarator that a name is resolved to stands in a statement that declares variables. -/
theorem exists_statement_of_resolve? (h : d.resolve? i = some b)
    (hkind : b.kind = "variable_declarator") :
    ∃ s : Node, s.isOneOf variableStatementKinds = true ∧ b ∈ s.declarators := by
  obtain ⟨_, scope, _, _, hscope, hlookup, _⟩ := exists_scope_of_resolve? h
  obtain ⟨before, after, hsplit, _⟩ := List.lookup_eq_some_iff.mp hlookup
  have hmem : (d.text i, b) ∈ d.declarations scope := by
    rw [hsplit]
    exact List.mem_append_right _ List.mem_cons_self
  have hdeclares := (mem_declarations_iff hscope).mp hmem
  obtain ⟨s, _, hs, hb⟩ := hdeclares.exists_hasStatement hscope hkind
  exact ⟨s, Node.isOneOf_iff.mpr hs, hb⟩

/-- Of what names are resolved to, the constants of the rule are the declarators by `const`. -/
theorem isConstant_eq (h : d.resolve? i = some b) : d.isConstant b = d.isDeclaredConstant b := by
  by_cases hkind : b.kind = "variable_declarator"
  · obtain ⟨s, hs, hb⟩ := exists_statement_of_resolve? h hkind
    have hloop : b.isMemberLoop = false := by
      rw [Node.isMemberLoop, Node.isOneOf, hkind]
      rfl
    rw [isConstant, hkind, Node.parent?_of_mem_declarators hb, isDeclaredConstant,
      bindingKeyword?_of_mem_declarators hs hb, hloop, declaringKeyword]
    by_cases hlexical : s.kind = "lexical_declaration"
    · simp [hlexical]
    · simp [hlexical]
  · -- the head of a loop over members may have the keyword, but the rule does not look there
    have hdeclarator : b.isDeclarator = false := by
      simp [Node.isDeclarator, hkind]
    rw [isConstant, beq_false_of_ne hkind, Bool.false_and, isDeclaredConstant, bindingKeyword?,
      hdeclarator]
    cases b.isMemberLoop with
    | true => rw [Bool.not_true, Bool.and_false]
    | false => rfl

/-! ## Expressions that change a member -/

/-- The name at the base of the member that an expression changes. -/
def changedName? (d : Document) (n : Node) : Option Node :=
  ((d.changeTarget? n).filter fun t => t.isOneOf Node.accessKinds).bind Node.rootIdentifier?

/-- The expression changes a member of what a declarator introduces by `const`. -/
def changesConstant (d : Document) (n : Node) : Bool :=
  (d.changedName? n).any fun i => (d.resolve? i).any d.isDeclaredConstant

/-- The remark is the one about the expression, which changes an element of an array or another
member. -/
def RemarksOnChange (d : Document) (n : Node) (r : Remark) : Prop :=
  ∃ t i b, d.changeTarget? n = some t ∧ t.rootIdentifier? = some i ∧ d.resolve? i = some b ∧
    r = d.remark n (if t.kind == "subscript_expression" && d.isArray b then arrayChange
      else memberChange)

/-- Without patterns what is changed is the constant that the name at the base is resolved to. -/
theorem changedConstant?_eq (d : Document) (target : Option Node) :
    d.changedConstant? {} target =
      .ok ((target.bind Node.rootIdentifier?).bind fun i =>
        (d.resolve? i).filter d.isDeclaredConstant) := by
  rw [changedConstant?]
  cases target.bind Node.rootIdentifier? with
  | none => rfl
  | some i =>
      have hconstant : (d.resolve? i).filter d.isConstant =
          (d.resolve? i).filter d.isDeclaredConstant := by
        cases hb : d.resolve? i with
        | none => rfl
        | some b => rw [Option.filter_some, Option.filter_some, isConstant_eq hb]
      rw [Option.bind_some, ← hconstant]
      rfl

/-- An expression is remarked on if it changes a member of a constant, and else passed over. -/
theorem memberChanges_exact (d : Document) (n : Node) :
    RemarksIf d.RemarksOnChange n (d.changesConstant n) (d.memberChanges {} n) := by
  rw [memberChanges, changesConstant, changedName?]
  cases htarget : d.changeTarget? n with
  | none => exact .passed
  | some t =>
      dsimp only
      rw [Option.filter_some, Bool.false_and, Bool.or_false, changedConstant?_eq, Option.bind_some]
      cases haccess : t.isOneOf Node.accessKinds with
      | false => exact .passed
      | true =>
          rw [if_pos rfl, Option.bind_some, Bool.not_true, if_neg Bool.false_ne_true]
          cases hi : t.rootIdentifier? with
          | none => exact .passed
          | some i =>
              rw [Option.any_some, Option.bind_some]
              cases hb : d.resolve? i with
              | none => exact .passed
              | some b =>
                  rw [Option.any_some, Option.filter_some]
                  cases d.isDeclaredConstant b with
                  | false => exact .passed
                  | true => exact .made ⟨t, i, b, htarget, hi, hb, rfl⟩

/-! ## Calls -/

/-- A call gets one remark at most. -/
theorem callChanges_cases (d : Document) (c : Node) :
    d.callChanges {} c = .ok [] ∨ ∃ message, d.callChanges {} c = .ok [d.remark c message] := by
  unfold callChanges
  cases c.callee? with
  | none => exact .inl rfl
  | some callee =>
      dsimp only
      rw [Bool.false_and, if_neg Bool.false_ne_true]
      split_ifs with hassign hmember
      · unfold assignedInto
        cases c.arguments.head?.map Node.unwrap with
        | none => exact .inl rfl
        | some target =>
            dsimp only
            rw [changedConstant?_eq]
            split_ifs
            · simp only [Except.map]
              split_ifs
              · exact .inr ⟨_, rfl⟩
              · exact .inl rfl
            · exact .inl rfl
      · unfold methodChanges
        dsimp only
        rw [changedConstant?_eq]
        simp only [Except.map]
        split
        · exact .inl rfl
        · split_ifs
          · exact .inr ⟨_, rfl⟩
          · exact .inl rfl
          · exact .inr ⟨_, rfl⟩
          · exact .inl rfl
      · exact .inl rfl

/-- The call gets a remark. -/
def isRemarkedCall (d : Document) (c : Node) : Bool :=
  (d.callChanges {} c).toOption.any fun rs => !rs.isEmpty

theorem remarksOn_calls (d : Document) :
    RemarksOn (fun c r => r.span = d.spanOf c)
      ((d.find ["call_expression"]).filter d.isRemarkedCall)
      (remarksFor (d.find ["call_expression"]) (d.callChanges {})) := by
  refine .filter fun c _ => ?_
  rcases d.callChanges_cases c with hnone | ⟨message, hone⟩
  · rw [isRemarkedCall, hnone]
    exact .passed
  · rw [isRemarkedCall, hone]
    exact .made rfl

/-- The rule makes one remark on each expression that changes a member of what a declarator
introduces by `const`, at the whole expression and in document order, and none on other such
expressions: not where the name at the base is introduced in the head of a loop over members, or by
another keyword, or by a parameter or an import, or where nothing declares it.  The other remarks of
the rule are on calls, one for each at most. -/
theorem changesToConstants_exact (d : Document) :
    ∃ members calls,
      (Check.changesToConstants {}).findings d =
        .ok ((members ++ calls).map (Remark.toFinding "functional/immutable-data")) ∧
      List.Forall₂ d.RemarksOnChange ((d.find changingKinds).filter d.changesConstant) members ∧
      List.Forall₂ (fun c r => r.span = d.spanOf c)
        ((d.find ["call_expression"]).filter d.isRemarkedCall) calls := by
  obtain ⟨members, hmembers, hchanges⟩ : RemarksOn d.RemarksOnChange _
      (remarksFor (d.find changingKinds) (d.memberChanges {})) :=
    .filter fun n _ => d.memberChanges_exact n
  obtain ⟨calls, hcalls, hspans⟩ := d.remarksOn_calls
  refine ⟨members, calls, ?_, hchanges, hspans⟩
  rw [Check.findings, Check.remarks, changesToConstants, hmembers, hcalls]
  rfl

/-- The file `for (const x of xs) { x.a = 1; }`. -/
def changingItems : Document :=
  ⟨"a.ts", .ofString "for (const x of xs) \x7b x.a = 1; \x7d",
    .node ⟨"program", true, false, none, 0, 32⟩ [
      .node ⟨"for_in_statement", true, false, none, 0, 32⟩ [
        .node ⟨"for", false, false, none, 0, 3⟩ [],
        .node ⟨"(", false, false, none, 4, 5⟩ [],
        .node ⟨"const", false, false, some "kind", 5, 10⟩ [],
        .node ⟨"identifier", true, false, some "left", 11, 12⟩ [],
        .node ⟨"of", false, false, some "operator", 13, 15⟩ [],
        .node ⟨"identifier", true, false, some "right", 16, 18⟩ [],
        .node ⟨")", false, false, none, 18, 19⟩ [],
        .node ⟨"statement_block", true, false, some "body", 20, 32⟩ [
          .node ⟨"\x7b", false, false, none, 20, 21⟩ [],
          .node ⟨"expression_statement", true, false, none, 22, 30⟩ [
            .node ⟨"assignment_expression", true, false, none, 22, 29⟩ [
              .node ⟨"member_expression", true, false, some "left", 22, 25⟩ [
                .node ⟨"identifier", true, false, some "object", 22, 23⟩ [],
                .node ⟨".", false, false, none, 23, 24⟩ [],
                .node ⟨"property_identifier", true, false, some "property", 24, 25⟩ []],
              .node ⟨"=", false, false, none, 26, 27⟩ [],
              .node ⟨"number", true, false, some "right", 28, 29⟩ []],
            .node ⟨";", false, false, none, 29, 30⟩ []],
          .node ⟨"\x7d", false, false, none, 31, 32⟩ []]]]⟩

/-- The name in the head of the loop is introduced by `const`, and what it stands for is changed
without a remark. -/
theorem changed_item_passed :
    changingItems.hasErrors = false ∧
      (∃ n ∈ changingItems.find changingKinds, ∃ i ∈ changingItems.changedName? n,
        ∃ b ∈ changingItems.resolve? i, changingItems.bindingKeyword? b = some "const") ∧
      (Check.changesToConstants {}).findings changingItems = .ok [] :=
  ⟨by decide, by decide +kernel, Except.toOption_eq_some_iff.mp (by decide +kernel)⟩

end Document

end CodeConventions
