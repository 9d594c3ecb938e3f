import CodeConventions.Proofs.Expression.Literal
import CodeConventions.Scope.Constant

/-!
# Chains of constants

A name that a constant is declared by stands for the expression that the constant is declared with.
To follow constants from an expression is to go from name to name, at most `traceLimit` times:
`Chain` is such a way of a given length.  `trace` gives where the way ends, and `staticValue?` follows
the same way, so it gives the value of the expression at the end.

Declarations may lead anywhere, also back to where one came from: a constant may be declared with its
own name.  `Evaluates` and `Traces` say how the two are computed, with a counter for the constants
followed so far, and each expression has exactly one value and one trace.

## Strategy

A computation goes on with a smaller expression, or with the same number of steps and one more
constant.  So it ends, by induction on the number of constants that may still be followed and, for
each number, on the expression (`evaluates_staticValueWithin`).

Going along a chain changes neither what the trace nor what the value is, apart from the constants
that may still be followed (`Chain.traceWithin_eq`, `Chain.staticValueWithin_eq`).  At the end of the
chain of a trace no constant is followed, and only literals and minus signs have a value there.
-/

namespace CodeConventions.Document

variable {d : Document} {j k : Nat} {m n value : Node} {v : Option StaticValue}

/-- The expression is the name of a constant that is declared with the value. -/
def StandsFor (d : Document) (n value : Node) : Prop :=
  n.unwrap.kind = "identifier" ∧ d.constantValue? n.unwrap = some value

/-- From the first expression a number of constants lead to the second one. -/
inductive Chain (d : Document) : Nat → Node → Node → Prop
  | here (n : Node) : d.Chain 0 n n.unwrap
  | follow {j : Nat} {n value m : Node} (h : d.StandsFor n value) (hchain : d.Chain j value m) :
      d.Chain (j + 1) n m

/-- A run that follows constants until there is none, or until it has followed enough of them, ends
at the second expression. -/
def Traces (d : Document) (n m : Node) : Prop :=
  ∃ j ≤ traceLimit, d.Chain j n m ∧ (j < traceLimit → ∀ value, ¬d.StandsFor m value)

/-- A run that has followed some constants so far and looks at an expression ends with the value. -/
inductive Evaluates (d : Document) : Nat → Node → Option StaticValue → Prop
  | literal {k : Nat} {n : Node} (h : n.unwrap.IsLiteral) :
      d.Evaluates k n (d.literalValue? n.unwrap)
  | minus {k : Nat} {n a : Node} {v : Option StaticValue} (h : d.IsMinus n.unwrap)
      (ha : n.unwrap.child? "argument" = some a) (hv : d.Evaluates k a v) :
      d.Evaluates k n ((v.bind StaticValue.number?).map fun x => .number x.neg)
  | constant {k : Nat} {n value : Node} {v : Option StaticValue} (hk : k < traceLimit)
      (h : d.StandsFor n value) (hv : d.Evaluates (k + 1) value v) : d.Evaluates k n v
  | unknown {k : Nat} {n : Node} (hliteral : ¬n.unwrap.IsLiteral)
      (hminus : d.IsMinus n.unwrap → n.unwrap.child? "argument" = none)
      (hname : k < traceLimit → ∀ value, ¬d.StandsFor n value) : d.Evaluates k n none

/-! ## Going on and stopping -/

/-- A node without its wrappers stands for what the node stands for. -/
theorem standsFor_unwrap : d.StandsFor n.unwrap value ↔ d.StandsFor n value := by
  rw [StandsFor, StandsFor, n.unwrap_unwrap]

theorem traceWithin_of_standsFor (h : d.StandsFor n value) :
    d.traceWithin (k + 1) n = d.traceWithin k value := by
  simp [traceWithin, h.1, h.2]

theorem traceWithin_of_stop (h : 0 < k → ∀ value, ¬d.StandsFor n value) :
    d.traceWithin k n = n.unwrap := by
  cases k with
  | zero => rfl
  | succ k =>
    simp only [traceWithin]
    split_ifs with hkind
    · cases hvalue : d.constantValue? n.unwrap with
      | none => rfl
      | some value => exact absurd ⟨hkind, hvalue⟩ (h k.succ_pos value)
    · rfl

theorem staticValueWithin_of_literal (h : n.unwrap.IsLiteral) :
    d.staticValueWithin k n = d.literalValue? n.unwrap := by
  cases k <;> exact valueWith_of_literal h

theorem staticValueWithin_of_minus (h : d.IsMinus n.unwrap) :
    d.staticValueWithin k n = (n.unwrap.child? "argument").bind fun a =>
      ((d.staticValueWithin k a).bind StaticValue.number?).map fun x => .number x.neg := by
  cases k <;> exact valueWith_of_minus h

theorem staticValueWithin_of_standsFor (h : d.StandsFor n value) :
    d.staticValueWithin (k + 1) n = d.staticValueWithin k value := by
  rw [staticValueWithin, valueWith_of_identifier h.1, h.2, Option.bind_some]

/-- Nothing is known of an expression that is neither a literal nor a minus sign and is not
followed. -/
theorem staticValueWithin_of_stop (hliteral : ¬n.unwrap.IsLiteral) (hminus : ¬d.IsMinus n.unwrap)
    (h : 0 < k → ∀ value, ¬d.StandsFor n value) : d.staticValueWithin k n = none := by
  by_cases hkind : n.unwrap.kind = "identifier"
  · cases k with
    | zero => exact valueWith_of_identifier hkind
    | succ k =>
      rw [staticValueWithin, valueWith_of_identifier hkind]
      cases hvalue : d.constantValue? n.unwrap with
      | none => rfl
      | some value => exact absurd ⟨hkind, hvalue⟩ (h k.succ_pos value)
  · cases k <;> exact valueWith_of_other hliteral hminus hkind

/-! ## One way for both -/

namespace Chain

/-- A chain ends at an expression without wrappers. -/
theorem unwrap_eq (h : d.Chain j n m) : m.unwrap = m := by
  induction h with
  | here n => exact n.unwrap_unwrap
  | follow _ _ ih => exact ih

theorem traceWithin_eq (h : d.Chain j n m) :
    d.traceWithin (j + k) n = d.traceWithin k m := by
  induction h with
  | here n =>
    rw [Nat.zero_add]
    cases k <;> simp [traceWithin, n.unwrap_unwrap]
  | @follow j n value m h _ ih =>
    rw [Nat.add_right_comm, traceWithin_of_standsFor h, ih]

theorem staticValueWithin_eq (h : d.Chain j n m) :
    d.staticValueWithin (j + k) n = d.staticValueWithin k m := by
  induction h with
  | here n =>
    rw [Nat.zero_add]
    cases k <;> exact valueWith_unwrap.symm
  | @follow j n value m h _ ih =>
    rw [Nat.add_right_comm, staticValueWithin_of_standsFor h, ih]

end Chain

/-- A trace is the end of a chain that goes as far as it may. -/
theorem exists_chain_traceWithin (k : Nat) (n : Node) :
    ∃ j ≤ k, d.Chain j n (d.traceWithin k n) ∧
      (j < k → ∀ value, ¬d.StandsFor (d.traceWithin k n) value) := by
  induction k generalizing n with
  | zero => exact ⟨0, le_rfl, .here n, fun h => absurd h (Nat.lt_irrefl 0)⟩
  | succ k ih =>
    by_cases hstands : ∃ value, d.StandsFor n value
    · obtain ⟨value, h⟩ := hstands
      obtain ⟨j, hj, hchain, hstop⟩ := ih value
      rw [traceWithin_of_standsFor h]
      exact ⟨j + 1, Nat.succ_le_succ hj, .follow h hchain, fun hlt =>
        hstop (Nat.lt_of_succ_lt_succ hlt)⟩
    · have hnone : ∀ value, ¬d.StandsFor n value := not_exists.mp hstands
      rw [traceWithin_of_stop fun _ => hnone]
      exact ⟨0, Nat.zero_le _, .here n, fun _ value hvalue =>
        hnone value (standsFor_unwrap.mp hvalue)⟩

/-- The run that follows constants from an expression ends, and it ends at the trace. -/
theorem traces_iff : d.Traces n m ↔ m = d.trace n := by
  constructor
  · rintro ⟨j, hj, hchain, hstop⟩
    obtain ⟨rest, hrest⟩ := Nat.exists_eq_add_of_le hj
    have hend : 0 < rest → ∀ value, ¬d.StandsFor m value := fun hpos => hstop (by omega)
    rw [trace, hrest, hchain.traceWithin_eq, traceWithin_of_stop hend, hchain.unwrap_eq]
  · rintro rfl
    exact exists_chain_traceWithin traceLimit n

theorem unwrap_trace (n : Node) : (d.trace n).unwrap = d.trace n := by
  obtain ⟨_, _, hchain, _⟩ := exists_chain_traceWithin (d := d) traceLimit n
  exact hchain.unwrap_eq

/-- The value is known to be a text exactly if the trace is a quoted text. -/
theorem staticValue?_eq_text_iff {s : String} :
    d.staticValue? n = some (.text s) ↔ d.stringValue? (d.trace n) = some s := by
  obtain ⟨j, hj, hchain, hstop⟩ := exists_chain_traceWithin (d := d) traceLimit n
  obtain ⟨rest, hrest⟩ := Nat.exists_eq_add_of_le hj
  rw [staticValue?, hrest, hchain.staticValueWithin_eq]
  change d.staticValueWithin rest (d.trace n) = _ ↔ _
  conv_rhs => rw [← unwrap_trace n]
  cases rest with
  | zero => exact valueWith_eq_text_iff fun _ => (Option.some_ne_none _).symm
  | succ rest =>
    refine valueWith_eq_text_iff fun hkind h => ?_
    obtain ⟨value, hvalue, _⟩ := Option.bind_eq_some_iff.mp h
    exact hstop (by omega) value ⟨hkind, hvalue⟩

/-! ## Runs that give a value -/

/-- What a run gives is the value within the constants that it may still follow. -/
theorem Evaluates.eq_staticValueWithin (h : d.Evaluates k n v) :
    v = d.staticValueWithin (traceLimit - k) n := by
  induction h with
  | literal h => exact (staticValueWithin_of_literal h).symm
  | minus h ha _ ih => rw [staticValueWithin_of_minus h, ha, Option.bind_some, ← ih]
  | @constant k n value v hk h _ ih =>
    have hleft : traceLimit - k = traceLimit - (k + 1) + 1 := by omega
    rw [hleft, staticValueWithin_of_standsFor h, ih]
  | @unknown k n hliteral hminus hname =>
    by_cases hsign : d.IsMinus n.unwrap
    · rw [staticValueWithin_of_minus hsign, hminus hsign, Option.bind_none]
    · exact (staticValueWithin_of_stop hliteral hsign fun hpos => hname (by omega)).symm

/-- Every run ends: it goes on with fewer constants to follow, or with as many and a smaller
expression. -/
theorem evaluates_staticValueWithin (d : Document) (k : Nat) (n : Node) :
    d.Evaluates k n (d.staticValueWithin (traceLimit - k) n) := by
  induction hleft : traceLimit - k using Nat.strong_induction_on generalizing k n with
  | _ left ih =>
    subst hleft
    induction n using Node.unwrapInduction with
    | step n ihbelow =>
      by_cases hliteral : n.unwrap.IsLiteral
      · rw [staticValueWithin_of_literal hliteral]
        exact .literal hliteral
      · by_cases hminus : d.IsMinus n.unwrap
        · rw [staticValueWithin_of_minus hminus]
          cases ha : n.unwrap.child? "argument" with
          | none => exact .unknown hliteral (fun _ => ha) fun _ value hvalue =>
              absurd (hminus.1.symm.trans hvalue.1) (by decide)
          | some a => exact .minus hminus ha (ihbelow a (Node.mem_children_of_child? ha))
        · by_cases hstands : k < traceLimit ∧ ∃ value, d.StandsFor n value
          · obtain ⟨hk, value, hvalue⟩ := hstands
            have hleft : traceLimit - k = traceLimit - (k + 1) + 1 := by omega
            rw [hleft, staticValueWithin_of_standsFor hvalue]
            exact .constant hk hvalue (ih _ (by omega) _ _ rfl)
          · have hstop : k < traceLimit → ∀ value, ¬d.StandsFor n value :=
              fun hk value hvalue => hstands ⟨hk, value, hvalue⟩
            rw [staticValueWithin_of_stop hliteral hminus fun hpos => hstop (by omega)]
            exact .unknown hliteral (fun h => absurd h hminus) hstop

/-- An expression has one trace and one value, and finding them ends, however its constants are
declared.  The value is the one that the trace has by itself if the trace is a literal, and if there
is a value the trace is a literal or a minus sign. -/
theorem staticValue?_follows_trace (d : Document) (n : Node) :
    (∀ m, d.Traces n m ↔ m = d.trace n) ∧
      (∀ v, d.Evaluates 0 n v ↔ v = d.staticValue? n) ∧
      ((d.trace n).IsLiteral → d.staticValue? n = d.literalValue? (d.trace n)) ∧
      ∀ v, d.staticValue? n = some v → (d.trace n).IsLiteral ∨ d.IsMinus (d.trace n) := by
  obtain ⟨j, hj, hchain, hstop⟩ := exists_chain_traceWithin (d := d) traceLimit n
  obtain ⟨rest, hrest⟩ := Nat.exists_eq_add_of_le hj
  have hunwrap : (d.trace n).unwrap = d.trace n := hchain.unwrap_eq
  have hvalue : d.staticValue? n = d.staticValueWithin rest (d.trace n) := by
    rw [staticValue?, hrest]
    exact hchain.staticValueWithin_eq
  refine ⟨fun m => traces_iff, fun v => ⟨fun h => h.eq_staticValueWithin, ?runs⟩, ?literal, ?known⟩
  case runs =>
    rintro rfl
    exact evaluates_staticValueWithin d 0 n
  case literal =>
    intro hliteral
    rw [hvalue, staticValueWithin_of_literal (by rwa [hunwrap]), hunwrap]
  case known =>
    intro v hv
    rw [hvalue] at hv
    by_contra hneither
    rw [not_or, ← hunwrap] at hneither
    have hend : 0 < rest → ∀ value, ¬d.StandsFor (d.trace n) value :=
      fun hpos => hstop (by omega)
    rw [staticValueWithin_of_stop hneither.1 hneither.2 hend] at hv
    cases hv

/-- Two constants that are declared with each other, and one that is declared with a text by way of
another one. -/
def circularConstants : Document :=
  ⟨"a.ts", .ofString "const a = b, b = a, c = 'x', e = c; a; e;",
    .node ⟨"program", true, false, none, 0, 41⟩ [
      .node ⟨"lexical_declaration", true, false, none, 0, 35⟩ [
        .node ⟨"const", false, false, some "kind", 0, 5⟩ [],
        .node ⟨"variable_declarator", true, false, none, 6, 11⟩ [
          .node ⟨"identifier", true, false, some "name", 6, 7⟩ [],
          .node ⟨"=", false, false, none, 8, 9⟩ [],
          .node ⟨"identifier", true, false, some "value", 10, 11⟩ []],
        .node ⟨",", false, false, none, 11, 12⟩ [],
        .node ⟨"variable_declarator", true, false, none, 13, 18⟩ [
          .node ⟨"identifier", true, false, some "name", 13, 14⟩ [],
          .node ⟨"=", false, false, none, 15, 16⟩ [],
          .node ⟨"identifier", true, false, some "value", 17, 18⟩ []],
        .node ⟨",", false, false, none, 18, 19⟩ [],
        .node ⟨"variable_declarator", true, false, none, 20, 27⟩ [
          .node ⟨"identifier", true, false, some "name", 20, 21⟩ [],
          .node ⟨"=", false, false, none, 22, 23⟩ [],
          .node ⟨"string", true, false, some "value", 24, 27⟩ [
            .node ⟨"'", false, false, none, 24, 25⟩ [],
            .node ⟨"string_fragment", true, false, none, 25, 26⟩ [],
            .node ⟨"'", false, false, none, 26, 27⟩ []]],
        .node ⟨",", false, false, none, 27, 28⟩ [],
        .node ⟨"variable_declarator", true, false, none, 29, 34⟩ [
          .node ⟨"identifier", true, false, some "name", 29, 30⟩ [],
          .node ⟨"=", false, false, none, 31, 32⟩ [],
          .node ⟨"identifier", true, false, some "value", 33, 34⟩ []],
        .node ⟨";", false, false, none, 34, 35⟩ []],
      .node ⟨"expression_statement", true, false, none, 36, 38⟩ [
        .node ⟨"identifier", true, false, none, 36, 37⟩ [],
        .node ⟨";", false, false, none, 37, 38⟩ []],
      .node ⟨"expression_statement", true, false, none, 39, 41⟩ [
        .node ⟨"identifier", true, false, none, 39, 40⟩ [],
        .node ⟨";", false, false, none, 40, 41⟩ []]]⟩

/-- The run from the circular name ends without a value, at a name; the other name has the text. -/
theorem staticValue?_follows_trace_circular :
    circularConstants.hasErrors = false ∧
      (∃ n ∈ circularConstants.root.nodes, n.kind = "identifier" ∧ n.start = 36 ∧
        circularConstants.Evaluates 0 n none ∧
        ∃ m, circularConstants.Traces n m ∧ m.kind = "identifier") ∧
      ∃ n ∈ circularConstants.root.nodes, n.kind = "identifier" ∧ n.start = 39 ∧
        (circularConstants.trace n).IsLiteral ∧
        circularConstants.staticValue? n = some (.text "x") := by
  refine ⟨by decide +kernel, ?circular, ?other⟩
  case circular =>
    obtain ⟨n, hn, hkind, hstart, hvalue, htrace⟩ :
        ∃ n ∈ circularConstants.root.nodes, n.kind = "identifier" ∧ n.start = 36 ∧
          circularConstants.staticValue? n = none ∧
          (circularConstants.trace n).kind = "identifier" := by
      decide +kernel
    obtain ⟨htraces, hevaluates, _⟩ := staticValue?_follows_trace circularConstants n
    exact ⟨n, hn, hkind, hstart, (hevaluates none).mpr hvalue.symm, _, (htraces _).mpr rfl, htrace⟩
  case other =>
    obtain ⟨n, hn, hkind, hstart, hliteral, hvalue⟩ :
        ∃ n ∈ circularConstants.root.nodes, n.kind = "identifier" ∧ n.start = 39 ∧
          (circularConstants.trace n).IsLiteral ∧
          circularConstants.literalValue? (circularConstants.trace n) = some (.text "x") := by
      decide +kernel
    obtain ⟨_, _, hvalues, _⟩ := staticValue?_follows_trace circularConstants n
    exact ⟨n, hn, hkind, hstart, hliteral, (hvalues hliteral).trans hvalue⟩

end CodeConventions.Document
