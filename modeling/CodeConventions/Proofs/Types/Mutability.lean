import CodeConventions.Proofs.Tree.Climb
import CodeConventions.Types.Mutability

/-!
# Types put together from others

Unions, intersections and parentheses put types together; any other type is a leaf.  Whether the
values of a type may be changed is decided by what is known of its leaves alone: yes as soon as it
is yes for one, no if it is no for all, and unknown otherwise.  So neither the order of the leaves
nor the way in which they are put together matters, and to learn more of a leaf never revokes an
answer.

Main statement: `Document.permitsChange?_of_leaves`.

## Strategy

The answer for something with several members is the disjunction of three-valued logic, so answers
that are put together in stages are put together at once (`anyOf_flatMap`).  A type is judged by one
such stage for each union and intersection, and by none for parentheses; an induction over the tree
puts them all into one (`typePermitsChange?_eq_anyOf`).
-/

namespace CodeConventions

/-! ## Answers put together -/

variable {answers others : List (Option Bool)}

theorem anyOf_eq_some_false : anyOf answers = some false ↔ ∀ a ∈ answers, a = some false := by
  unfold anyOf
  constructor
  · intro h
    split_ifs at h with htrue hfalse
    · cases h
    · simpa using hfalse
  · intro h
    have htrue : some true ∉ answers := fun hmem => nomatch h _ hmem
    rw [if_neg (by simpa using htrue), if_pos (by simpa using h)]

/-- An answer is known by when it is yes and when it is no. -/
theorem answer_ext {a b : Option Bool} (htrue : a = some true ↔ b = some true)
    (hfalse : a = some false ↔ b = some false) : a = b := by
  refine Option.ext fun c => ?_
  cases c with
  | true => exact htrue
  | false => exact hfalse

theorem anyOf_eq_none : anyOf answers = none ↔ some true ∉ answers ∧ none ∈ answers := by
  rw [← anyOf_eq_some_true answers, Option.eq_none_iff_forall_not_mem, Bool.forall_bool]
  simp only [Option.mem_def]
  rw [anyOf_eq_some_false, and_comm]
  refine and_congr_right fun htrue => ?_
  rw [anyOf_eq_some_true] at htrue
  constructor
  · intro h
    by_contra hnone
    refine h fun a ha => ?_
    match a, ha with
    | some true, ha => exact absurd ha htrue
    | some false, _ => rfl
    | none, ha => exact absurd ha hnone
  · intro hnone h
    cases h none hnone

/-- Neither the order of the answers matters nor how often each is given. -/
theorem anyOf_congr (h : ∀ a, a ∈ answers ↔ a ∈ others) : anyOf answers = anyOf others := by
  refine answer_ext ?_ ?_
  · rw [anyOf_eq_some_true, anyOf_eq_some_true, h]
  · simp only [anyOf_eq_some_false, h]

@[simp] theorem anyOf_singleton (a : Option Bool) : anyOf [a] = a := by
  revert a
  decide

/-- Answers can be put together in stages. -/
theorem anyOf_flatMap {α : Type} (xs : List α) (f : α → List (Option Bool)) :
    anyOf (xs.flatMap f) = anyOf (xs.map fun x => anyOf (f x)) := by
  refine answer_ext ?_ ?_
  · simp [anyOf_eq_some_true, List.mem_flatMap]
  · simp only [anyOf_eq_some_false, List.mem_flatMap, List.mem_map, forall_exists_index, and_imp,
      forall_apply_eq_imp_iff₂]
    exact ⟨fun h x hx a ha => h a x hx ha, fun h a x hx ha => h x hx a ha⟩

/-- The second answer is the first one, or the first one is unknown. -/
def Refines (a b : Option Bool) : Prop := a = b ∨ a = none

theorem Refines.eq_some {a b : Option Bool} {c : Bool} (h : Refines a b) (ha : a = some c) :
    b = some c := by
  rcases h with rfl | rfl
  · exact ha
  · cases ha

/-- What is known stays so when more is known of the parts. -/
theorem anyOf_eq_some_of_refines (h : List.Forall₂ Refines answers others) {b : Bool}
    (hb : anyOf answers = some b) : anyOf others = some b := by
  cases b with
  | true =>
      rw [anyOf_eq_some_true] at hb ⊢
      induction h with
      | nil => exact hb
      | cons hrefines _ ih =>
          rcases List.mem_cons.mp hb with hb | hb
          · exact List.mem_cons.mpr (.inl (hrefines.eq_some hb.symm).symm)
          · exact List.mem_cons_of_mem _ (ih hb)
  | false =>
      rw [anyOf_eq_some_false] at hb ⊢
      induction h with
      | nil => exact hb
      | cons hrefines _ ih =>
          rw [List.forall_mem_cons] at hb ⊢
          exact ⟨hrefines.eq_some hb.1, ih hb.2⟩

/-! ## The leaves of a type -/

/-- The kinds of nodes that put types together. -/
def compositeTypeKinds : List String := combinedTypeKinds ++ ["parenthesized_type"]

namespace ParseTree

/-- The named subtrees just below the root that are no comments. -/
def parts (t : ParseTree) : List ParseTree := t.children.filter isSignificant

mutual

/-- The types that a type is put together from, from left to right. -/
def leafTypes : ParseTree → List ParseTree
  | .node l cs =>
    if compositeTypeKinds.contains l.kind then leafTypesOfAll cs else [.node l cs]

/-- The types that several types are put together from. -/
def leafTypesOfAll : List ParseTree → List ParseTree
  | [] => []
  | c :: cs => (if c.isSignificant then leafTypes c else []) ++ leafTypesOfAll cs

end

mutual

/-- The parentheses in a type hold one type each.  Nothing is asked of what lies below a leaf. -/
def isComposite : ParseTree → Bool
  | .node l cs =>
    !compositeTypeKinds.contains l.kind ||
      (l.kind != "parenthesized_type" || (cs.filter isSignificant).length == 1) && areComposite cs

/-- The parentheses in several types hold one type each. -/
def areComposite : List ParseTree → Bool
  | [] => true
  | c :: cs => (!c.isSignificant || isComposite c) && areComposite cs

end

variable {t : ParseTree}

theorem leafTypesOfAll_eq (cs : List ParseTree) :
    leafTypesOfAll cs = (cs.filter isSignificant).flatMap leafTypes := by
  induction cs with
  | nil => rfl
  | cons c cs ih =>
      rw [leafTypesOfAll, ih, List.filter_cons]
      cases c.isSignificant <;> rfl

theorem leafTypes_eq (t : ParseTree) :
    t.leafTypes =
      if t.label.kind ∈ compositeTypeKinds then t.parts.flatMap leafTypes else [t] := by
  obtain ⟨l, cs⟩ := t
  rw [leafTypes, leafTypesOfAll_eq]
  simp only [List.contains_iff_mem]
  rfl

theorem areComposite_iff (cs : List ParseTree) :
    areComposite cs = true ↔ ∀ c ∈ cs.filter isSignificant, c.isComposite = true := by
  induction cs with
  | nil => simp [areComposite]
  | cons c cs ih =>
      rw [areComposite, Bool.and_eq_true, ih, List.filter_cons]
      cases c.isSignificant <;> simp

theorem isComposite_iff : t.isComposite = true ↔ (t.label.kind ∈ compositeTypeKinds →
    (t.label.kind = "parenthesized_type" → t.parts.length = 1) ∧
      ∀ c ∈ t.parts, c.isComposite = true) := by
  obtain ⟨l, cs⟩ := t
  rw [isComposite]
  simp only [Bool.or_eq_true, Bool.and_eq_true, areComposite_iff, Bool.not_eq_true',
    ← Bool.not_eq_true, List.contains_iff_mem, bne_iff_ne, ne_eq, beq_iff_eq, ← imp_iff_not_or]
  rfl

/-- What holds of a type as soon as it holds of its parts holds of every type. -/
theorem partsInduction {motive : ParseTree → Prop}
    (step : ∀ t : ParseTree, (∀ c ∈ t.parts, motive c) → motive t) (t : ParseTree) : motive t := by
  induction hsize : t.size using Nat.strong_induction_on generalizing t with
  | _ size ih =>
      refine step t fun c hc => ih c.size ?_ c rfl
      rw [← hsize]
      exact size_lt_of_mem_children (List.mem_filter.mp hc).1

end ParseTree

/-! ## The answer from the leaves -/

namespace Document

open ParseTree

variable {d : Document} {t : ParseTree}

theorem membersPermitChange_eq (cs : List ParseTree) :
    d.membersPermitChange cs = (cs.filter isSignificant).map d.typePermitsChange? := by
  induction cs with
  | nil => rfl
  | cons c cs ih =>
      rw [membersPermitChange, ih, List.filter_cons]
      cases c.isSignificant <;> rfl

theorem firstPermitsChange?_eq (cs : List ParseTree) :
    d.firstPermitsChange? cs = (cs.filter isSignificant).head?.bind d.typePermitsChange? := by
  induction cs with
  | nil => rfl
  | cons c cs ih =>
      rw [firstPermitsChange?, List.filter_cons]
      cases c.isSignificant with
      | true => rfl
      | false => exact ih

theorem typePermitsChange?_of_combined (hkind : t.label.kind ∈ combinedTypeKinds) :
    d.typePermitsChange? t = anyOf (t.parts.map d.typePermitsChange?) := by
  obtain ⟨l, cs⟩ := t
  replace hkind : l.kind ∈ ["union_type", "intersection_type"] := hkind
  simp only [List.mem_cons, List.not_mem_nil, or_false] at hkind
  rw [typePermitsChange?, membersPermitChange_eq]
  rcases hkind with hkind | hkind <;> simp only [hkind] <;> rfl

theorem typePermitsChange?_of_parenthesized (hkind : t.label.kind = "parenthesized_type") :
    d.typePermitsChange? t = t.parts.head?.bind d.typePermitsChange? := by
  obtain ⟨l, cs⟩ := t
  replace hkind : l.kind = "parenthesized_type" := hkind
  rw [typePermitsChange?, firstPermitsChange?_eq]
  simp only [hkind]
  rfl

/-- What is known of the leaves of a type, from left to right. -/
def leafAnswers (d : Document) (t : ParseTree) : List (Option Bool) :=
  t.leafTypes.map d.typePermitsChange?

/-- The answer for a type is put together from those for its leaves. -/
theorem typePermitsChange?_eq_anyOf (ht : t.isComposite = true) :
    d.typePermitsChange? t = anyOf (d.leafAnswers t) := by
  induction t using partsInduction with
  | step t ih =>
      rw [leafAnswers, leafTypes_eq]
      by_cases hkind : t.label.kind ∈ compositeTypeKinds
      · obtain ⟨hone, hparts⟩ := isComposite_iff.mp ht hkind
        -- parentheses are a stage with one answer, so they are no case of their own here
        have hstage : anyOf (t.parts.map d.typePermitsChange?) =
            anyOf ((t.parts.flatMap leafTypes).map d.typePermitsChange?) := by
          rw [List.map_flatMap, anyOf_flatMap]
          exact congrArg anyOf (List.map_congr_left fun c hc => ih c hc (hparts c hc))
        rw [if_pos hkind, ← hstage]
        rcases List.mem_append.mp hkind with hcombined | hparenthesized
        · exact typePermitsChange?_of_combined hcombined
        · have hparenthesized := List.mem_singleton.mp hparenthesized
          obtain ⟨c, hc⟩ := List.length_eq_one_iff.mp (hone hparenthesized)
          rw [typePermitsChange?_of_parenthesized hparenthesized, hc, List.map_singleton,
            anyOf_singleton]
          rfl
      · rw [if_neg hkind, List.map_singleton, anyOf_singleton]

/-- A type permits change as soon as one of its leaves does, forbids it if all of them do, and is
unknown otherwise.  So a type has the same answer as any other one with leaves of the same answers,
in whatever order and however they are put together; and an answer that is known stays so when a
leaf that was unknown becomes known. -/
theorem permitsChange?_of_leaves (d : Document) {type : Node}
    (htype : type.tree.isComposite = true) :
    (d.permitsChange? type = some true ↔
        ∃ leaf ∈ type.tree.leafTypes, d.typePermitsChange? leaf = some true) ∧
      (d.permitsChange? type = some false ↔
        ∀ leaf ∈ type.tree.leafTypes, d.typePermitsChange? leaf = some false) ∧
      (d.permitsChange? type = none ↔
        (∀ leaf ∈ type.tree.leafTypes, d.typePermitsChange? leaf ≠ some true) ∧
          ∃ leaf ∈ type.tree.leafTypes, d.typePermitsChange? leaf = none) ∧
      ∀ (e : Document) (other : Node), other.tree.isComposite = true →
        ((∀ a, a ∈ d.leafAnswers type.tree ↔ a ∈ e.leafAnswers other.tree) →
          d.permitsChange? type = e.permitsChange? other) ∧
        (List.Forall₂ Refines (d.leafAnswers type.tree) (e.leafAnswers other.tree) →
          ∀ b, d.permitsChange? type = some b → e.permitsChange? other = some b) := by
  have hanswer : d.permitsChange? type = anyOf (d.leafAnswers type.tree) :=
    typePermitsChange?_eq_anyOf htype
  refine ⟨?_, ?_, ?_, fun e other hother => ?_⟩
  · rw [hanswer, anyOf_eq_some_true, leafAnswers, List.mem_map]
  · rw [hanswer, anyOf_eq_some_false, leafAnswers, List.forall_mem_map]
  · rw [hanswer, anyOf_eq_none, leafAnswers, List.mem_map, List.mem_map]
    simp only [not_exists, not_and, ne_eq]
  · have hother : e.permitsChange? other = anyOf (e.leafAnswers other.tree) :=
      typePermitsChange?_eq_anyOf hother
    rw [hanswer, hother]
    exact ⟨anyOf_congr, fun hrefines _ hb => anyOf_eq_some_of_refines hrefines hb⟩

/-- The second type is the first one put together in another way and order.  The third one has a
leaf that is known where the first one has one that is not. -/
def threeTypes : Document :=
  ⟨"a.ts",
    .ofString ("type A = T | (U[] & string); type B = (string | T) & U[]; " ++
      "type C = number | (U[] & string);"),
    .node ⟨"program", true, false, none, 0, 91⟩ [
      .node ⟨"type_alias_declaration", true, false, none, 0, 28⟩ [
        .node ⟨"type", false, false, none, 0, 4⟩ [],
        .node ⟨"type_identifier", true, false, some "name", 5, 6⟩ [],
        .node ⟨"=", false, false, none, 7, 8⟩ [],
        .node ⟨"union_type", true, false, some "value", 9, 27⟩ [
          .node ⟨"type_identifier", true, false, none, 9, 10⟩ [],
          .node ⟨"|", false, false, none, 11, 12⟩ [],
          .node ⟨"parenthesized_type", true, false, none, 13, 27⟩ [
            .node ⟨"(", false, false, none, 13, 14⟩ [],
            .node ⟨"intersection_type", true, false, none, 14, 26⟩ [
              .node ⟨"array_type", true, false, none, 14, 17⟩ [
                .node ⟨"type_identifier", true, false, none, 14, 15⟩ [],
                .node ⟨"[", false, false, none, 15, 16⟩ [],
                .node ⟨"]", false, false, none, 16, 17⟩ []],
              .node ⟨"&", false, false, none, 18, 19⟩ [],
              .node ⟨"predefined_type", true, false, none, 20, 26⟩ [
                .node ⟨"string", false, false, none, 20, 26⟩ []]],
            .node ⟨")", false, false, none, 26, 27⟩ []]],
        .node ⟨";", false, false, none, 27, 28⟩ []],
      .node ⟨"type_alias_declaration", true, false, none, 29, 57⟩ [
        .node ⟨"type", false, false, none, 29, 33⟩ [],
        .node ⟨"type_identifier", true, false, some "name", 34, 35⟩ [],
        .node ⟨"=", false, false, none, 36, 37⟩ [],
        .node ⟨"intersection_type", true, false, some "value", 38, 56⟩ [
          .node ⟨"parenthesized_type", true, false, none, 38, 50⟩ [
            .node ⟨"(", false, false, none, 38, 39⟩ [],
            .node ⟨"union_type", true, false, none, 39, 49⟩ [
              .node ⟨"predefined_type", true, false, none, 39, 45⟩ [
                .node ⟨"string", false, false, none, 39, 45⟩ []],
              .node ⟨"|", false, false, none, 46, 47⟩ [],
              .node ⟨"type_identifier", true, false, none, 48, 49⟩ []],
            .node ⟨")", false, false, none, 49, 50⟩ []],
          .node ⟨"&", false, false, none, 51, 52⟩ [],
          .node ⟨"array_type", true, false, none, 53, 56⟩ [
            .node ⟨"type_identifier", true, false, none, 53, 54⟩ [],
            .node ⟨"[", false, false, none, 54, 55⟩ [],
            .node ⟨"]", false, false, none, 55, 56⟩ []]],
        .node ⟨";", false, false, none, 56, 57⟩ []],
      .node ⟨"type_alias_declaration", true, false, none, 58, 91⟩ [
        .node ⟨"type", false, false, none, 58, 62⟩ [],
        .node ⟨"type_identifier", true, false, some "name", 63, 64⟩ [],
        .node ⟨"=", false, false, none, 65, 66⟩ [],
        .node ⟨"union_type", true, false, some "value", 67, 90⟩ [
          .node ⟨"predefined_type", true, false, none, 67, 73⟩ [
            .node ⟨"number", false, false, none, 67, 73⟩ []],
          .node ⟨"|", false, false, none, 74, 75⟩ [],
          .node ⟨"parenthesized_type", true, false, none, 76, 90⟩ [
            .node ⟨"(", false, false, none, 76, 77⟩ [],
            .node ⟨"intersection_type", true, false, none, 77, 89⟩ [
              .node ⟨"array_type", true, false, none, 77, 80⟩ [
                .node ⟨"type_identifier", true, false, none, 77, 78⟩ [],
                .node ⟨"[", false, false, none, 78, 79⟩ [],
                .node ⟨"]", false, false, none, 79, 80⟩ []],
              .node ⟨"&", false, false, none, 81, 82⟩ [],
              .node ⟨"predefined_type", true, false, none, 83, 89⟩ [
                .node ⟨"string", false, false, none, 83, 89⟩ []]],
            .node ⟨")", false, false, none, 89, 90⟩ []]],
        .node ⟨";", false, false, none, 90, 91⟩ []]]⟩

/-- The types that the aliases in a file stand for. -/
def aliased (d : Document) : List Node :=
  (d.find ["type_alias_declaration"]).filterMap (Node.child? · "value")

/-- The leaf that is unknown does not mask the array. -/
theorem permitsChange?_of_leaves_threeTypes :
    ∃ a b c : Node, threeTypes.aliased = [a, b, c] ∧
      a.tree.isComposite = true ∧ b.tree.isComposite = true ∧ c.tree.isComposite = true ∧
      threeTypes.leafAnswers a.tree = [none, some true, some false] ∧
      threeTypes.permitsChange? a = some true ∧
      threeTypes.permitsChange? b = some true ∧
      threeTypes.permitsChange? c = some true := by
  obtain ⟨a, b, c, htypes⟩ : ∃ a b c : Node, threeTypes.aliased = [a, b, c] :=
    List.length_eq_three.mp (by decide +kernel)
  have hcomposite : ∀ type ∈ threeTypes.aliased, type.tree.isComposite = true := by decide +kernel
  have hanswers : threeTypes.aliased.map (fun type => threeTypes.leafAnswers type.tree) =
      [[none, some true, some false], [some false, none, some true],
        [some false, some true, some false]] := by
    decide +kernel
  rw [htypes] at hcomposite hanswers
  obtain ⟨ha, hb, hc⟩ : a.tree.isComposite = true ∧ b.tree.isComposite = true ∧
      c.tree.isComposite = true := by simpa using hcomposite
  obtain ⟨hla, hlb, hlc⟩ : threeTypes.leafAnswers a.tree = [none, some true, some false] ∧
      threeTypes.leafAnswers b.tree = [some false, none, some true] ∧
      threeTypes.leafAnswers c.tree = [some false, some true, some false] := by
    simpa using hanswers
  obtain ⟨hyes, -, -, hother⟩ := threeTypes.permitsChange?_of_leaves ha
  have hpermits : threeTypes.permitsChange? a = some true := by
    rw [hyes, ← List.mem_map]
    change some true ∈ threeTypes.leafAnswers a.tree
    rw [hla]
    decide
  refine ⟨a, b, c, htypes, ha, hb, hc, hla, hpermits, ?_, ?_⟩
  · -- the same leaves in another order
    rw [← hpermits, (hother threeTypes b hb).1 (by rw [hla, hlb]; decide)]
  · -- the leaf that was unknown is known
    refine (hother threeTypes c hc).2 ?_ true hpermits
    rw [hla, hlc]
    exact .cons (.inr rfl) (.cons (.inl rfl) (.cons (.inl rfl) .nil))

end Document

end CodeConventions
