import CodeConventions.Proofs.Tree.Walk
import CodeConventions.Scope.BindingPattern

/-!
# The names of a pattern

A pattern binds the names that can be reached from it through the children at which it binds: the
elements of objects and arrays, the targets of rests, the values of pairs, the left sides of
defaults and the patterns of parameters.  It binds each of them once, in document order, and nothing
else (`boundNames_exact`).  So no name is bound that lies in a default value, in a key or in an
annotation, however deep in the pattern.

## Strategy

That a name is bound once has to be said of its place, as names may look alike.  A place is *bound*
(`Binds`) if each number on the way to it is that of a child at which the node before binds
(`BindsAt`).  One step of the recursion through patterns is said for all kinds of patterns alike:
what a node binds is the node itself, if it is a name, and what the children bind at which it binds
(`boundNames_eq_flatMap`).  The places of a tree have an equation of the same shape, so the names
that a node binds are those at its bound places (`map_some_boundNames`).
-/

namespace CodeConventions

/-! ## One step of the way down -/

namespace ParseTree

theorem boundNamesInRole_eq (role : String) (above ts : List ParseTree) :
    boundNamesInRole role above ts =
      ((ts.find? fun t => t.label.field == some role).map (boundNames above)).getD [] := by
  induction ts with
  | nil => rfl
  | cons t ts ih =>
    unfold boundNamesInRole
    rw [List.find?_cons]
    cases t.label.field == some role with
    | true => rfl
    | false => exact ih

theorem boundNamesOfAll_eq (above ts : List ParseTree) :
    boundNamesOfAll above ts = (ts.filter isSignificant).flatMap (boundNames above) := by
  induction ts with
  | nil => rfl
  | cons t ts ih =>
    unfold boundNamesOfAll
    rw [ih, List.filter_cons]
    cases t.isSignificant <;> rfl

end ParseTree

/-- A pattern binds the name that it is, the names of the pattern in its role, or those of its
parts. -/
theorem Node.boundNames_eq (n : Node) :
    n.boundNames =
      if namePatternKinds.contains n.kind then [n]
      else
        match bindingRole? n.kind with
        | some role => ((n.child? role).map boundNames).getD []
        | none => if partPatternKinds.contains n.kind then n.parts.flatMap boundNames else [] := by
  obtain ⟨⟨l, ts⟩, above⟩ := n
  rw [boundNames, ParseTree.boundNames]
  simp only [ParseTree.boundNamesInRole_eq, ParseTree.boundNamesOfAll_eq, parts, child?,
    Option.map_map, List.flatMap_map]
  rfl

/-- The kinds of patterns with one part that binds. -/
def rolePatternKinds : List String :=
  ["required_parameter", "optional_parameter", "object_assignment_pattern", "assignment_pattern",
    "pair_pattern"]

theorem isOneOf_of_bindingRole? {n : Node} {role : String}
    (hrole : bindingRole? n.kind = some role) : n.isOneOf rolePatternKinds = true := by
  rw [Node.isOneOf_iff]
  by_contra hkind
  simp only [rolePatternKinds, List.mem_cons, List.not_mem_nil, or_false, not_or] at hkind
  simp [bindingRole?, hkind] at hrole

/-- The kinds of patterns that hold the patterns they are made of. -/
def compoundPatternKinds : List String := rolePatternKinds ++ partPatternKinds

/-- The kinds of patterns. -/
def patternKinds : List String := namePatternKinds ++ compoundPatternKinds

/-- A list gives what its member with one number gives, if the others give nothing. -/
theorem flatMap_zipIdx_eq {α β : Type} {xs : List α} {k : Nat} {x : α} {f : α × Nat → List β}
    (hx : xs[k]? = some x) (hf : ∀ y ∈ xs.zipIdx, y.2 ≠ k → f y = []) :
    xs.zipIdx.flatMap f = f (x, k) := by
  obtain ⟨before, after, hsplit⟩ := List.append_of_mem
    (List.mem_zipIdx_iff_getElem?.mpr hx : (x, k) ∈ xs.zipIdx)
  have hnumbers : (xs.zipIdx.map Prod.snd).Nodup := by
    rw [List.zipIdx_map_snd]
    exact List.nodup_range'
  rw [hsplit, List.map_append, List.map_cons, List.nodup_middle, List.nodup_cons,
    List.mem_append, not_or] at hnumbers
  rw [hsplit] at hf
  have hnone : ∀ ys : List (α × Nat), ys ⊆ before ++ (x, k) :: after →
      k ∉ ys.map Prod.snd → ys.flatMap f = [] := fun ys hys hk =>
    List.flatMap_eq_nil_iff.mpr fun y hy =>
      hf y (hys hy) fun heq => hk (heq ▸ List.mem_map_of_mem hy)
  have hafter : after ⊆ before ++ (x, k) :: after :=
    List.subset_append_of_subset_right _ (List.subset_cons_self _ _)
  rw [hsplit, List.flatMap_append, List.flatMap_cons,
    hnone before (List.subset_append_left _ _) hnumbers.1.1, hnone after hafter hnumbers.1.2,
    List.nil_append, List.append_nil]

namespace Node

variable {c i m n p : Node} {k : Nat} {place front back : List Nat} {role : String}

/-! ## Children by number -/

/-- The number of the first child in a role. -/
def childIndex? (n : Node) (role : String) : Option Nat :=
  n.tree.children.findIdx? fun t => t.label.field == some role

theorem child?_eq_bind (n : Node) (role : String) :
    n.child? role = (n.childIndex? role).bind (n.children[·]?) := by
  rw [child?, childIndex?, List.find?_eq_bind_findIdx?_getElem?, Option.map_bind]
  refine congrArg _ (funext fun k => ?_)
  rw [Function.comp_apply, children, List.getElem?_map]

theorem exists_of_childIndex? (h : n.childIndex? role = some k) :
    ∃ c, n.children[k]? = some c ∧ c.tree.label.field = some role := by
  obtain ⟨hk, hrole, _⟩ := List.findIdx?_eq_some_iff_getElem.mp h
  refine ⟨n.down n.tree.children[k], ?_, beq_iff_eq.mp hrole⟩
  rw [children, List.getElem?_map, List.getElem?_eq_getElem hk, Option.map_some]

theorem flatMap_parts {β : Type} (n : Node) (f : Node → List β) :
    n.parts.flatMap f = n.children.flatMap fun c => if c.tree.isSignificant then f c else [] := by
  rw [parts, children, List.flatMap_map, List.flatMap_map]
  induction n.tree.children with
  | nil => rfl
  | cons t ts ih =>
    rw [List.filter_cons, List.flatMap_cons, ← ih]
    change _ = (if t.isSignificant then _ else _) ++ _
    split <;> rfl

/-! ## Where a pattern binds -/

/-- The child with the number given stands where a pattern binds: it is an element of an object or
of an array, the target of a rest, the value of a pair, the left side of a default, or the pattern
of a parameter. -/
inductive BindsAt (p : Node) (k : Nat) (c : Node) : Prop
  | element (hkind : p.kind = "object_pattern" ∨ p.kind = "array_pattern")
      (hc : p.children[k]? = some c) (hpart : c.tree.isSignificant = true)
  | rest (hkind : p.kind = "rest_pattern")
      (hc : p.children[k]? = some c) (hpart : c.tree.isSignificant = true)
  | value (hkind : p.kind = "pair_pattern")
      (hc : p.children[k]? = some c) (hrole : p.childIndex? "value" = some k)
  | defaulted (hkind : p.kind = "object_assignment_pattern" ∨ p.kind = "assignment_pattern")
      (hc : p.children[k]? = some c) (hrole : p.childIndex? "left" = some k)
  | parameter (hkind : p.kind = "required_parameter" ∨ p.kind = "optional_parameter")
      (hc : p.children[k]? = some c) (hrole : p.childIndex? "pattern" = some k)

/-- A name is at the place, and the way there from the pattern leads through children only that
stand where the node before binds. -/
inductive Binds : Node → List Nat → Prop
  | name {n : Node} (hkind : n.kind = "identifier" ∨
      n.kind = "shorthand_property_identifier_pattern") : Binds n []
  | inside {n c : Node} {k : Nat} {place : List Nat} (hc : BindsAt n k c) (h : Binds c place) :
      Binds n (k :: place)

/-- The child of a pattern is not there to bind: it is a default value, the key of a pair, computed
or not, or an annotation. -/
inductive IsAside (p c : Node) : Prop
  | default (hkind : p.kind = "object_assignment_pattern" ∨ p.kind = "assignment_pattern")
      (hrole : c.tree.label.field = some "right")
  | initial (hkind : p.kind = "required_parameter" ∨ p.kind = "optional_parameter")
      (hrole : c.tree.label.field = some "value")
  | key (hkind : p.kind = "pair_pattern") (hrole : c.tree.label.field = some "key")
  | computed (hkind : c.kind = "computed_property_name")
  | annotation (hkind : c.kind = "type_annotation")

/-- A pattern binds at its parts if it is made of patterns, and else at the child in the one role
that binds. -/
theorem bindsAt_iff : p.BindsAt k c ↔ p.children[k]? = some c ∧
    (p.kind ∈ partPatternKinds ∧ c.tree.isSignificant = true ∨
      ∃ role, bindingRole? p.kind = some role ∧ p.childIndex? role = some k) := by
  constructor
  · intro h
    cases h with
    | element hkind hc hpart =>
      refine ⟨hc, Or.inl ⟨?_, hpart⟩⟩
      rcases hkind with hkind | hkind <;> rw [hkind] <;> decide
    | rest hkind hc hpart => exact ⟨hc, Or.inl ⟨hkind ▸ by decide, hpart⟩⟩
    | value hkind hc hrole => exact ⟨hc, Or.inr ⟨"value", hkind ▸ rfl, hrole⟩⟩
    | defaulted hkind hc hrole =>
      refine ⟨hc, Or.inr ⟨"left", ?_, hrole⟩⟩
      rcases hkind with hkind | hkind <;> rw [hkind] <;> rfl
    | parameter hkind hc hrole =>
      refine ⟨hc, Or.inr ⟨"pattern", ?_, hrole⟩⟩
      rcases hkind with hkind | hkind <;> rw [hkind] <;> rfl
  · rintro ⟨hc, ⟨hkind, hpart⟩ | ⟨role, hkind, hrole⟩⟩
    · simp only [partPatternKinds, List.mem_cons, List.not_mem_nil, or_false] at hkind
      rcases hkind with hkind | hkind | hkind
      · exact .element (Or.inl hkind) hc hpart
      · exact .element (Or.inr hkind) hc hpart
      · exact .rest hkind hc hpart
    · rw [bindingRole?] at hkind
      simp only [Bool.or_eq_true, decide_eq_true_eq] at hkind
      split_ifs at hkind with hparameter hdefault hpair
      · exact .parameter hparameter hc (Option.some_inj.mp hkind ▸ hrole)
      · exact .defaulted hdefault hc (Option.some_inj.mp hkind ▸ hrole)
      · exact .value hpair hc (Option.some_inj.mp hkind ▸ hrole)

theorem bindsAt_of_role (hrole : bindingRole? n.kind = some role) (hc : n.children[k]? = some c) :
    n.BindsAt k c ↔ n.childIndex? role = some k := by
  have hkinds : ∀ kind ∈ rolePatternKinds, kind ∉ partPatternKinds := by decide
  have hpart := hkinds _ (isOneOf_iff.mp (isOneOf_of_bindingRole? hrole))
  simp [bindsAt_iff, hc, hpart, hrole]

theorem bindsAt_of_part (hrole : bindingRole? n.kind = none) (hc : n.children[k]? = some c) :
    n.BindsAt k c ↔ n.kind ∈ partPatternKinds ∧ c.tree.isSignificant = true := by
  simp [bindsAt_iff, hc, hrole]

namespace BindsAt

theorem getElem?_eq (h : p.BindsAt k c) : p.children[k]? = some c := (bindsAt_iff.mp h).1

theorem kind_mem (h : p.BindsAt k c) : p.kind ∈ compoundPatternKinds := by
  obtain ⟨_, ⟨hkind, _⟩ | ⟨role, hrole, _⟩⟩ := bindsAt_iff.mp h
  · exact List.mem_append_right _ hkind
  · exact List.mem_append_left _ (isOneOf_iff.mp (isOneOf_of_bindingRole? hrole))

theorem field_eq (h : p.BindsAt k c) (hrole : bindingRole? p.kind = some role) :
    c.tree.label.field = some role := by
  obtain ⟨d, hd, hfield⟩ := exists_of_childIndex? ((bindsAt_of_role hrole h.getElem?_eq).mp h)
  rwa [Option.some_inj.mp (hd.symm.trans h.getElem?_eq)] at hfield

/-- A pattern that stands where another one binds does not stand aside. -/
theorem not_isAside (h : p.BindsAt k c) (hc : c.kind ∈ patternKinds) : ¬ p.IsAside c := by
  intro haside
  cases haside with
  | default hkind hrole =>
    have hleft : bindingRole? p.kind = some "left" := by
      rcases hkind with hkind | hkind <;> rw [hkind] <;> rfl
    exact absurd (hrole.symm.trans (h.field_eq hleft)) (by decide)
  | initial hkind hrole =>
    have hpattern : bindingRole? p.kind = some "pattern" := by
      rcases hkind with hkind | hkind <;> rw [hkind] <;> rfl
    exact absurd (hrole.symm.trans (h.field_eq hpattern)) (by decide)
  | key hkind hrole =>
    have hvalue : bindingRole? p.kind = some "value" := by rw [hkind]; rfl
    exact absurd (hrole.symm.trans (h.field_eq hvalue)) (by decide)
  | computed hkind =>
    rw [hkind] at hc
    exact absurd hc (by decide)
  | annotation hkind =>
    rw [hkind] at hc
    exact absurd hc (by decide)

end BindsAt

open Classical in
/-- A pattern binds the name that it is, and what the children bind that stand where it binds. -/
theorem boundNames_eq_flatMap (n : Node) :
    n.boundNames = (if n.kind ∈ namePatternKinds then [n] else []) ++
      n.children.zipIdx.flatMap fun x => if n.BindsAt x.2 x.1 then x.1.boundNames else [] := by
  have hchild : ∀ x ∈ n.children.zipIdx, n.children[x.2]? = some x.1 := fun x hx =>
    List.mem_zipIdx_iff_getElem?.mp hx
  rw [boundNames_eq]
  simp only [List.contains_iff_mem]
  split
  next hname =>
    have hkinds : ∀ kind ∈ compoundPatternKinds, kind ∉ namePatternKinds := by decide
    rw [List.flatMap_eq_nil_iff.mpr fun x _ => if_neg fun hat => hkinds _ hat.kind_mem hname,
      List.append_nil]
  next =>
    rw [List.nil_append]
    split
    next role hrole =>
      rw [child?_eq_bind]
      cases hk : n.childIndex? role with
      | none =>
        refine (List.flatMap_eq_nil_iff.mpr fun x hx => if_neg fun hat => ?_).symm
        rw [bindsAt_of_role hrole (hchild x hx), hk] at hat
        cases hat
      | some k =>
        obtain ⟨c, hc, _⟩ := exists_of_childIndex? hk
        rw [Option.bind_some, hc, flatMap_zipIdx_eq hc fun x hx hne => if_neg fun hat => ?_,
          if_pos ((bindsAt_of_role hrole hc).mpr hk)]
        · rfl
        · rw [bindsAt_of_role hrole (hchild x hx), hk] at hat
          exact hne (Option.some_inj.mp hat).symm
    next hrole =>
      have hbelow : ∀ x ∈ n.children.zipIdx,
          (if n.BindsAt x.2 x.1 then x.1.boundNames else []) =
            if n.kind ∈ partPatternKinds ∧ x.1.tree.isSignificant then x.1.boundNames else [] :=
        fun x hx => if_congr (bindsAt_of_part hrole (hchild x hx)) rfl rfl
      rw [List.flatMap_congr hbelow]
      split
      next hkind =>
        simp only [hkind, true_and]
        rw [flatMap_parts]
        conv_lhs => rw [← List.zipIdx_map_fst 0 n.children, List.flatMap_map]
      next hkind =>
        simp [hkind]

/-! ## Names that are bound -/

/-- A name that a pattern binds is the pattern, or is bound by a child of it. -/
theorem boundNames_cases (h : i ∈ n.boundNames) :
    n.kind ∈ namePatternKinds ∧ i = n ∨
      n.kind ∈ compoundPatternKinds ∧ ∃ c ∈ n.children, i ∈ c.boundNames := by
  rw [boundNames_eq_flatMap, List.mem_append] at h
  rcases h with h | h
  · split at h
    next hname => exact Or.inl ⟨hname, List.mem_singleton.mp h⟩
    next => exact absurd h List.not_mem_nil
  · obtain ⟨x, _, hi⟩ := List.mem_flatMap.mp h
    split at hi
    next hat => exact Or.inr ⟨hat.kind_mem, x.1, List.mem_of_getElem? hat.getElem?_eq, hi⟩
    next => exact absurd hi List.not_mem_nil

/-- The way from a name up to the pattern that binds it leads through patterns only. -/
theorem eq_or_parent?_of_mem_boundNames (h : i ∈ n.boundNames) :
    i.kind ∈ namePatternKinds ∧
      (i = n ∨ ∃ p, i.parent? = some p ∧ p.kind ∈ compoundPatternKinds) := by
  induction n using childrenInduction with
  | step n ih =>
    rcases boundNames_cases h with ⟨hkind, rfl⟩ | ⟨hkind, c, hc, hi⟩
    · exact ⟨hkind, Or.inl rfl⟩
    · obtain ⟨hname, rfl | hparent⟩ := ih c hc hi
      · exact ⟨hname, Or.inr ⟨n, parent?_of_mem_children hc, hkind⟩⟩
      · exact ⟨hname, Or.inr hparent⟩

/-- Only patterns bind names. -/
theorem kind_of_mem_boundNames (h : i ∈ n.boundNames) : n.kind ∈ patternKinds := by
  rcases boundNames_cases h with ⟨hkind, _⟩ | ⟨hkind, _⟩
  · exact List.mem_append_left _ hkind
  · exact List.mem_append_right _ hkind

theorem mem_boundNames?_iff {pattern : Option Node} :
    i ∈ boundNames? pattern ↔ ∃ p, pattern = some p ∧ i ∈ p.boundNames := by
  cases pattern <;> simp [boundNames?]

/-! ## Places that are bound -/

theorem binds_nil_iff : n.Binds [] ↔ n.kind ∈ namePatternKinds := by
  simp only [namePatternKinds, List.mem_cons, List.not_mem_nil, or_false]
  exact ⟨fun h => by cases h; assumption, .name⟩

theorem binds_cons_iff (hc : n.children[k]? = some c) :
    n.Binds (k :: place) ↔ n.BindsAt k c ∧ c.Binds place := by
  constructor
  · rintro (_ | ⟨hat, h⟩)
    obtain rfl := Option.some_inj.mp (hc.symm.trans hat.getElem?_eq)
    exact ⟨hat, h⟩
  · rintro ⟨hat, h⟩
    exact .inside hat h

namespace Binds

theorem exists_at? (h : n.Binds place) : ∃ m, n.at? place = some m := by
  induction h with
  | name => exact ⟨_, rfl⟩
  | inside hat _ ih =>
    obtain ⟨m, hm⟩ := ih
    exact ⟨m, by rw [at?, hat.getElem?_eq, Option.bind_some, hm]⟩

theorem kind_mem (h : n.Binds place) : n.kind ∈ patternKinds := by
  cases h with
  | name hkind => exact List.mem_append_left _ (binds_nil_iff.mp (.name hkind))
  | inside hat _ => exact List.mem_append_right _ hat.kind_mem

/-- The way to a bound place leads through children that stand where the node before binds. -/
theorem of_append (h : n.Binds (front ++ k :: back)) (hp : n.at? front = some p) :
    ∃ c, p.BindsAt k c ∧ c.Binds back := by
  induction front generalizing n with
  | nil =>
    obtain rfl := Option.some_inj.mp hp
    cases h with
    | inside hat h => exact ⟨_, hat, h⟩
  | cons j front ih =>
    cases h with
    | inside hat h =>
      rw [at?, hat.getElem?_eq, Option.bind_some] at hp
      exact ih h hp

end Binds

open Classical in
/-- The names that a pattern binds are those at its bound places. -/
theorem map_some_boundNames (n : Node) :
    n.boundNames.map some = (n.places.filter fun place => n.Binds place).map n.at? := by
  induction n using childrenInduction with
  | step n ih =>
    have hbelow : ∀ x ∈ n.children.zipIdx,
        (if n.BindsAt x.2 x.1 then x.1.boundNames else []).map some =
          ((x.1.places.map (x.2 :: ·)).filter fun place => n.Binds place).map n.at? := by
      rintro ⟨c, k⟩ hx
      have hchild : n.children[k]? = some c := List.mem_zipIdx_iff_getElem?.mp hx
      rw [List.filter_map, List.map_map]
      simp only [Function.comp_def, binds_cons_iff hchild, at?, hchild, Option.bind_some]
      by_cases hat : n.BindsAt k c
      · simp only [hat, true_and, if_true]
        exact ih c (List.mem_of_getElem? hchild)
      · simp [hat]
    rw [boundNames_eq_flatMap, places_eq, List.filter_cons, List.filter_flatMap, List.map_append,
      List.map_flatMap, List.flatMap_congr hbelow]
    simp only [decide_eq_true_eq, binds_nil_iff]
    split
    · rw [List.map_singleton, List.map_cons, List.map_flatMap, at?]
      rfl
    · rw [List.map_flatMap]
      rfl

theorem boundNames_sublist (n : Node) : n.boundNames.Sublist n.nodes := by
  classical
  have hplaces : (n.boundNames.map some).Sublist (n.nodes.map some) := by
    rw [map_some_boundNames, map_some_nodes]
    exact List.filter_sublist.map n.at?
  have hnames := hplaces.filterMap id
  rwa [List.filterMap_map, List.filterMap_map, Function.id_comp, List.filterMap_some,
    List.filterMap_some] at hnames

/-- A pattern binds the names at its bound places, each of them once and in document order.  None of
them lies at or below a default value, a key or an annotation of a pattern, wherever in the pattern
this stands. -/
theorem boundNames_exact (n : Node) :
    ∃ bound : List (List Nat),
      bound.Pairwise (· < ·) ∧ n.boundNames.map some = bound.map n.at? ∧
      (∀ place, place ∈ bound ↔ n.Binds place) ∧
      n.boundNames.Sublist n.nodes ∧
      ∀ front p k c back, n.at? front = some p → p.children[k]? = some c → p.IsAside c →
        front ++ k :: back ∉ bound := by
  classical
  refine ⟨n.places.filter fun place => n.Binds place, n.pairwise_places.filter _,
    n.map_some_boundNames, fun place => ?_, n.boundNames_sublist, ?_⟩
  · rw [List.mem_filter, decide_eq_true_eq, and_iff_right_of_imp]
    exact fun h => mem_places_iff.mpr h.exists_at?
  · intro front p k c back hp hc haside hmem
    rw [List.mem_filter, decide_eq_true_eq] at hmem
    obtain ⟨e, hat, h⟩ := hmem.2.of_append hp
    obtain rfl : e = c := Option.some_inj.mp (hat.getElem?_eq.symm.trans hc)
    exact hat.not_isAside h.kind_mem haside

/-- The pattern `{ a = b, [c]: [d, ...e] }`. -/
def takenApart : Node :=
  ⟨.node ⟨"object_pattern", true, false, none, 0, 25⟩
    [.node ⟨"\x7b", false, false, none, 0, 1⟩ [],
    .node ⟨"object_assignment_pattern", true, false, none, 2, 7⟩
      [.node ⟨"shorthand_property_identifier_pattern", true, false, some "left", 2, 3⟩ [],
        .node ⟨"=", false, false, none, 4, 5⟩ [],
        .node ⟨"identifier", true, false, some "right", 6, 7⟩ []],
    .node ⟨",", false, false, none, 7, 8⟩ [],
    .node ⟨"pair_pattern", true, false, none, 9, 23⟩
      [.node ⟨"computed_property_name", true, false, some "key", 9, 12⟩
        [.node ⟨"[", false, false, none, 9, 10⟩ [],
          .node ⟨"identifier", true, false, none, 10, 11⟩ [],
          .node ⟨"]", false, false, none, 11, 12⟩ []],
      .node ⟨":", false, false, none, 12, 13⟩ [],
      .node ⟨"array_pattern", true, false, some "value", 14, 23⟩
        [.node ⟨"[", false, false, none, 14, 15⟩ [],
          .node ⟨"identifier", true, false, none, 15, 16⟩ [],
          .node ⟨",", false, false, none, 16, 17⟩ [],
          .node ⟨"rest_pattern", true, false, none, 18, 22⟩
            [.node ⟨"...", false, false, none, 18, 21⟩ [],
              .node ⟨"identifier", true, false, none, 21, 22⟩ []],
          .node ⟨"]", false, false, none, 22, 23⟩ []]],
    .node ⟨"\x7d", false, false, none, 24, 25⟩ []], []⟩

/-- The pattern binds `a`, `d` and `e`, and neither the default `b` nor the `c` of the key. -/
theorem boundNames_exact_takenApart :
    takenApart.boundNames.map start = [2, 15, 21] ∧
      ∃ bound : List (List Nat), takenApart.boundNames.map some = bound.map takenApart.at? ∧
        (takenApart.at? [1, 2]).map start = some 6 ∧ [1, 2] ∉ bound ∧
        (takenApart.at? [3, 0, 1]).map start = some 10 ∧ [3, 0, 1] ∉ bound := by
  obtain ⟨bound, _, hnames, _, _, haside⟩ := boundNames_exact takenApart
  refine ⟨by decide, bound, hnames, by decide, ?_, by decide, ?_⟩
  · exact haside [1] _ 2 _ [] rfl rfl (.default (Or.inl rfl) rfl)
  · exact haside [3] _ 0 _ [1] rfl rfl (.key rfl rfl)

end Node

end CodeConventions
