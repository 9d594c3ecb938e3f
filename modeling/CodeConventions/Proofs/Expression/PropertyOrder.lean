import Mathlib
import CodeConventions.Expression.ObjectLiteral

/-!
# Properties out of order

A place in a list is inverted with a later one if both items have ranks and the later item has the
lower one.  What is misplaced are the items that are inverted with some later one, and each comes
with the first such item.  There are none exactly if the ranks never fall, and then the order of
the properties is as it should be.

## Strategy

`misplaced` takes the items from left to right, so everything about it is by induction on the list.
What one step adds is said once, by `misplaced_cons`: either the first item is inverted with no
other one, or it comes with the first item that it is inverted with.  The two ways to repair a list,
to leave out what is misplaced and to sort what has a rank, come down to ranks that never fall
(`misplaced_eq_nil_iff`).
-/

namespace CodeConventions

section Items

variable {α : Type} {rank : α → Option Nat} {x : α} {xs ys : List α} {i j : Nat}

/-! ## Inverted places -/

/-- The items in the two places have ranks, and the later one has the lower rank. -/
def IsInversion (rank : α → Option Nat) (xs : List α) (i j : Nat) : Prop :=
  i < j ∧ ∃ x y, xs[i]? = some x ∧ xs[j]? = some y ∧
    ∃ r s, rank x = some r ∧ rank y = some s ∧ s < r

/-- The second place is the first one that the first place is inverted with. -/
def IsFirstInversion (rank : α → Option Nat) (xs : List α) (i j : Nat) : Prop :=
  IsInversion rank xs i j ∧ ∀ k < j, ¬ IsInversion rank xs i k

theorem exists_isFirstInversion (h : IsInversion rank xs i j) :
    ∃ k, IsFirstInversion rank xs i k := by
  classical
  have hsome : ∃ k, IsInversion rank xs i k := ⟨j, h⟩
  exact ⟨Nat.find hsome, Nat.find_spec hsome, fun k hk => Nat.find_min hsome hk⟩

theorem not_isInversion_zero : ¬ IsInversion rank xs i 0 := fun h => absurd h.1 (Nat.not_lt_zero i)

theorem isInversion_cons_succ :
    IsInversion rank (x :: xs) (i + 1) (j + 1) ↔ IsInversion rank xs i j := by
  simp [IsInversion]

theorem isFirstInversion_cons_succ :
    IsFirstInversion rank (x :: xs) (i + 1) (j + 1) ↔ IsFirstInversion rank xs i j := by
  simp only [IsFirstInversion, Nat.forall_lt_succ_left, isInversion_cons_succ,
    not_isInversion_zero, not_false_eq_true, true_and]

/-- The first item is inverted with each later item of a lower rank. -/
theorem isInversion_cons_zero :
    IsInversion rank (x :: xs) 0 (j + 1) ↔
      ∃ r y, rank x = some r ∧ xs[j]? = some y ∧ (rank y).any (· < r) = true := by
  simp only [IsInversion, Nat.zero_lt_succ, true_and, List.getElem?_cons_zero,
    List.getElem?_cons_succ, Option.some_inj, Option.any_eq_true, decide_eq_true_eq]
  constructor
  · rintro ⟨_, y, rfl, hy, r, s, hr, hs, hlt⟩
    exact ⟨r, y, hr, hy, s, hs, hlt⟩
  · rintro ⟨r, y, hr, hy, s, hs, hlt⟩
    exact ⟨x, y, rfl, hy, r, s, hr, hs, hlt⟩

/-! ## What is misplaced -/

/-- Taking one more item in front adds nothing, if the item is inverted with no other one, and else
the item with the first one that it is inverted with. -/
theorem misplaced_cons (rank : α → Option Nat) (x : α) (xs : List α) :
    (misplaced rank (x :: xs) = misplaced rank xs ∧ ∀ j, ¬ IsInversion rank (x :: xs) 0 j) ∨
      ∃ j y, misplaced rank (x :: xs) = (x, y) :: misplaced rank xs ∧ xs[j]? = some y ∧
        IsFirstInversion rank (x :: xs) 0 (j + 1) := by
  rw [misplaced]
  cases hfound : (rank x).bind fun r => xs.find? fun y => (rank y).any (· < r) with
  | none =>
    refine Or.inl ⟨rfl, fun j hj => ?_⟩
    cases j with
    | zero => exact not_isInversion_zero hj
    | succ j =>
      obtain ⟨r, y, hr, hy, hlow⟩ := isInversion_cons_zero.mp hj
      rw [hr, Option.bind_some, List.find?_eq_none] at hfound
      exact hfound y (List.mem_of_getElem? hy) hlow
  | some y =>
    obtain ⟨r, hr, hfind⟩ := Option.bind_eq_some_iff.mp hfound
    obtain ⟨hlow, j, hj, hy, hbefore⟩ := List.find?_eq_some_iff_getElem.mp hfind
    have hget : xs[j]? = some y := hy ▸ List.getElem?_eq_getElem hj
    refine Or.inr ⟨j, y, rfl, hget, isInversion_cons_zero.mpr ⟨r, y, hr, hget, hlow⟩, ?_⟩
    intro k hk hinverted
    cases k with
    | zero => exact not_isInversion_zero hinverted
    | succ k =>
      have hkj : k < j := Nat.lt_of_succ_lt_succ hk
      obtain ⟨r', z, hr', hz, hzlow⟩ := isInversion_cons_zero.mp hinverted
      obtain rfl : r = r' := Option.some_inj.mp (hr.symm.trans hr')
      obtain ⟨hlength, rfl⟩ := List.getElem?_eq_some_iff.mp hz
      have hhigh := hbefore k hkj
      rw [hzlow] at hhigh
      exact absurd hhigh (by decide)

/-- The pairs of items stand in the pairs of places, which are exactly the first inversions, from
left to right. -/
structure ListsFirstInversions (rank : α → Option Nat) (xs : List α) (places : List (Nat × Nat))
    (pairs : List (α × α)) : Prop where
  inOrder : places.Pairwise fun a b => a.1 < b.1
  exact : ∀ i j, (i, j) ∈ places ↔ IsFirstInversion rank xs i j
  items : List.Forall₂ (fun (pair : α × α) (place : Nat × Nat) =>
    xs[place.1]? = some pair.1 ∧ xs[place.2]? = some pair.2) pairs places

/-- The places of a list, in the list that has one more item in front. -/
private def nextPlaces (places : List (Nat × Nat)) : List (Nat × Nat) :=
  places.map fun place => (place.1 + 1, place.2 + 1)

private theorem mem_nextPlaces {places : List (Nat × Nat)} {place : Nat × Nat} :
    place ∈ nextPlaces places ↔ ∃ i j, (i, j) ∈ places ∧ place = (i + 1, j + 1) := by
  simp [nextPlaces, eq_comm]

section Step

variable {places : List (Nat × Nat)} {pairs : List (α × α)}
  (h : ListsFirstInversions rank xs places pairs)

include h

private theorem ListsFirstInversions.items_next (x : α) :
    List.Forall₂ (fun (pair : α × α) (place : Nat × Nat) =>
      (x :: xs)[place.1]? = some pair.1 ∧ (x :: xs)[place.2]? = some pair.2)
      pairs (nextPlaces places) :=
  List.forall₂_map_right_iff.mpr h.items

private theorem ListsFirstInversions.inOrder_next :
    (nextPlaces places).Pairwise fun a b => a.1 < b.1 :=
  List.pairwise_map.mpr (h.inOrder.imp fun hlt => Nat.succ_lt_succ hlt)

private theorem ListsFirstInversions.exact_next (x : α) (i j : Nat) :
    (i, j) ∈ nextPlaces places ↔ 0 < i ∧ IsFirstInversion rank (x :: xs) i j := by
  rw [mem_nextPlaces]
  constructor
  · rintro ⟨i, j, hmem, heq⟩
    obtain ⟨rfl, rfl⟩ := Prod.mk.inj heq
    exact ⟨Nat.succ_pos i, isFirstInversion_cons_succ.mpr ((h.exact i j).mp hmem)⟩
  · rintro ⟨hi, hfirst⟩
    cases i with
    | zero => exact absurd hi (Nat.lt_irrefl 0)
    | succ i =>
      cases j with
      | zero => exact absurd hfirst.1 not_isInversion_zero
      | succ j => exact ⟨i, j, (h.exact i j).mpr (isFirstInversion_cons_succ.mp hfirst), rfl⟩

/-- With one more item in front that is inverted with no other one, the inversions are the same. -/
private theorem ListsFirstInversions.skip (hnone : ∀ j, ¬ IsInversion rank (x :: xs) 0 j) :
    ListsFirstInversions rank (x :: xs) (nextPlaces places) pairs := by
  refine ⟨h.inOrder_next, fun i j => ?_, h.items_next x⟩
  rw [h.exact_next x]
  refine ⟨fun hfirst => hfirst.2, fun hfirst => ⟨Nat.pos_of_ne_zero ?_, hfirst⟩⟩
  rintro rfl
  exact hnone j hfirst.1

/-- An item in front that is inverted with another one adds the first inversion of its own. -/
private theorem ListsFirstInversions.add {y : α} (hy : xs[j]? = some y)
    (hfirst : IsFirstInversion rank (x :: xs) 0 (j + 1)) :
    ListsFirstInversions rank (x :: xs) ((0, j + 1) :: nextPlaces places) ((x, y) :: pairs) := by
  refine ⟨List.pairwise_cons.mpr ⟨fun place hplace => ?_, h.inOrder_next⟩, fun i k => ?_,
    .cons ⟨rfl, hy⟩ (h.items_next x)⟩
  · exact ((h.exact_next x place.1 place.2).mp hplace).1
  · rw [List.mem_cons, h.exact_next x]
    constructor
    · rintro (heq | ⟨_, hother⟩)
      · obtain ⟨rfl, rfl⟩ := Prod.mk.inj heq
        exact hfirst
      · exact hother
    · intro hother
      rcases Nat.eq_zero_or_pos i with rfl | hi
      · -- two first inversions of one place are the same
        have hle : j + 1 ≤ k := not_lt.mp fun hlt => hfirst.2 k hlt hother.1
        have hge : k ≤ j + 1 := not_lt.mp fun hlt => hother.2 (j + 1) hlt hfirst.1
        exact Or.inl (Prod.ext rfl (Nat.le_antisymm hge hle))
      · exact Or.inr ⟨hi, hother⟩

end Step

theorem exists_listsFirstInversions (rank : α → Option Nat) (xs : List α) :
    ∃ places, ListsFirstInversions rank xs places (misplaced rank xs) := by
  induction xs with
  | nil => exact ⟨[], .nil, fun i j => by simp [IsFirstInversion, IsInversion], .nil⟩
  | cons x xs ih =>
    obtain ⟨places, hplaces⟩ := ih
    rcases misplaced_cons rank x xs with ⟨heq, hnone⟩ | ⟨j, y, heq, hy, hfirst⟩
    · exact ⟨nextPlaces places, heq ▸ hplaces.skip hnone⟩
    · exact ⟨(0, j + 1) :: nextPlaces places, heq ▸ hplaces.add hy hfirst⟩

/-- Each item comes with the first later one of a lower rank; items of one rank may follow one
another. -/
example : misplaced some [3, 5, 2, 2, 0] = [(3, 2), (5, 2), (2, 0), (2, 0)] := by decide

/-- Nothing is misplaced exactly if the ranks never fall. -/
theorem misplaced_eq_nil_iff (rank : α → Option Nat) (xs : List α) :
    misplaced rank xs = [] ↔ (xs.filterMap rank).Pairwise (· ≤ ·) := by
  rw [List.pairwise_filterMap]
  induction xs with
  | nil => simp [misplaced]
  | cons x xs ih =>
    rw [List.pairwise_cons, ← ih]
    cases hr : rank x with
    | none => simp [misplaced, hr]
    | some r =>
      cases hfind : xs.find? fun y => (rank y).any (· < r) with
      | none =>
        have hhigh : ∀ y ∈ xs, ∀ s, rank y = some s → r ≤ s := fun y hy s hs => by
          have hnot := List.find?_eq_none.mp hfind y hy
          simpa [hs] using hnot
        simpa [misplaced, hr, hfind] using fun _ => hhigh
      | some y =>
        have hlow := List.find?_some hfind
        have hy := List.mem_of_find?_eq_some hfind
        obtain ⟨s, hs, hlt⟩ := (Option.any_eq_true _ _).mp hlow
        simp only [misplaced, hr, hfind, Option.bind_some, List.singleton_append, List.cons_ne_nil,
          false_iff, not_and]
        intro hordered
        exact absurd (hordered y hy r rfl s hs) (not_le.mpr (of_decide_eq_true hlt))

/-! ## Items without ranks -/

/-- The item has a rank. -/
def isRanked (rank : α → Option Nat) (x : α) : Bool := (rank x).isSome

theorem filterMap_filter_isRanked (rank : α → Option Nat) (xs : List α) :
    (xs.filter (isRanked rank)).filterMap rank = xs.filterMap rank := by
  rw [List.filterMap_filter]
  refine List.filterMap_congr fun x _ => ?_
  cases hr : rank x <;> simp [isRanked, hr]

/-- Items without ranks may be left out or put in anywhere. -/
theorem misplaced_filter_isRanked (rank : α → Option Nat) (xs : List α) :
    misplaced rank (xs.filter (isRanked rank)) = misplaced rank xs := by
  induction xs with
  | nil => rfl
  | cons x xs ih =>
    cases hr : rank x with
    | none =>
      rw [List.filter_cons_of_neg (by simp [isRanked, hr]), ih]
      simp [misplaced, hr]
    | some r =>
      have hfind : (xs.filter (isRanked rank)).find? (fun y => (rank y).any (· < r)) =
          xs.find? fun y => (rank y).any (· < r) := by
        rw [List.find?_filter]
        refine congrArg (fun p => xs.find? p) (funext fun y => ?_)
        cases hs : rank y <;> simp [isRanked, hs]
      rw [List.filter_cons_of_pos (by simp [isRanked, hr]), misplaced, misplaced, ih, hr,
        Option.bind_some, Option.bind_some, hfind]

/-! ## Leaving out what is misplaced -/

/-- The items in all places but those given. -/
def withoutPlaces (places : List Nat) (xs : List α) : List α :=
  (xs.zipIdx.filter fun x => !places.contains x.2).map Prod.fst

theorem pairwise_zipIdx (xs : List α) : xs.zipIdx.Pairwise fun a b => a.2 < b.2 := by
  have hnumbers : (xs.zipIdx.map Prod.snd).Pairwise (· < ·) := by
    rw [List.zipIdx_map_snd]
    exact List.pairwise_lt_range'
  exact List.pairwise_map.mp hnumbers

theorem ListsFirstInversions.misplaced_withoutPlaces {places : List (Nat × Nat)}
    {pairs : List (α × α)} (h : ListsFirstInversions rank xs places pairs) :
    misplaced rank (withoutPlaces (places.map Prod.fst) xs) = [] := by
  rw [misplaced_eq_nil_iff, List.pairwise_filterMap, withoutPlaces, List.pairwise_map,
    List.pairwise_filter]
  refine (pairwise_zipIdx xs).imp_of_mem fun {a b} ha hb hlt hkept _ r hr s hs => ?_
  by_contra hfall
  have hinverted : IsInversion rank xs a.2 b.2 :=
    ⟨hlt, a.1, b.1, List.mem_zipIdx_iff_getElem?.mp ha, List.mem_zipIdx_iff_getElem?.mp hb, r, s,
      hr, hs, not_le.mp hfall⟩
  obtain ⟨j, hfirst⟩ := exists_isFirstInversion hinverted
  have hlisted : a.2 ∈ places.map Prod.fst :=
    List.mem_map.mpr ⟨(a.2, j), (h.exact a.2 j).mpr hfirst, rfl⟩
  simp only [List.contains_iff_mem.mpr hlisted, Bool.not_true, Bool.false_eq_true] at hkept

/-! ## Sorting what has a rank -/

/-- The items at which `p` holds give way to other items, one after the other. -/
def exchange (p : α → Bool) : List α → List α → List α
  | [], _ => []
  | x :: xs, [] => x :: exchange p xs []
  | x :: xs, y :: ys => if p x then y :: exchange p xs ys else x :: exchange p xs (y :: ys)

/-- The rank of the first item is not above that of the second one. -/
def rankLe (rank : α → Option Nat) (x y : α) : Bool := (rank x).getD 0 ≤ (rank y).getD 0

/-- The items with ranks are sorted by them, and all others keep their places. -/
def sortRanked (rank : α → Option Nat) (xs : List α) : List α :=
  exchange (isRanked rank) xs ((xs.filter (isRanked rank)).mergeSort (rankLe rank))

/-- The second list has every item without a rank in the place that it has in the first one, the
ranks of the others never fall, and items of one rank come in the order of the first list. -/
structure IsStablySorted (rank : α → Option Nat) (xs ys : List α) : Prop where
  length : ys.length = xs.length
  unranked : ∀ (i : Nat) (x : α), xs[i]? = some x → rank x = none → ys[i]? = some x
  ordered : (ys.filterMap rank).Pairwise (· ≤ ·)
  stable : ∀ r, ys.filter (fun y => rank y == some r) = xs.filter fun x => rank x == some r

theorem length_exchange (p : α → Bool) (xs ys : List α) : (exchange p xs ys).length = xs.length := by
  fun_induction exchange p xs ys <;> simp_all

theorem getElem?_exchange {p : α → Bool} (hx : xs[i]? = some x) (hp : p x = false) (ys : List α) :
    (exchange p xs ys)[i]? = some x := by
  induction xs generalizing i ys with
  | nil => simp at hx
  | cons z xs ih =>
    cases i with
    | zero =>
      obtain rfl : z = x := by simpa using hx
      cases ys <;> simp [exchange, hp]
    | succ i =>
      rw [List.getElem?_cons_succ] at hx
      cases ys with
      | nil =>
        rw [exchange, List.getElem?_cons_succ]
        exact ih hx []
      | cons y ys =>
        rw [exchange]
        split
        · exact ih hx ys
        · exact ih hx (y :: ys)

/-- As many items as give way are found again, in the places of those. -/
theorem filter_exchange {p : α → Bool} (hys : ∀ y ∈ ys, p y = true)
    (hlength : ys.length = (xs.filter p).length) : (exchange p xs ys).filter p = ys := by
  induction xs generalizing ys with
  | nil =>
    rw [exchange]
    exact (List.eq_nil_of_length_eq_zero hlength).symm
  | cons x xs ih =>
    by_cases hx : p x = true
    · rw [List.filter_cons_of_pos hx, List.length_cons] at hlength
      cases ys with
      | nil => exact absurd hlength (Nat.succ_ne_zero _).symm
      | cons y ys =>
        rw [exchange, if_pos hx, List.filter_cons_of_pos (hys y (List.mem_cons_self ..)),
          ih (fun z hz => hys z (List.mem_cons_of_mem y hz)) (Nat.succ_inj.mp hlength)]
    · rw [List.filter_cons_of_neg hx] at hlength
      cases ys with
      | nil => rw [exchange, List.filter_cons_of_neg hx, ih hys hlength]
      | cons y ys => rw [exchange, if_neg hx, List.filter_cons_of_neg hx, ih hys hlength]

theorem rankLe_trans (rank : α → Option Nat) (x y z : α) (hxy : rankLe rank x y = true)
    (hyz : rankLe rank y z = true) : rankLe rank x z = true :=
  decide_eq_true ((of_decide_eq_true hxy).trans (of_decide_eq_true hyz))

theorem rankLe_total (rank : α → Option Nat) (x y : α) :
    (rankLe rank x y || rankLe rank y x) = true := by
  rw [Bool.or_eq_true, rankLe, rankLe, decide_eq_true_eq, decide_eq_true_eq]
  exact Nat.le_total _ _

/-- Sorting by ranks keeps the order of items of one rank. -/
theorem filter_mergeSort_rankLe (rank : α → Option Nat) (xs : List α) (r : Nat) :
    (xs.mergeSort (rankLe rank)).filter (fun x => rank x == some r) =
      xs.filter fun x => rank x == some r := by
  set alike : List α := xs.filter fun x => rank x == some r with halike
  have hrank : ∀ x ∈ alike, rank x = some r := fun x hx => beq_iff_eq.mp (List.mem_filter.mp hx).2
  have hordered : alike.Pairwise fun x y => rankLe rank x y = true := by
    refine List.pairwise_of_forall_mem_list fun x hx y hy => ?_
    simp [rankLe, hrank x hx, hrank y hy]
  have hkept : alike.Sublist (xs.mergeSort (rankLe rank)) :=
    List.sublist_mergeSort (rankLe_trans rank) (rankLe_total rank) hordered List.filter_sublist
  have hall : alike.filter (fun x => rank x == some r) = alike :=
    List.filter_eq_self.mpr fun x hx => beq_iff_eq.mpr (hrank x hx)
  have hsublist := hkept.filter fun x => rank x == some r
  rw [hall] at hsublist
  refine (hsublist.eq_of_length ?_).symm
  exact ((List.mergeSort_perm xs (rankLe rank)).filter _).length_eq.symm

theorem filter_sortRanked (rank : α → Option Nat) (xs : List α) :
    (sortRanked rank xs).filter (isRanked rank) =
      (xs.filter (isRanked rank)).mergeSort (rankLe rank) := by
  have hperm := List.mergeSort_perm (xs.filter (isRanked rank)) (rankLe rank)
  refine filter_exchange (fun y hy => ?_) hperm.length_eq
  exact (List.mem_filter.mp (hperm.mem_iff.mp hy)).2

theorem isStablySorted_sortRanked (rank : α → Option Nat) (xs : List α) :
    IsStablySorted rank xs (sortRanked rank xs) := by
  refine ⟨length_exchange _ _ _, fun i x hx hr => ?_, ?_, fun r => ?_⟩
  · exact getElem?_exchange hx (by simp [isRanked, hr]) _
  · have hordered := List.pairwise_mergeSort (rankLe_trans rank) (rankLe_total rank)
      (xs.filter (isRanked rank))
    rw [← filterMap_filter_isRanked, filter_sortRanked, List.pairwise_filterMap]
    refine hordered.imp fun {x y} hle r hr s hs => ?_
    simpa [rankLe, hr, hs] using hle
  · -- items of one rank are among those with ranks
    have halike : ∀ zs : List α, zs.filter (fun z => rank z == some r) =
        (zs.filter (isRanked rank)).filter fun z => rank z == some r := fun zs => by
      rw [List.filter_filter]
      refine List.filter_congr fun z _ => ?_
      cases hz : rank z <;> simp [isRanked, hz]
    rw [halike, filter_sortRanked, filter_mergeSort_rankLe, ← halike]

end Items

/-! ## The order of properties -/

namespace PropertyOrder

/-- The group in the place given holds the name, and no earlier group does. -/
def HasRank (order : PropertyOrder) (name : Option String) (r : Nat) : Prop :=
  ∃ s group, name = some s ∧ order.groups[r]? = some group ∧ s ∈ group ∧
    ∀ q < r, ∀ g, order.groups[q]? = some g → s ∉ g

theorem rank_eq_some_iff {order : PropertyOrder} {name : Option String} {r : Nat} :
    order.rank name = some r ↔ order.HasRank name r := by
  rw [rank, Option.bind_eq_some_iff, HasRank]
  refine exists_congr fun s => ?_
  rw [rankIn, List.findIdx?_eq_some_iff_getElem]
  constructor
  · rintro ⟨hname, hr, hmem, hbefore⟩
    refine ⟨order.groups[r], hname, List.getElem?_eq_getElem hr, by simpa using hmem, ?_⟩
    rintro q hq g hg hs
    obtain ⟨_, rfl⟩ := List.getElem?_eq_some_iff.mp hg
    exact hbefore q hq (List.contains_iff_mem.mpr hs)
  · rintro ⟨group, hname, hgroup, hs, hbefore⟩
    obtain ⟨hr, rfl⟩ := List.getElem?_eq_some_iff.mp hgroup
    refine ⟨hname, hr, List.contains_iff_mem.mpr hs, fun q hq hcontains => ?_⟩
    have hlength : q < order.groups.length := hq.trans hr
    exact hbefore q hq _ (List.getElem?_eq_getElem hlength) (List.contains_iff_mem.mp hcontains)

/-- The rank of a property is that of its name. -/
def rankOf (order : PropertyOrder) (p : Property) : Option Nat := order.rank p.name

/-- The rule on the order of properties: what is misordered are the properties with a rank that a
property of lower rank follows, in their order, each with the first such property.  There is none
exactly if the ranks never fall.  Properties without a rank do not matter, and a list is in order
once the misordered properties are left out or those with ranks are sorted. -/
theorem misorderedProperties_exact (order : PropertyOrder) (props : List Property) :
    (∀ p r, order.rankOf p = some r ↔ order.HasRank p.name r) ∧
      (∃ places, ListsFirstInversions order.rankOf props places (misorderedProperties order props) ∧
        misorderedProperties order (withoutPlaces (places.map Prod.fst) props) = []) ∧
      (misorderedProperties order props = [] ↔ (props.filterMap order.rankOf).Pairwise (· ≤ ·)) ∧
      (∀ others : List Property,
        others.filter (isRanked order.rankOf) = props.filter (isRanked order.rankOf) →
          misorderedProperties order others = misorderedProperties order props) ∧
      IsStablySorted order.rankOf props (sortRanked order.rankOf props) ∧
      misorderedProperties order (sortRanked order.rankOf props) = [] := by
  have hmisordered : misorderedProperties order = misplaced order.rankOf := rfl
  have hsorted := isStablySorted_sortRanked order.rankOf props
  obtain ⟨places, hplaces⟩ := exists_listsFirstInversions order.rankOf props
  rw [hmisordered]
  refine ⟨fun p r => rank_eq_some_iff, ⟨places, hplaces, hplaces.misplaced_withoutPlaces⟩,
    misplaced_eq_nil_iff order.rankOf props, fun others hranked => ?_, hsorted,
    (misplaced_eq_nil_iff _ _).mpr hsorted.ordered⟩
  calc misplaced order.rankOf others
      = misplaced order.rankOf (others.filter (isRanked order.rankOf)) :=
        (misplaced_filter_isRanked order.rankOf others).symm
    _ = misplaced order.rankOf (props.filter (isRanked order.rankOf)) := by rw [hranked]
    _ = misplaced order.rankOf props := misplaced_filter_isRanked order.rankOf props

end PropertyOrder

end CodeConventions
