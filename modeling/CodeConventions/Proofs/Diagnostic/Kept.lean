import Mathlib
import CodeConventions.Diagnostic.Merge

/-!
# The diagnostic that is kept for a key

The order in which diagnostics are put is lexicographic: by their ranks, and by their messages
where the ranks are equal.  A rank says of a diagnostic what its key says, with the start first, so
diagnostics of one key differ in their messages at most as far as the order is concerned.

Of the diagnostics with one key a merge keeps the earliest of those whose message is least.  Which
one this is can be said of the list as it comes in, without its order: nothing before it has a
message that is as small, and nothing after it has a smaller one.

The sort is stable, so the first diagnostic for a key in the sorted list is the one this describes.
The induction is on the list that is sorted: a diagnostic put in front of it lands in the sorted
list somewhere, and it is the first for its key there unless a strictly smaller one stands before
it.
-/

namespace CodeConventions.Diagnostic

/-! ## The order of diagnostics -/

/-- Where a diagnostic stands: the start of its span, then its rule, then the end of its span. -/
def rank (d : Diagnostic) : Int ×ₗ String ×ₗ Int :=
  toLex (d.span.start, toLex (d.rule, d.span.stop))

/-- All that the order looks at. -/
def place (d : Diagnostic) : (Int ×ₗ String ×ₗ Int) ×ₗ String := toLex (d.rank, d.message)

theorem rank_eq_rank_iff {a b : Diagnostic} : a.rank = b.rank ↔ a.key = b.key := by
  simp only [rank, key, toLex_inj, Prod.mk.injEq]
  tauto

theorem rank_lt_rank_iff {a b : Diagnostic} :
    a.rank < b.rank ↔ a.span.start < b.span.start ∨ a.span.start = b.span.start ∧
      (a.rule < b.rule ∨ a.rule = b.rule ∧ a.span.stop < b.span.stop) := by
  simp only [rank, Prod.Lex.toLex_lt_toLex]

/-! ## The comparison is the lexicographic order -/

private theorem place_le_place_iff {a b : Diagnostic} :
    a.place ≤ b.place ↔ a.rank < b.rank ∨ a.rank = b.rank ∧ a.message ≤ b.message := by
  rw [place, place, Prod.Lex.toLex_le_toLex]

private theorem orderBy_eq_true_iff {less equal next : Bool} :
    orderBy less equal next = true ↔ less = true ∨ equal = true ∧ next = true := by
  simp [orderBy]

theorem le_iff_place_le {a b : Diagnostic} : le a b = true ↔ a.place ≤ b.place := by
  have hmessage : (decide (a.message < b.message) || a.message == b.message) = true ↔
      a.message ≤ b.message := by
    rw [Bool.or_eq_true, decide_eq_true_iff, beq_iff_eq, le_iff_lt_or_eq]
  rw [place_le_place_iff, rank_lt_rank_iff, rank_eq_rank_iff]
  simp only [le, orderBy_eq_true_iff, hmessage, decide_eq_true_iff, beq_iff_eq, key,
    Prod.mk.injEq]
  tauto

theorem le_trans_place (a b c : Diagnostic) (hab : le a b = true) (hbc : le b c = true) :
    le a c = true := by
  rw [le_iff_place_le] at hab hbc ⊢
  exact hab.trans hbc

theorem le_total_place (a b : Diagnostic) : (le a b || le b a) = true := by
  rw [Bool.or_eq_true, le_iff_place_le, le_iff_place_le]
  exact le_total a.place b.place

theorem message_le_of_le {a b : Diagnostic} (hle : le a b = true) (hkey : a.key = b.key) :
    a.message ≤ b.message := by
  rw [le_iff_place_le, place_le_place_iff, rank_eq_rank_iff.mpr hkey] at hle
  rcases hle with hlt | ⟨_, hmessage⟩
  · exact absurd hlt (lt_irrefl _)
  · exact hmessage

theorem message_lt_of_not_le {a b : Diagnostic} (hle : ¬ le a b = true) (hkey : a.key = b.key) :
    b.message < a.message := by
  by_contra hnot
  rw [le_iff_place_le, place_le_place_iff] at hle
  exact hle (Or.inr ⟨rank_eq_rank_iff.mpr hkey, not_lt.mp hnot⟩)

theorem rank_lt_of_le {a b : Diagnostic} (hle : le a b = true) (hkey : a.key ≠ b.key) :
    a.rank < b.rank := by
  rw [le_iff_place_le, place_le_place_iff] at hle
  rcases hle with hlt | ⟨hrank, _⟩
  · exact hlt
  · exact absurd (rank_eq_rank_iff.mp hrank) hkey

/-! ## Sorting puts diagnostics in order -/

theorem pairwise_le_mergeSort (ds : List Diagnostic) :
    (ds.mergeSort le).Pairwise fun a b => le a b = true :=
  List.pairwise_mergeSort le_trans_place le_total_place ds

/-! ## What is kept -/

/-- The message is less than that of each diagnostic with the same key. -/
def Below (d : Diagnostic) (ds : List Diagnostic) : Prop :=
  ∀ e ∈ ds, e.key = d.key → d.message < e.message

/-- No diagnostic with the same key has a message that is less. -/
def AtMost (d : Diagnostic) (ds : List Diagnostic) : Prop :=
  ∀ e ∈ ds, e.key = d.key → d.message ≤ e.message

/-- The diagnostic is the earliest of those with its key that have the least message. -/
def IsKept (ds : List Diagnostic) (d : Diagnostic) : Prop :=
  ∃ earlier later, ds = earlier ++ d :: later ∧ d.Below earlier ∧ d.AtMost later

variable {ds xs ys : List Diagnostic} {a d e : Diagnostic}

theorem Below.atMost (h : d.Below ds) : d.AtMost ds :=
  fun e he hkey => (h e he hkey).le

theorem AtMost.mono (h : d.AtMost ys) (hsubset : xs ⊆ ys) : d.AtMost xs :=
  fun e he hkey => h e (hsubset he) hkey

theorem below_append : d.Below (xs ++ ys) ↔ d.Below xs ∧ d.Below ys := by
  simp only [Below, List.mem_append, or_imp, forall_and]

theorem atMost_append : d.AtMost (xs ++ ys) ↔ d.AtMost xs ∧ d.AtMost ys := by
  simp only [AtMost, List.mem_append, or_imp, forall_and]

theorem IsKept.mem (h : IsKept ds d) : d ∈ ds := by
  obtain ⟨earlier, later, rfl, _, _⟩ := h
  exact List.mem_append_right _ (List.mem_cons_self ..)

theorem IsKept.atMost (h : IsKept ds d) : d.AtMost ds := by
  obtain ⟨earlier, later, rfl, hbelow, hatMost⟩ := h
  intro e he hkey
  rcases List.mem_append.mp he with hearlier | hrest
  · exact hbelow.atMost e hearlier hkey
  · rcases List.mem_cons.mp hrest with rfl | hlater
    · exact le_rfl
    · exact hatMost e hlater hkey

/-! ## Lists put together -/

@[simp] theorem not_isKept_nil : ¬ IsKept [] d := by
  rintro ⟨earlier, later, hnil, _, _⟩
  exact List.append_ne_nil_of_right_ne_nil earlier (List.cons_ne_nil d later) hnil.symm

/-- What two lists keep together is what one keeps, as long as the other has nothing to beat it. -/
theorem isKept_append :
    IsKept (xs ++ ys) d ↔ IsKept xs d ∧ d.AtMost ys ∨ IsKept ys d ∧ d.Below xs := by
  constructor
  · rintro ⟨earlier, later, heq, hbelow, hatMost⟩
    rcases List.append_eq_append_iff.mp heq with ⟨middle, rfl, rfl⟩ | ⟨middle, rfl, hrest⟩
    · obtain ⟨hxs, hmiddle⟩ := below_append.mp hbelow
      exact Or.inr ⟨⟨middle, later, rfl, hmiddle, hatMost⟩, hxs⟩
    · cases middle with
      | nil =>
          rw [List.nil_append] at hrest
          rw [List.append_nil]
          exact Or.inr ⟨⟨[], later, hrest.symm, fun _ he => absurd he List.not_mem_nil, hatMost⟩,
            hbelow⟩
      | cons first middle =>
          rw [List.cons_append, List.cons.injEq] at hrest
          obtain ⟨rfl, rfl⟩ := hrest
          obtain ⟨hmiddle, hys⟩ := atMost_append.mp hatMost
          exact Or.inl ⟨⟨earlier, middle, rfl, hbelow, hmiddle⟩, hys⟩
  · rintro (⟨⟨earlier, later, rfl, hbelow, hatMost⟩, hys⟩ |
      ⟨⟨earlier, later, rfl, hbelow, hatMost⟩, hxs⟩)
    · refine ⟨earlier, later ++ ys, by simp, hbelow, atMost_append.mpr ⟨hatMost, hys⟩⟩
    · refine ⟨xs ++ earlier, later, by simp, below_append.mpr ⟨hxs, hbelow⟩, hatMost⟩

theorem isKept_singleton : IsKept [a] d ↔ d = a := by
  constructor
  · intro h
    exact List.mem_singleton.mp h.mem
  · rintro rfl
    exact ⟨[], [], rfl, fun _ he => absurd he List.not_mem_nil,
      fun _ he => absurd he List.not_mem_nil⟩

theorem isKept_cons :
    IsKept (a :: ds) d ↔
      d = a ∧ d.AtMost ds ∨ IsKept ds d ∧ (a.key = d.key → d.message < a.message) := by
  have hbelow : d.Below [a] ↔ (a.key = d.key → d.message < a.message) := by
    simp only [Below, List.mem_singleton, forall_eq]
  rw [← List.singleton_append, isKept_append, isKept_singleton, hbelow]

/-! ## The sorted list has the kept one first -/

/-- A diagnostic with another key beats nothing. -/
theorem isKept_cons_iff_of_key_ne (hkey : a.key ≠ d.key) : IsKept (a :: ds) d ↔ IsKept ds d := by
  rw [isKept_cons]
  constructor
  · rintro (⟨rfl, _⟩ | ⟨hkept, _⟩)
    · exact absurd rfl hkey
    · exact hkept
  · intro hkept
    exact Or.inr ⟨hkept, fun heq => absurd heq hkey⟩

/-- In front of a list that has a smaller message for its key, a diagnostic is not kept. -/
theorem isKept_cons_iff_of_lt (he : e ∈ ds) (hkey : e.key = d.key) (hlt : e.message < a.message)
    (hleast : IsKept ds d → d = e) : IsKept (a :: ds) d ↔ IsKept ds d := by
  rw [isKept_cons]
  constructor
  · rintro (⟨rfl, hatMost⟩ | ⟨hkept, _⟩)
    · exact absurd hlt (not_lt.mpr (hatMost e he hkey))
    · exact hkept
  · intro hkept
    refine Or.inr ⟨hkept, fun _ => ?_⟩
    rw [hleast hkept]
    exact hlt

/-- In front of a list that has no smaller message for its key, a diagnostic is the one kept. -/
theorem isKept_cons_iff_of_atMost (hkey : a.key = d.key) (hatMost : a.AtMost ds) :
    IsKept (a :: ds) d ↔ d = a := by
  rw [isKept_cons]
  constructor
  · rintro (⟨heq, _⟩ | ⟨hkept, hlt⟩)
    · exact heq
    · exact absurd (hlt hkey) (not_lt.mpr (hatMost d hkept.mem hkey.symm))
  · rintro rfl
    exact Or.inl ⟨rfl, hatMost⟩

/-- The first diagnostic for a key in the sorted list is the one that is kept. -/
theorem find?_mergeSort_eq_some_iff (k : String × Int × Int) :
    (ds.mergeSort le).find? (fun e => e.key == k) = some d ↔ d.key = k ∧ IsKept ds d := by
  induction ds generalizing d with
  | nil => simp
  | cons a ds ih =>
      -- sorting puts `a` between what stands strictly before it and the rest
      obtain ⟨before, after, hsorted, htail, hbefore⟩ :=
        List.mergeSort_cons le_trans_place le_total_place a ds
      have hordered := pairwise_le_mergeSort (a :: ds)
      rw [hsorted] at hordered ⊢
      rw [htail] at ih
      rw [List.find?_append] at ih ⊢
      by_cases ha : a.key = k
      · cases hfirst : before.find? (fun e => e.key == k) with
        | some b =>
            -- what stands before `a` is strictly smaller, so `a` is not kept
            rw [hfirst, Option.some_or] at ih
            have hb : b.key = k := by simpa using List.find?_some hfirst
            have hlt : b.message < a.message := by
              refine message_lt_of_not_le ?_ (ha.trans hb.symm)
              simpa using hbefore b (List.mem_of_find?_eq_some hfirst)
            have hmem : b ∈ ds := (ih.mp rfl).2.mem
            rw [Option.some_or, ih]
            refine and_congr_right fun hd => ?_
            have hleast : IsKept ds d → d = b := fun hkept =>
              (Option.some_inj.mp (ih.mpr ⟨hd, hkept⟩)).symm
            exact (isKept_cons_iff_of_lt hmem (hb.trans hd.symm) hlt hleast).symm
        | none =>
            rw [Option.none_or, List.find?_cons_of_pos (by simpa using ha), Option.some_inj]
            have hatMost : a.AtMost ds := by
              intro e he hkey
              have hmem : e ∈ before ++ after := htail ▸ List.mem_mergeSort.mpr he
              rcases List.mem_append.mp hmem with hmem | hmem
              · exact absurd (hkey.trans ha) (by simpa using List.find?_eq_none.mp hfirst e hmem)
              · have hle := List.rel_of_pairwise_cons (List.pairwise_append.mp hordered).2.1 hmem
                exact message_le_of_le hle hkey.symm
            constructor
            · rintro rfl
              exact ⟨ha, (isKept_cons_iff_of_atMost rfl hatMost).mpr rfl⟩
            · rintro ⟨hd, hkept⟩
              exact ((isKept_cons_iff_of_atMost (ha.trans hd.symm) hatMost).mp hkept).symm
      · rw [List.find?_cons_of_neg (by simpa using ha), ih]
        refine and_congr_right fun hd => ?_
        have hne : a.key ≠ d.key := fun heq => ha (heq.trans hd)
        exact (isKept_cons_iff_of_key_ne hne).symm

/-- Each diagnostic of a list has one with its key that is kept. -/
theorem exists_isKept (h : e ∈ ds) :
    ∃ d, IsKept ds d ∧ d.key = e.key ∧ d.message ≤ e.message := by
  have hmem : e ∈ ds.mergeSort le := List.mem_mergeSort.mpr h
  cases hfirst : (ds.mergeSort le).find? (fun c => c.key == e.key) with
  | some d =>
      obtain ⟨hkey, hkept⟩ := (find?_mergeSort_eq_some_iff e.key).mp hfirst
      exact ⟨d, hkept, hkey, hkept.atMost e h hkey.symm⟩
  | none => exact absurd (beq_self_eq_true e.key) (List.find?_eq_none.mp hfirst e hmem)

end CodeConventions.Diagnostic
