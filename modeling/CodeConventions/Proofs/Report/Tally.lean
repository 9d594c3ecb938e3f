import Mathlib
import CodeConventions.Report.Summary

/-!
# Counts of rules

A tally lists the rules that occur among some names, each of them once, in the order of the names,
and with each rule how often it occurs (`ordered_tallyAll`, `countIn_tallyAll`).  Adding a name to
a tally in that order raises the count of one rule by one and leaves the others as they are, whether
the rule was there before or not (`countIn_tally`).
-/

namespace CodeConventions.Summary

/-- The rules of a tally come in the order of their names, each of them once. -/
def Ordered (counts : List (String × Nat)) : Prop := (counts.map Prod.fst).Pairwise (· < ·)

/-- How often a rule occurs by a tally; a rule that is not there does not occur. -/
def countIn (counts : List (String × Nat)) (rule : String) : Nat := (counts.lookup rule).getD 0

variable {counts : List (String × Nat)} {rule other : String}

theorem mem_keys_tally_iff :
    other ∈ (tally rule counts).map Prod.fst ↔ other = rule ∨ other ∈ counts.map Prod.fst := by
  induction counts with
  | nil => simp [tally]
  | cons e counts ih =>
      obtain ⟨r, n⟩ := e
      rw [tally]
      split
      · rename_i heq
        subst heq
        simp
      · split
        · simp
        · rw [List.map_cons, List.mem_cons, ih, List.map_cons, List.mem_cons]
          exact or_left_comm

/-- A tally in order stays in order. -/
theorem Ordered.tally (h : Ordered counts) (rule : String) : Ordered (tally rule counts) := by
  induction counts with
  | nil => exact List.pairwise_singleton _ _
  | cons e counts ih =>
      obtain ⟨r, n⟩ := e
      obtain ⟨hhead, hrest⟩ := List.pairwise_cons.mp h
      rw [Summary.tally]
      split
      · exact h
      · rename_i hne
        split
        · rename_i hlt
          refine List.pairwise_cons.mpr ⟨fun s hs => ?_, h⟩
          rcases List.mem_cons.mp hs with rfl | hs
          · exact hlt
          · exact hlt.trans (hhead s hs)
        · rename_i hnot
          have hgt : r < rule := lt_of_le_of_ne (not_lt.mp hnot) (Ne.symm hne)
          refine List.pairwise_cons.mpr ⟨fun s hs => ?_, ih hrest⟩
          rcases mem_keys_tally_iff.mp hs with rfl | hs
          · exact hgt
          · exact hhead s hs

theorem countIn_cons (r : String) (n : Nat) (counts : List (String × Nat)) (rule : String) :
    countIn ((r, n) :: counts) rule = if rule = r then n else countIn counts rule := by
  rw [countIn, List.lookup_cons]
  split
  · rename_i heq
    rw [if_pos (eq_of_beq heq), Option.getD_some]
  · rename_i hne
    rw [if_neg fun h => by simp [h] at hne, countIn]

/-- A rule that a tally does not list does not occur by it. -/
theorem countIn_eq_zero (h : rule ∉ counts.map Prod.fst) : countIn counts rule = 0 := by
  induction counts with
  | nil => rfl
  | cons e counts ih =>
      obtain ⟨r, n⟩ := e
      rw [List.map_cons, List.mem_cons, not_or] at h
      rw [countIn_cons, if_neg h.1, ih h.2]

/-- One more for a rule raises its count by one, and no other count. -/
theorem countIn_tally (h : Ordered counts) (rule other : String) :
    countIn (tally rule counts) other = countIn counts other + if other = rule then 1 else 0 := by
  induction counts with
  | nil =>
      rw [tally, countIn_cons]
      show _ = 0 + _
      rw [Nat.zero_add]
      rfl
  | cons e counts ih =>
      obtain ⟨r, n⟩ := e
      obtain ⟨hhead, hrest⟩ := List.pairwise_cons.mp h
      rw [tally]
      split
      · rename_i heq
        subst heq
        rw [countIn_cons, countIn_cons]
        split <;> omega
      · rename_i hne
        split
        · rename_i hlt
          rw [countIn_cons]
          split
          · rename_i heq
            subst heq
            -- the rule is not there yet: all that is there comes behind it
            have hnew : other ∉ ((r, n) :: counts).map Prod.fst := by
              intro hmem
              rcases List.mem_cons.mp hmem with heq | hmem
              · exact hne heq
              · exact lt_irrefl _ (hlt.trans (hhead other hmem))
            rw [countIn_eq_zero hnew]
          · rfl
        · rw [countIn_cons, countIn_cons, ih hrest]
          split
          · rename_i heq
            rw [if_neg fun h => hne (h.symm.trans heq), Nat.add_zero]
          · rfl

theorem sum_tally (rule : String) (counts : List (String × Nat)) :
    ((tally rule counts).map Prod.snd).sum = (counts.map Prod.snd).sum + 1 := by
  induction counts with
  | nil => rfl
  | cons e counts ih =>
      obtain ⟨r, n⟩ := e
      rw [tally]
      split
      · simp only [List.map_cons, List.sum_cons]
        omega
      · split
        · simp only [List.map_cons, List.sum_cons]
          omega
        · simp only [List.map_cons, List.sum_cons, ih]
          omega

/-! ## The tally of some names -/

variable {rules : List String}

theorem ordered_tallyAll (rules : List String) : Ordered (tallyAll rules) := by
  induction rules with
  | nil => exact List.Pairwise.nil
  | cons rule rules ih => exact ih.tally rule

theorem mem_keys_tallyAll_iff : rule ∈ (tallyAll rules).map Prod.fst ↔ rule ∈ rules := by
  induction rules with
  | nil => rfl
  | cons r rules ih =>
      show rule ∈ (tally r (tallyAll rules)).map Prod.fst ↔ _
      rw [mem_keys_tally_iff, ih, List.mem_cons]

/-- A tally says of each rule how often it occurs. -/
theorem countIn_tallyAll (rules : List String) (rule : String) :
    countIn (tallyAll rules) rule = rules.count rule := by
  induction rules with
  | nil => rfl
  | cons r rules ih =>
      show countIn (tally r (tallyAll rules)) rule = _
      rw [countIn_tally (ordered_tallyAll rules), ih, List.count_cons]
      congr 1
      exact if_congr (by rw [beq_iff_eq, eq_comm]) rfl rfl

/-- The counts of all rules make up the number of names. -/
theorem sum_tallyAll (rules : List String) :
    ((tallyAll rules).map Prod.snd).sum = rules.length := by
  induction rules with
  | nil => rfl
  | cons r rules ih =>
      show ((tally r (tallyAll rules)).map Prod.snd).sum = _
      rw [sum_tally, ih, List.length_cons]

end CodeConventions.Summary
