import CodeConventions.Proofs.Diagnostic.Kept

/-!
# A merge is a normal form

A merge consists of the diagnostics that are kept for their keys, in strictly increasing rank.  A
strictly increasing list is determined by its members, so two merges are equal as soon as the same
diagnostics are kept, and all that is said here of merges follows from what is kept: what a merge
keeps is what it was given to keep, a selection of whole keys commutes with merging, and so does a
change of the parts that merging does not look at.

## Strategy

Of a sorted list the loop over the keys seen so far keeps the first diagnostic for each key, which
is the one that `find?_mergeSort_eq_some_iff` describes.  That gives the members of a merge.  The
loop keeps a sublist without two equal keys, which gives the order.
-/

namespace CodeConventions.Diagnostic

variable {xs ys ds : List Diagnostic} {d e : Diagnostic}

/-! ## The first diagnostic for each key -/

theorem distinctFrom_sublist (seen : List (String × Int × Int)) (ds : List Diagnostic) :
    (distinctFrom seen ds).Sublist ds := by
  induction ds generalizing seen with
  | nil => exact List.Sublist.refl _
  | cons d ds ih =>
      rw [distinctFrom]
      split
      · exact (ih seen).cons d
      · exact (ih (d.key :: seen)).cons_cons d

theorem mem_distinctFrom_iff {seen : List (String × Int × Int)} :
    d ∈ distinctFrom seen ds ↔
      d.key ∉ seen ∧ ds.find? (fun e => e.key == d.key) = some d := by
  induction ds generalizing seen with
  | nil => simp [distinctFrom]
  | cons a ds ih =>
      rw [distinctFrom]
      by_cases hkey : a.key = d.key
      · rw [List.find?_cons_of_pos (by simpa using hkey), Option.some_inj]
        split
        next hseen =>
          rw [ih, ← hkey]
          have hmem : a.key ∈ seen := by simpa using hseen
          exact ⟨fun h => absurd hmem h.1, fun h => absurd hmem h.1⟩
        next hseen =>
          have hmem : d.key ∉ seen := by simpa [hkey] using hseen
          rw [List.mem_cons, ih, hkey]
          constructor
          · rintro (rfl | ⟨hnot, _⟩)
            · exact ⟨hmem, rfl⟩
            · exact absurd (List.mem_cons_self ..) hnot
          · rintro ⟨_, rfl⟩
            exact Or.inl rfl
      · rw [List.find?_cons_of_neg (by simpa using hkey)]
        split
        next => exact ih
        next =>
          have hne : d ≠ a := fun heq => hkey (congrArg key heq.symm)
          rw [List.mem_cons, ih, List.mem_cons, not_or]
          constructor
          · rintro (heq | ⟨⟨_, hnot⟩, hfirst⟩)
            · exact absurd heq hne
            · exact ⟨hnot, hfirst⟩
          · rintro ⟨hnot, hfirst⟩
            exact Or.inr ⟨⟨Ne.symm hkey, hnot⟩, hfirst⟩

theorem distinctFrom_pairwise_key (seen : List (String × Int × Int)) (ds : List Diagnostic) :
    (distinctFrom seen ds).Pairwise fun a b => a.key ≠ b.key := by
  induction ds generalizing seen with
  | nil => exact List.Pairwise.nil
  | cons d ds ih =>
      rw [distinctFrom]
      split
      · exact ih seen
      · refine List.Pairwise.cons (fun e he heq => ?_) (ih (d.key :: seen))
        exact (mem_distinctFrom_iff.mp he).1 (heq ▸ List.mem_cons_self ..)

/-! ## The members of a merge and their order -/

theorem mem_merge_iff : d ∈ merge ds ↔ IsKept ds d := by
  rw [merge, distinct, mem_distinctFrom_iff, find?_mergeSort_eq_some_iff]
  simp

theorem merge_pairwise_rank (ds : List Diagnostic) :
    (merge ds).Pairwise fun a b => a.rank < b.rank := by
  have hordered : (merge ds).Pairwise fun a b => le a b = true :=
    (pairwise_le_mergeSort ds).sublist (distinctFrom_sublist [] _)
  exact hordered.imp₂ (fun _ _ => rank_lt_of_le) (distinctFrom_pairwise_key [] _)

theorem mem_of_mem_merge (h : d ∈ merge ds) : d ∈ ds := (mem_merge_iff.mp h).mem

theorem merge_keys_nodup (ds : List Diagnostic) : ((merge ds).map key).Nodup := by
  rw [List.nodup_iff_pairwise_ne, List.pairwise_map]
  exact distinctFrom_pairwise_key [] _

theorem mem_merge_keys_iff {k : String × Int × Int} :
    k ∈ (merge ds).map key ↔ k ∈ ds.map key := by
  constructor
  · intro h
    obtain ⟨d, hd, rfl⟩ := List.mem_map.mp h
    exact List.mem_map_of_mem (mem_of_mem_merge hd)
  · intro h
    obtain ⟨e, he, rfl⟩ := List.mem_map.mp h
    obtain ⟨d, hkept, hkey, _⟩ := exists_isKept he
    exact hkey ▸ List.mem_map_of_mem (mem_merge_iff.mpr hkept)

/-- A list in strictly increasing rank is a merge as soon as its members are the ones kept. -/
theorem eq_merge (hordered : xs.Pairwise fun a b => a.rank < b.rank)
    (hmem : ∀ d, d ∈ xs ↔ IsKept ds d) : xs = merge ds := by
  have : Std.Antisymm fun a b : Diagnostic => a.rank < b.rank :=
    ⟨fun _ _ hab hba => absurd (hab.trans hba) (lt_irrefl _)⟩
  have : Std.Irrefl fun a b : Diagnostic => a.rank < b.rank := ⟨fun _ => lt_irrefl _⟩
  refine hordered.eq_of_mem_iff (merge_pairwise_rank ds) fun d => ?_
  rw [hmem, mem_merge_iff]

theorem merge_congr (h : ∀ d, IsKept xs d ↔ IsKept ys d) : merge xs = merge ys :=
  eq_merge (merge_pairwise_rank xs) fun d => mem_merge_iff.trans (h d)

theorem merge_singleton (d : Diagnostic) : merge [d] = [d] := by
  refine (eq_merge (List.pairwise_singleton _ d) fun e => ?_).symm
  rw [isKept_singleton, List.mem_singleton]

/-! ## Merging what is merged -/

theorem atMost_merge_iff : d.AtMost (merge ds) ↔ d.AtMost ds := by
  constructor
  · intro h e he hkey
    obtain ⟨b, hkept, hb, hle⟩ := exists_isKept he
    exact (h b (mem_merge_iff.mpr hkept) (hb.trans hkey)).trans hle
  · exact fun h => h.mono fun _ => mem_of_mem_merge

theorem below_merge_iff : d.Below (merge ds) ↔ d.Below ds := by
  constructor
  · intro h e he hkey
    obtain ⟨b, hkept, hb, hle⟩ := exists_isKept he
    exact (h b (mem_merge_iff.mpr hkept) (hb.trans hkey)).trans_le hle
  · exact fun h e he => h e (mem_of_mem_merge he)

/-- Where each key occurs once, all is kept. -/
theorem isKept_iff_mem (h : (ds.map key).Nodup) : IsKept ds d ↔ d ∈ ds := by
  constructor
  · exact IsKept.mem
  · intro hmem
    obtain ⟨b, hkept, hkey, _⟩ := exists_isKept hmem
    obtain rfl : b = d := List.inj_on_of_nodup_map h hkept.mem hmem hkey
    exact hkept

theorem isKept_merge_iff : IsKept (merge ds) d ↔ IsKept ds d := by
  rw [isKept_iff_mem (merge_keys_nodup ds), mem_merge_iff]

theorem merge_merge (ds : List Diagnostic) : merge (merge ds) = merge ds :=
  merge_congr fun _ => isKept_merge_iff

theorem merge_append (xs ys : List Diagnostic) :
    merge (xs ++ ys) = merge (merge xs ++ merge ys) := by
  refine merge_congr fun d => ?_
  rw [isKept_append, isKept_append, isKept_merge_iff, isKept_merge_iff, atMost_merge_iff,
    below_merge_iff]

/-! ## Selecting whole keys -/

theorem isKept_filter_iff {p : Diagnostic → Bool}
    (hp : ∀ a b : Diagnostic, a.key = b.key → p a = p b) :
    IsKept (ds.filter p) d ↔ IsKept ds d ∧ p d = true := by
  induction ds with
  | nil => simp
  | cons a ds ih =>
      have hatMost : p d = true → (d.AtMost (ds.filter p) ↔ d.AtMost ds) := by
        intro hd
        constructor
        · intro h e he hkey
          exact h e (List.mem_filter.mpr ⟨he, (hp e d hkey).trans hd⟩) hkey
        · exact fun h => h.mono (List.filter_subset_self ds)
      by_cases ha : p a = true
      · rw [List.filter_cons_of_pos ha, isKept_cons, isKept_cons, ih]
        constructor
        · rintro (⟨rfl, hleast⟩ | ⟨⟨hkept, hd⟩, hlt⟩)
          · exact ⟨Or.inl ⟨rfl, (hatMost ha).mp hleast⟩, ha⟩
          · exact ⟨Or.inr ⟨hkept, hlt⟩, hd⟩
        · rintro ⟨⟨rfl, hleast⟩ | ⟨hkept, hlt⟩, hd⟩
          · exact Or.inl ⟨rfl, (hatMost hd).mpr hleast⟩
          · exact Or.inr ⟨⟨hkept, hd⟩, hlt⟩
      · rw [List.filter_cons_of_neg ha, isKept_cons, ih]
        constructor
        · rintro ⟨hkept, hd⟩
          exact ⟨Or.inr ⟨hkept, fun hkey => absurd ((hp a d hkey).trans hd) ha⟩, hd⟩
        · rintro ⟨⟨rfl, _⟩ | ⟨hkept, _⟩, hd⟩
          · exact absurd hd ha
          · exact ⟨hkept, hd⟩

/-- A selection that takes all diagnostics of a key or none may come before a merge or after. -/
theorem merge_filter {p : Diagnostic → Bool}
    (hp : ∀ a b : Diagnostic, a.key = b.key → p a = p b) (ds : List Diagnostic) :
    merge (ds.filter p) = (merge ds).filter p := by
  refine (eq_merge ((merge_pairwise_rank ds).filter p) fun d => ?_).symm
  rw [List.mem_filter, mem_merge_iff, isKept_filter_iff hp]

/-! ## Changing what a merge does not look at -/

private theorem atMost_map_iff {f : Diagnostic → Diagnostic}
    (hkey : ∀ a b, (f a).key = (f b).key ↔ a.key = b.key)
    (hmessage : ∀ a, (f a).message = a.message) : (f d).AtMost (ds.map f) ↔ d.AtMost ds := by
  simp only [AtMost, List.forall_mem_map, hkey, hmessage]

theorem isKept_map_iff {f : Diagnostic → Diagnostic}
    (hkey : ∀ a b, (f a).key = (f b).key ↔ a.key = b.key)
    (hmessage : ∀ a, (f a).message = a.message) :
    IsKept (ds.map f) d ↔ ∃ a, IsKept ds a ∧ f a = d := by
  induction ds with
  | nil => simp
  | cons a ds ih =>
      rw [List.map_cons, isKept_cons, ih, hmessage]
      constructor
      · rintro (⟨rfl, hleast⟩ | ⟨⟨b, hkept, rfl⟩, hlt⟩)
        · exact ⟨a, isKept_cons.mpr (Or.inl ⟨rfl, (atMost_map_iff hkey hmessage).mp hleast⟩), rfl⟩
        · rw [hkey, hmessage] at hlt
          exact ⟨b, isKept_cons.mpr (Or.inr ⟨hkept, hlt⟩), rfl⟩
      · rintro ⟨b, hkept, rfl⟩
        rw [hkey, hmessage]
        rcases isKept_cons.mp hkept with ⟨rfl, hleast⟩ | ⟨htail, hlt⟩
        · exact Or.inl ⟨rfl, (atMost_map_iff hkey hmessage).mpr hleast⟩
        · exact Or.inr ⟨⟨b, htail, rfl⟩, hlt⟩

/-- A change that keeps the order of ranks and the messages may be made before a merge or after. -/
theorem merge_map_of_rank {f : Diagnostic → Diagnostic}
    (hrank : ∀ a b, (f a).rank < (f b).rank ↔ a.rank < b.rank)
    (hmessage : ∀ a, (f a).message = a.message) (ds : List Diagnostic) :
    merge (ds.map f) = (merge ds).map f := by
  have hkey : ∀ a b, (f a).key = (f b).key ↔ a.key = b.key := by
    intro a b
    rw [← rank_eq_rank_iff, ← rank_eq_rank_iff, eq_iff_le_not_lt, eq_iff_le_not_lt, ← not_lt,
      ← not_lt, hrank, hrank]
  refine (eq_merge ?_ fun d => ?_).symm
  · simpa only [List.pairwise_map, hrank] using merge_pairwise_rank ds
  · simp only [List.mem_map, mem_merge_iff, isKept_map_iff hkey hmessage]

/-- A change that leaves keys and messages alone may be made before a merge or after. -/
theorem merge_map {f : Diagnostic → Diagnostic} (hkey : ∀ a, (f a).key = a.key)
    (hmessage : ∀ a, (f a).message = a.message) (ds : List Diagnostic) :
    merge (ds.map f) = (merge ds).map f := by
  have hrank : ∀ a, (f a).rank = a.rank := fun a => rank_eq_rank_iff.mpr (hkey a)
  exact merge_map_of_rank (fun a b => by rw [hrank, hrank]) hmessage ds

/-! ## Merges by rule -/

/-- A merge is determined by what the list has of each rule, in the order it has it. -/
theorem merge_congr_of_rules
    (h : ∀ rule, xs.filter (fun d => d.rule == rule) = ys.filter (fun d => d.rule == rule)) :
    merge xs = merge ys := by
  refine merge_congr fun d => ?_
  have hrule : ∀ a b : Diagnostic, a.key = b.key → (a.rule == d.rule) = (b.rule == d.rule) := by
    intro a b hkey
    rw [show a.rule = b.rule from congrArg Prod.fst hkey]
  have hself : (d.rule == d.rule) = true := beq_self_eq_true d.rule
  calc
    IsKept xs d ↔ IsKept (xs.filter fun e => e.rule == d.rule) d := by
      rw [isKept_filter_iff hrule, hself, and_iff_left rfl]
    _ ↔ IsKept (ys.filter fun e => e.rule == d.rule) d := by rw [h]
    _ ↔ IsKept ys d := by rw [isKept_filter_iff hrule, hself, and_iff_left rfl]

/-! ## The normal form -/

/-- A merge is strictly increasing in rank.  It has the keys of the list, each once, and for each
the earliest of the diagnostics with the least message.  Lists may be merged piece by piece. -/
theorem merge_normalForm (xs ys : List Diagnostic) :
    (merge xs).Pairwise (fun a b => a.rank < b.rank) ∧
      ((merge xs).map key).Nodup ∧
      (∀ k, k ∈ (merge xs).map key ↔ k ∈ xs.map key) ∧
      (∀ d, d ∈ merge xs ↔ IsKept xs d) ∧
      merge (xs ++ ys) = merge (merge xs ++ merge ys) ∧
      merge (merge xs) = merge xs :=
  ⟨merge_pairwise_rank xs, merge_keys_nodup xs, fun _ => mem_merge_keys_iff,
    fun _ => mem_merge_iff, merge_append xs ys, merge_merge xs⟩

end CodeConventions.Diagnostic
