import CodeConventions.Proofs.Except
import CodeConventions.Settings.Source

/-!
# Files that give no entries

A file with settings holds some value, and the settings are to be its entries.  An object has them,
and so has anything that can be taken apart into pairs whose first parts are texts.  This file says
which values have none (`SettingsSource.entriesOf_eq_noEntries_iff`).  That is a fault apart from
all others: not one in settings, but one in what should have been settings
(`Settings.load_eq_noEntries_iff`).

The items are looked at one after the other, so the first one that is no pair decides; whether the
keys are texts is asked when all items are pairs.
-/

namespace CodeConventions

namespace Json

/-- The first of the two parts of an item. -/
def key? (item : Json) : Option Json :=
  match item.parts? with
  | some [key, _] => some key
  | _ => none

/-- The item is a pair of something that can be a key, and anything. -/
def isPair (item : Json) : Bool := item.key?.any fun key => !key.isCompound

/-- The item cannot be taken apart, or it is a pair of something that cannot be a key. -/
def isUnfit (item : Json) : Bool := item.parts?.isNone || item.key?.any isCompound

/-- The value is no collection of entries: it is no object and cannot be taken apart into pairs
whose first parts are texts, and what is in the way is not the number of parts of an item. -/
def IsNoCollection (j : Json) : Prop :=
  j.shape ≠ .object ∧ (j.parts? = none ∨ ∃ items, j.parts? = some items ∧
    ((items.find? fun item => !item.isPair).any isUnfit = true ∨
      (∀ item ∈ items, item.isPair = true) ∧
        ∃ item ∈ items, ∃ key, item.key? = some key ∧ key.shape ≠ .text))

variable {j item : Json} {items : List Json} {pairs : List (Json × Json)} {index : Nat}

theorem key?_eq_none {parts : List Json} (hparts : item.parts? = some parts)
    (hne : ∀ key value, parts = [key, value] → False) : item.key? = none := by
  rw [key?, hparts]
  split
  next key value hpair => exact (hne key value (Option.some.inj hpair)).elim
  next => rfl

/-- No entries are found if the first item that is no pair is not even something like one. -/
theorem pairsFrom_eq_noEntries_iff (index : Nat) :
    pairsFrom index items = .error .noEntries ↔
      (items.find? fun item => !item.isPair).any isUnfit = true := by
  fun_induction pairsFrom index items with
  | case1 => simp
  | case2 index item rest hparts => simp [isPair, isUnfit, key?, hparts]
  | case3 index item rest key value hparts hkey => simp [isPair, isUnfit, key?, hparts, hkey]
  | case4 index item rest key value hparts hkey ih =>
    rw [Except.map_eq_error_iff, ih]
    simp [isPair, key?, hparts, hkey]
  | case5 index item rest parts hne hparts =>
    simp [isPair, isUnfit, key?_eq_none hparts hne, hparts]

/-- Where all items are pairs, their keys are those of the pairs that are found. -/
theorem exists_pairsFrom_eq_ok (index : Nat) (h : ∀ item ∈ items, item.isPair = true) :
    ∃ pairs, pairsFrom index items = .ok pairs ∧
      pairs.map (fun p => some p.1) = items.map key? := by
  fun_induction pairsFrom index items with
  | case1 => exact ⟨[], rfl, rfl⟩
  | case2 index item rest hparts =>
    have hitem := (List.forall_mem_cons.mp h).1
    simp [isPair, key?, hparts] at hitem
  | case3 index item rest key value hparts hkey =>
    have hitem := (List.forall_mem_cons.mp h).1
    simp [isPair, key?, hparts, hkey] at hitem
  | case4 index item rest key value hparts hkey ih =>
    obtain ⟨pairs, hpairs, hkeys⟩ := ih (List.forall_mem_cons.mp h).2
    have hitem : item.key? = some key := by rw [key?, hparts]
    refine ⟨(key, value) :: pairs, by rw [hpairs]; rfl, ?_⟩
    rw [List.map_cons, List.map_cons, hkeys, hitem]
  | case5 index item rest parts hne hparts =>
    have hitem := (List.forall_mem_cons.mp h).1
    simp [isPair, key?_eq_none hparts hne] at hitem

/-- Pairs are found only where all items are pairs. -/
theorem isPair_of_pairsFrom_eq_ok (h : pairsFrom index items = .ok pairs) :
    ∀ item ∈ items, item.isPair = true := by
  fun_induction pairsFrom index items generalizing pairs with
  | case1 => exact fun item hitem => absurd hitem List.not_mem_nil
  | case2 index item rest hparts => exact nomatch h
  | case3 index item rest key value hparts hkey => exact nomatch h
  | case4 index item rest key value hparts hkey ih =>
    obtain ⟨others, hothers, rfl⟩ := Except.map_eq_ok_iff.mp h
    refine List.forall_mem_cons.mpr ⟨?_, ih hothers⟩
    simpa [isPair, key?, hparts] using hkey
  | case5 index item rest parts hne hparts => exact nomatch h

/-- What is true of a key among some pairs is true of a key of the items that they are. -/
theorem exists_key_iff {P : Json → Prop}
    (h : pairs.map (fun p => some p.1) = items.map key?) :
    (∃ p ∈ pairs, P p.1) ↔ ∃ item ∈ items, ∃ key, item.key? = some key ∧ P key := by
  have hmem (key : Json) : (∃ p ∈ pairs, some p.1 = some key) ↔
      ∃ item ∈ items, item.key? = some key := by
    rw [← List.mem_map, h, List.mem_map]
  constructor
  · rintro ⟨p, hp, hkey⟩
    obtain ⟨item, hitem, heq⟩ := (hmem p.1).mp ⟨p, hp, rfl⟩
    exact ⟨item, hitem, p.1, heq, hkey⟩
  · rintro ⟨item, hitem, key, heq, hkey⟩
    obtain ⟨p, hp, hpkey⟩ := (hmem key).mpr ⟨item, hitem, heq⟩
    exact ⟨p, hp, Option.some.inj hpkey ▸ hkey⟩

theorem pairs?_of_shape (h : j.shape ≠ .object) :
    j.pairs? = match j.parts? with
      | none => .error .noEntries
      | some items => pairsFrom 0 items := by
  cases j with
  | object es => exact absurd rfl h
  | unkeyed key keys => exact absurd rfl h
  | _ => rfl

end Json

namespace SettingsSource

variable {s : SettingsSource} {j : Json}

theorem entriesOf_of_shape (h : j.shape ≠ .object) :
    entriesOf j = (j.pairs?.mapError SettingsFault.noEntries >>= fun pairs =>
      if pairs.any fun p => p.1.shape ≠ .text then .error (.noEntries .noEntries)
      else if pairs.any fun p => p.1 matches .unpaired _ then .error brokenName
      else .ok (Json.textEntries pairs)) := by
  cases j with
  | object es => exact absurd rfl h
  | unkeyed key keys => exact absurd rfl h
  | _ => rfl

/-- A value gives no entries, and not for the number of parts of one of its items, if it is no
collection of entries. -/
theorem entriesOf_eq_noEntries_iff :
    entriesOf j = .error (.noEntries .noEntries) ↔ j.IsNoCollection := by
  by_cases hshape : j.shape = .object
  · refine iff_of_false (fun h => ?_) fun h => h.1 hshape
    cases j with
    | object es => exact nomatch h
    | unkeyed key keys => exact nomatch h
    | _ => exact nomatch hshape
  rw [entriesOf_of_shape hshape, Json.IsNoCollection, Json.pairs?_of_shape hshape]
  cases hparts : j.parts? with
  | none => exact iff_of_true rfl ⟨hshape, Or.inl rfl⟩
  | some items =>
    dsimp only
    by_cases hall : ∀ item ∈ items, item.isPair = true
    · -- only the keys can be in the way
      obtain ⟨pairs, hpairs, hkeys⟩ := Json.exists_pairsFrom_eq_ok 0 hall
      have hnone : (items.find? fun item => !item.isPair) = none := by simpa using hall
      have hshapes : (pairs.any fun p => p.1.shape ≠ .text) = true ↔
          ∃ item ∈ items, ∃ key, item.key? = some key ∧ key.shape ≠ .text := by
        rw [← Json.exists_key_iff hkeys]
        simp only [List.any_eq_true, decide_eq_true_eq]
      rw [hpairs]
      change (if _ then _ else _) = _ ↔ _
      split
      next hany =>
        exact iff_of_true rfl ⟨hshape, Or.inr ⟨items, rfl, Or.inr ⟨hall, hshapes.mp hany⟩⟩⟩
      next hany =>
        have hnot := mt hshapes.mpr hany
        refine iff_of_false (fun h => ?_) ?_
        · split at h <;> exact nomatch h
        · simp [hnone, hnot]
    · -- the first item that is no pair is in the way, and keys are not asked for
      cases hpairs : Json.pairsFrom 0 items with
      | ok pairs => exact absurd (Json.isPair_of_pairsFrom_eq_ok hpairs) hall
      | error reason =>
        have hreason : reason = .noEntries ↔
            (items.find? fun item => !item.isPair).any Json.isUnfit = true := by
          rw [← Json.pairsFrom_eq_noEntries_iff 0, hpairs, Except.error.injEq]
        change (Except.error (SettingsFault.noEntries reason) : Except SettingsFault Json.Entries) =
          _ ↔ _
        simp [hreason, hshape, hall]

/-- The environment is read without asking for entries. -/
theorem environmentEntries_ne_noEntries (reason : PairsFault) (settings : List String) :
    s.environmentEntries settings ≠ .error (.noEntries reason) := by
  induction settings with
  | nil => exact nofun
  | cons setting rest ih =>
    rw [environmentEntries]
    cases s.setVariable? setting with
    | none => exact ih
    | some text =>
      intro h
      rcases Except.bind_eq_error_iff.mp h with hvalue | ⟨value, _, h⟩
      · unfold variableValue? at hvalue
        split at hvalue
        · split at hvalue
          next reason _ =>
            split at hvalue <;> exact nomatch hvalue
          next => exact nomatch hvalue
          next => exact nomatch hvalue
        · exact nomatch hvalue
      · rcases Except.bind_eq_error_iff.mp h with hrest | ⟨more, _, h⟩
        · exact ih hrest
        · exact nomatch h

theorem fileEntries_eq_noEntries_iff :
    s.fileEntries = .error (.noEntries .noEntries) ↔
      ∃ text j, s.file = some text ∧ Json.read text = .ok j ∧ j.IsNoCollection := by
  unfold fileEntries
  cases s.file with
  | none => simp
  | some text =>
    cases hread : Json.read text with
    | error reason => simp [hread]
    | ok j => simp [hread, entriesOf_eq_noEntries_iff]

end SettingsSource

/-- No settings are loaded for want of entries if the value in the file is no collection of
entries, whatever else is given. -/
theorem Settings.load_eq_noEntries_iff {s : SettingsSource} :
    Settings.load s = .error (.noEntries .noEntries) ↔
      ∃ text j, s.file = some text ∧ Json.read text = .ok j ∧ j.IsNoCollection := by
  rw [← SettingsSource.fileEntries_eq_noEntries_iff]
  constructor
  · intro h
    rcases Except.bind_eq_error_iff.mp h with hall | ⟨entries, _, h⟩
    · rcases Except.bind_eq_error_iff.mp hall with hdirect | ⟨direct, _, h⟩
      · exact Except.map_eq_error_iff.mp hdirect
      · rcases Except.bind_eq_error_iff.mp h with henvironment | ⟨environment, _, h⟩
        · exact absurd henvironment (s.environmentEntries_ne_noEntries _ _)
        · exact nomatch h
    · split at h <;> exact nomatch h
  · intro h
    have hdirect : s.directEntries = .error (.noEntries .noEntries) :=
      Except.map_eq_error_iff.mpr h
    rw [Settings.load, SettingsSource.allEntries, hdirect]
    rfl

end CodeConventions
