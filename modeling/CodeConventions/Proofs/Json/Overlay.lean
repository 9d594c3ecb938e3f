import CodeConventions.Json.Pairs
import CodeConventions.Json.Reader
import CodeConventions.Proofs.Except

/-!
# One value laid over another

Objects are joined key by key, at every depth, and anywhere else the upper value hides the lower
one.  So a path of keys leads in the joined value to what it leads to in the upper one, laid over
what it leads to in the lower one (`follow?_overlay`); and where the upper one has nothing on the path
and nothing but objects on the way, to what it leads to in the lower one (`follow?_overlay_of_none`).

Entries are laid over others one after the other, so this is so only if the objects in the upper
value have each key once (`WellKeyed`).  A value that is read from a text is such a value
(`wellKeyed_of_read`).
-/

namespace CodeConventions.Json

variable {es lower upper others : Entries} {k other : String} {v w : Json} {path : List String}

/-! ## Entries -/

namespace Entries

theorem get?_cons (e : String × Json) (es : Entries) (k : String) :
    get? (e :: es) k = if k = e.1 then some e.2 else es.get? k := by
  obtain ⟨key, v⟩ := e
  by_cases h : k = key
  · simp [get?, h]
  · simp [get?, List.lookup_cons, h, beq_false_of_ne h]

@[simp] theorem get?_nil (k : String) : get? [] k = none := rfl

theorem get?_append (es others : Entries) (k : String) :
    get? (es ++ others) k = (es.get? k).or (others.get? k) := by
  induction es with
  | nil => rfl
  | cons e es ih =>
      rw [List.cons_append, get?_cons, get?_cons, ih]
      split <;> rfl

theorem get?_eq_none_iff : es.get? k = none ↔ k ∉ es.map Prod.fst := by
  induction es with
  | nil => simp [get?]
  | cons e es ih =>
      rw [get?_cons, List.map_cons, List.mem_cons, not_or]
      split
      next h => simp [h]
      next h => rw [ih]; simp [h]

theorem mem_of_get? (h : es.get? k = some v) : (k, v) ∈ es := by
  induction es with
  | nil => cases h
  | cons e es ih =>
      rw [get?_cons] at h
      split at h
      next hk =>
        obtain rfl := Option.some.inj h
        rw [hk]
        exact List.mem_cons_self
      next => exact List.mem_cons_of_mem e (ih h)

/-- The first entry whose key has a property has the first such key, and the value of that key. -/
theorem map_find?_key (p : String → Bool) (es : Entries) :
    (es.find? fun e => p e.1).map Prod.snd = ((es.map Prod.fst).find? p).bind es.get? := by
  induction es with
  | nil => rfl
  | cons e es ih =>
      rw [List.find?_cons, List.map_cons, List.find?_cons]
      cases hp : p e.1 with
      | true => simp [get?_cons]
      | false =>
          rw [ih]
          cases hfind : (es.map Prod.fst).find? p with
          | none => rfl
          | some key =>
              have hne : key ≠ e.1 := by
                rintro rfl
                rw [List.find?_some hfind] at hp
                cases hp
              rw [Option.bind_some, Option.bind_some, get?_cons, if_neg hne]

/-! ### Writing entries over others -/

/-- A new key goes to the end, so a search among the keys comes to it last. -/
theorem find?_keys_set (es : Entries) (k : String) (v : Json) (p : String → Bool) :
    ((es.set k v).map Prod.fst).find? p = (es.map Prod.fst ++ [k]).find? p := by
  induction es with
  | nil => rfl
  | cons e es ih =>
      rw [set]
      split
      next h =>
        rw [List.map_cons, List.map_cons, List.cons_append, List.find?_cons, List.find?_cons]
        cases hp : p e.1 with
        | true => rfl
        | false => simp [← h, hp]
      next =>
        rw [List.map_cons, List.map_cons, List.cons_append, List.find?_cons, List.find?_cons, ih]

theorem find?_keys_update (es others : Entries) (p : String → Bool) :
    ((es.update others).map Prod.fst).find? p = ((es ++ others).map Prod.fst).find? p := by
  induction others generalizing es with
  | nil => rw [List.append_nil]; rfl
  | cons e others ih =>
      change ((update (es.set e.1 e.2) others).map Prod.fst).find? p = _
      rw [ih, List.map_append, List.find?_append, find?_keys_set, ← List.find?_append]
      simp

/-- Of entries with each key once, the ones that are written over others hide these. -/
theorem get?_update (hothers : (others.map Prod.fst).Nodup) (es : Entries) (k : String) :
    (es.update others).get? k = (others.get? k).or (es.get? k) := by
  induction others generalizing es with
  | nil => rfl
  | cons e others ih =>
      rw [List.map_cons, List.nodup_cons] at hothers
      change (update (es.set e.1 e.2) others).get? k = _
      rw [ih hothers.2, get?_set, get?_cons]
      split
      next h => rw [get?_eq_none_iff.mpr (h ▸ hothers.1)]; rfl
      next => rfl

theorem mem_keys_set :
    other ∈ (es.set k v).map Prod.fst ↔ other ∈ es.map Prod.fst ∨ other = k := by
  rw [← not_iff_not, not_or, ← get?_eq_none_iff, ← get?_eq_none_iff, get?_set]
  split
  next h => simp [h]
  next h => simp [h]

theorem nodup_keys_set (h : (es.map Prod.fst).Nodup) (k : String) (v : Json) :
    ((es.set k v).map Prod.fst).Nodup := by
  induction es with
  | nil => exact List.nodup_singleton k
  | cons e es ih =>
      rw [List.map_cons, List.nodup_cons] at h
      rw [set]
      split
      next => exact List.nodup_cons.mpr h
      next hne =>
        refine List.nodup_cons.mpr ⟨fun hmem => ?_, ih h.2⟩
        rcases mem_keys_set.mp hmem with hmem | heq
        · exact h.1 hmem
        · exact hne heq

theorem nodup_keys_update (h : (es.map Prod.fst).Nodup) (others : Entries) :
    ((es.update others).map Prod.fst).Nodup := by
  induction others generalizing es with
  | nil => exact h
  | cons e others ih => exact ih (nodup_keys_set h e.1 e.2)

theorem forall_values_set {P : Json → Prop} (h : ∀ e ∈ es, P e.2) (hv : P v) (k : String) :
    ∀ e ∈ es.set k v, P e.2 := by
  induction es with
  | nil => exact List.forall_mem_singleton.mpr hv
  | cons e es ih =>
      rw [List.forall_mem_cons] at h
      rw [set]
      split
      next => exact List.forall_mem_cons.mpr ⟨hv, h.2⟩
      next => exact List.forall_mem_cons.mpr ⟨h.1, ih h.2⟩

theorem forall_values_update {P : Json → Prop} (h : ∀ e ∈ es, P e.2)
    (hothers : ∀ e ∈ others, P e.2) : ∀ e ∈ es.update others, P e.2 := by
  induction others generalizing es with
  | nil => exact h
  | cons e others ih =>
      rw [List.forall_mem_cons] at hothers
      exact ih (forall_values_set h hothers.1 e.1) hothers.2

end Entries

/-! ## Values in which each key stands once -/

/-- Each object in the value has each of its keys once. -/
inductive WellKeyed : Json → Prop
  | leaf {j : Json} (items : j.items? = none) (entries : j.entries? = none) : WellKeyed j
  | list {xs : List Json} (items : ∀ x ∈ xs, WellKeyed x) : WellKeyed (.list xs)
  | object {es : Entries} (keys : (es.map Prod.fst).Nodup) (values : ∀ e ∈ es, WellKeyed e.2) :
      WellKeyed (.object es)

theorem WellKeyed.of_object (h : (Json.object es).WellKeyed) :
    (es.map Prod.fst).Nodup ∧ ∀ e ∈ es, e.2.WellKeyed := by
  cases h with
  | leaf _ hentries => cases hentries
  | object hkeys hvalues => exact ⟨hkeys, hvalues⟩

theorem wellKeyed_ofEntries (h : ∀ e ∈ es, e.2.WellKeyed) : (ofEntries es).WellKeyed := by
  have hnone : (([] : Entries).map Prod.fst).Nodup := List.nodup_nil
  have hvalues : ∀ e ∈ ([] : Entries), e.2.WellKeyed := fun _ he => absurd he List.not_mem_nil
  exact .object (Entries.nodup_keys_update hnone es) (Entries.forall_values_update hvalues h)

/-- The parts of a value have each key once if the value does. -/
theorem WellKeyed.of_mem_parts? {j x : Json} {xs : List Json} (h : j.WellKeyed)
    (hparts : j.parts? = some xs) (hx : x ∈ xs) : x.WellKeyed := by
  have hpoints : ∀ points, (ofPoints points).WellKeyed := fun points => by
    rw [ofPoints]
    split <;> exact .leaf rfl rfl
  cases j with
  | list items =>
      obtain rfl := Option.some.inj hparts
      cases h with
      | leaf hitems _ => cases hitems
      | list hitems => exact hitems x hx
  | text s =>
      obtain rfl := Option.some.inj hparts
      obtain ⟨c, _, rfl⟩ := List.mem_map.mp hx
      exact .leaf rfl rfl
  | unpaired points =>
      obtain rfl := Option.some.inj hparts
      obtain ⟨n, _, rfl⟩ := List.mem_map.mp hx
      exact hpoints [n]
  | object es =>
      obtain rfl := Option.some.inj hparts
      obtain ⟨e, _, rfl⟩ := List.mem_map.mp hx
      exact .leaf rfl rfl
  | unkeyed key keys =>
      obtain rfl := Option.some.inj hparts
      obtain ⟨points, _, rfl⟩ := List.mem_map.mp hx
      exact hpoints points
  | null => cases hparts
  | bool b => cases hparts
  | int i => cases hparts
  | real x => cases hparts

/-! ### Values that are read -/

theorem wellKeyed_of_readScalar {longest : Nat} {cs rest : List Char}
    (h : readScalar longest cs = .ok (v, rest)) : v.WellKeyed := by
  have hwords : ∀ e ∈ words, e.2.items? = none ∧ e.2.entries? = none := by decide
  have hunsigned : ∀ negative cs, readUnsigned longest negative cs = .ok (v, rest) →
      v.WellKeyed := fun negative cs h => by
    unfold readUnsigned at h
    split at h
    · cases h
    · dsimp only at h
      split at h
      · obtain ⟨rfl, _⟩ := Prod.mk.inj (Except.ok.inj h)
        exact .leaf rfl rfl
      · split_ifs at h <;> obtain ⟨rfl, _⟩ := Prod.mk.inj (Except.ok.inj h) <;> exact .leaf rfl rfl
  unfold readScalar at h
  split at h
  next r hword =>
    obtain ⟨⟨word, j⟩, hmem, hafter⟩ := List.exists_of_findSome?_eq_some hword
    obtain ⟨more, _, rfl⟩ := Option.map_eq_some_iff.mp hafter
    obtain ⟨rfl, _⟩ := Prod.mk.inj (Except.ok.inj h)
    exact .leaf (hwords _ hmem).1 (hwords _ hmem).2
  next =>
    split at h
    · exact hunsigned true _ h
    · exact hunsigned false _ h

theorem wellKeyed_ofPointEntries {entries : List (List Nat × Json)}
    (h : ∀ e ∈ entries, e.2.WellKeyed) : (ofPointEntries entries).WellKeyed := by
  rw [ofPointEntries]
  split
  · exact .leaf rfl rfl
  · refine wellKeyed_ofEntries fun e he => ?_
    obtain ⟨entry, hentry, rfl⟩ := List.mem_map.mp he
    exact h entry hentry

/-- What is read with the fuel given, as a value, as items or as entries, has each key once. -/
structure ReadsKeyed (longest fuel : Nat) : Prop where
  value : ∀ {room cs j rest}, readValue longest fuel room cs = .ok (j, rest) → j.WellKeyed
  items : ∀ {room cs xs rest}, readItems longest fuel room cs = .ok (xs, rest) →
    ∀ x ∈ xs, x.WellKeyed
  entries : ∀ {room cs es rest}, readEntries longest fuel room cs = .ok (es, rest) →
    ∀ e ∈ es, e.2.WellKeyed

namespace ReadsKeyed

variable {longest fuel room : Nat} {cs rest : List Char}

theorem value_succ (ih : ReadsKeyed longest fuel)
    (h : readValue longest (fuel + 1) room cs = .ok (v, rest)) : v.WellKeyed := by
  unfold readValue at h
  split at h
  · cases h
  -- a text
  · obtain ⟨⟨points, more⟩, _, heq⟩ := Except.map_eq_ok_iff.mp h
    obtain ⟨rfl, _⟩ := Prod.mk.inj heq
    rw [ofPoints]
    split <;> exact .leaf rfl rfl
  · cases h
  -- a list
  next fuel' _ _ hfuel =>
    obtain rfl := Nat.succ.inj hfuel
    split at h
    · obtain ⟨rfl, _⟩ := Prod.mk.inj (Except.ok.inj h)
      exact .list nofun
    · obtain ⟨⟨xs, more⟩, hitems, heq⟩ := Except.map_eq_ok_iff.mp h
      obtain ⟨rfl, _⟩ := Prod.mk.inj heq
      exact .list (ih.items hitems)
  · cases h
  -- an object
  next fuel' _ _ hfuel =>
    obtain rfl := Nat.succ.inj hfuel
    split at h
    · obtain ⟨rfl, _⟩ := Prod.mk.inj (Except.ok.inj h)
      exact .object List.nodup_nil nofun
    · obtain ⟨⟨entries, more⟩, hentries, heq⟩ := Except.map_eq_ok_iff.mp h
      obtain ⟨rfl, _⟩ := Prod.mk.inj heq
      exact wellKeyed_ofPointEntries (ih.entries hentries)
  · exact wellKeyed_of_readScalar h

theorem items_succ (ih : ReadsKeyed longest fuel) {xs : List Json}
    (h : readItems longest (fuel + 1) room cs = .ok (xs, rest)) : ∀ x ∈ xs, x.WellKeyed := by
  rw [readItems] at h
  split at h
  · cases h
  next x more hx =>
    have hfirst : x.WellKeyed := ih.value hx
    split at h
    · obtain ⟨rfl, _⟩ := Prod.mk.inj (Except.ok.inj h)
      exact List.forall_mem_singleton.mpr hfirst
    · obtain ⟨⟨ys, last⟩, hys, heq⟩ := Except.map_eq_ok_iff.mp h
      obtain ⟨rfl, _⟩ := Prod.mk.inj heq
      exact List.forall_mem_cons.mpr ⟨hfirst, ih.items hys⟩
    · cases h

theorem entries_succ (ih : ReadsKeyed longest fuel) {es : List (List Nat × Json)}
    (h : readEntries longest (fuel + 1) room cs = .ok (es, rest)) : ∀ e ∈ es, e.2.WellKeyed := by
  unfold readEntries at h
  split at h
  · cases h
  next fuel' _ hfuel =>
    obtain rfl := Nat.succ.inj hfuel
    split at h
    · cases h
    · split at h
      · split at h
        · cases h
        next x more hx =>
          have hfirst : x.WellKeyed := ih.value hx
          split at h
          · obtain ⟨rfl, _⟩ := Prod.mk.inj (Except.ok.inj h)
            exact List.forall_mem_singleton.mpr hfirst
          · obtain ⟨⟨others, last⟩, hothers, heq⟩ := Except.map_eq_ok_iff.mp h
            obtain ⟨rfl, _⟩ := Prod.mk.inj heq
            exact List.forall_mem_cons.mpr ⟨hfirst, ih.entries hothers⟩
          · cases h
      · cases h
  · cases h

end ReadsKeyed

theorem readsKeyed (longest fuel : Nat) : ReadsKeyed longest fuel := by
  induction fuel with
  | zero => exact ⟨nofun, nofun, nofun⟩
  | succ fuel ih => exact ⟨ih.value_succ, ih.items_succ, ih.entries_succ⟩

/-- In a value that is read each object has each key once. -/
theorem wellKeyed_of_read {text : String} {j : Json} (h : read text = .ok j) : j.WellKeyed := by
  rw [read, ofChars, ofCharsWithin] at h
  split at h
  next value rest hvalue =>
    split at h
    · obtain rfl := Except.ok.inj h
      exact (readsKeyed _ _).value hvalue
    · cases h
  · cases h

/-! ## Joining -/

@[simp] theorem overlay_null (j : Json) : overlay .null j = j := by cases j <;> rfl

/-- Only an object is joined with what it is laid over. -/
theorem overlay_of_entries?_eq_none {j : Json} (h : j.entries? = none) (below : Json) :
    overlay below j = j := by
  cases j with
  | object es => cases h
  | _ => rfl

theorem overlay_of_below {below : Json} (h : below.entries? = none) (j : Json) :
    overlay below j = j := by
  cases j with
  | object es =>
      cases below with
      | object others => cases h
      | _ => rfl
  | _ => rfl

theorem get?_overlayEntries (hupper : (upper.map Prod.fst).Nodup) (lower : Entries) (k : String) :
    (overlayEntries lower upper).get? k =
      ((upper.get? k).map fun v => overlay ((lower.get? k).getD .null) v).or (lower.get? k) := by
  -- each entry is laid over what the ones before it have left, so `lower` changes on the way
  induction upper generalizing lower with
  | nil => rfl
  | cons e upper ih =>
      rw [List.map_cons, List.nodup_cons] at hupper
      rw [overlayEntries, ih hupper.2, Entries.get?_set, Entries.get?_cons]
      split
      next h =>
        subst h
        rw [Entries.get?_eq_none_iff.mpr hupper.1]
        rfl
      next => rfl

theorem mem_keys_overlayEntries (hupper : (upper.map Prod.fst).Nodup)
    (h : k ∈ (overlayEntries lower upper).map Prod.fst) :
    k ∈ lower.map Prod.fst ∨ k ∈ upper.map Prod.fst := by
  by_contra hnot
  rw [not_or, ← Entries.get?_eq_none_iff, ← Entries.get?_eq_none_iff] at hnot
  refine Entries.get?_eq_none_iff.mp ?_ h
  rw [get?_overlayEntries hupper, hnot.1, hnot.2]
  rfl

theorem get?_overlay {j : Json} (hj : j.WellKeyed) (below : Json) (hv : j.get? k = some v) :
    (overlay below j).get? k = some (overlay ((below.get? k).getD .null) v) := by
  cases hentries : below.entries? with
  | none =>
      have hbelow : below.get? k = none := by
        cases below with
        | object es => cases hentries
        | _ => rfl
      rw [overlay_of_below hentries, hbelow, Option.getD_none, overlay_null, hv]
  | some lower =>
      cases below with
      | object es =>
          cases j with
          | object upper =>
              have hlookup : Entries.get? upper k = some v := hv
              change (overlayEntries es upper).get? k = _
              rw [get?_overlayEntries hj.of_object.1, hlookup]
              rfl
          | _ => cases hv
      | _ => cases hentries

theorem get?_overlay_of_none {j : Json} (hj : j.WellKeyed) (below : Json)
    (hobject : j.entries?.isSome) (hnone : j.get? k = none) :
    (overlay below j).get? k = below.get? k := by
  cases j with
  | object upper =>
      have hlookup : Entries.get? upper k = none := hnone
      cases below with
      | object es =>
          change (overlayEntries es upper).get? k = _
          rw [get?_overlayEntries hj.of_object.1, hlookup]
          rfl
      | _ => exact hlookup
  | _ => cases hobject

/-! ## Paths of keys -/

/-- What a path of keys leads to in a value. -/
def follow? (j : Json) : List String → Option Json
  | [] => some j
  | k :: path => (j.get? k).bind fun v => v.follow? path

@[simp] theorem follow?_nil (j : Json) : j.follow? [] = some j := rfl

@[simp] theorem follow?_cons (j : Json) (k : String) (path : List String) :
    j.follow? (k :: path) = (j.get? k).bind fun v => v.follow? path := rfl

theorem WellKeyed.of_get? {j : Json} (hj : j.WellKeyed) (hv : j.get? k = some v) :
    v.WellKeyed := by
  cases j with
  | object es => exact hj.of_object.2 _ (Entries.mem_of_get? hv)
  | _ => cases hv

/-- Where the upper value has something on a path, the joined value has this, laid over what the
lower value has there. -/
theorem follow?_overlay {j : Json} (hj : j.WellKeyed) (below : Json) (hv : j.follow? path = some v) :
    (overlay below j).follow? path = some (overlay ((below.follow? path).getD .null) v) := by
  induction path generalizing j below with
  | nil =>
      obtain rfl := Option.some.inj hv
      rfl
  | cons k path ih =>
      rw [follow?_cons] at hv
      obtain ⟨u, hu, hv⟩ := Option.bind_eq_some_iff.mp hv
      rw [follow?_cons, follow?_cons, get?_overlay hj below hu, Option.bind_some,
        ih (hj.of_get? hu) _ hv]
      cases below.get? k with
      | some _ => rfl
      | none =>
          cases path with
          | nil => rfl
          | cons => rfl

/-- Where the upper value has nothing on a path, and nothing but objects on the way, the joined value
has what the lower value has there. -/
theorem follow?_overlay_of_none {j : Json} (hj : j.WellKeyed) (below : Json)
    (hnone : j.follow? path = none)
    (hway : ∀ start v, start <+: path → j.follow? start = some v → v.entries?.isSome) :
    (overlay below j).follow? path = below.follow? path := by
  induction path generalizing j below with
  | nil => cases hnone
  | cons k path ih =>
      have hobject : j.entries?.isSome := hway [] j (List.nil_prefix ..) rfl
      rw [follow?_cons, follow?_cons]
      cases hu : j.get? k with
      | none => rw [get?_overlay_of_none hj below hobject hu]
      | some u =>
          have hrest : u.follow? path = none := by rwa [follow?_cons, hu] at hnone
          have hbelow := ih (hj.of_get? hu) ((below.get? k).getD .null) hrest
            fun start v hstart hv => hway (k :: start) v (List.cons_prefix_cons.mpr ⟨rfl, hstart⟩)
              (by rw [follow?_cons, hu, Option.bind_some, hv])
          rw [get?_overlay hj below hu, Option.bind_some, hbelow]
          cases below.get? k with
          | some _ => rfl
          | none =>
              cases path with
              | nil => cases hrest
              | cons => rfl

/-- The value is joined from two others key by key, at every depth, and the upper one wins where the
two have something that cannot be joined. -/
structure Joins (lower upper joined : Json) : Prop where
  /-- What is no object in the upper value stands in the joined one. -/
  wins : ∀ path v, upper.follow? path = some v → v.entries? = none → joined.follow? path = some v
  /-- Where the upper value has an object, the joined one has an object. -/
  object : ∀ path v, upper.follow? path = some v → v.entries?.isSome →
    ∃ w, joined.follow? path = some w ∧ w.entries?.isSome
  /-- What the upper value says nothing about is as in the lower one. -/
  kept : ∀ path, upper.follow? path = none →
    (∀ start v, start <+: path → upper.follow? start = some v → v.entries?.isSome) →
    joined.follow? path = lower.follow? path

theorem isSome_entries?_overlay (below : Json) {j : Json} (h : j.entries?.isSome) :
    (overlay below j).entries?.isSome := by
  cases j with
  | object es => cases below <;> rfl
  | _ => cases h

theorem joins_overlay {upper : Json} (h : upper.WellKeyed) (lower : Json) :
    Joins lower upper (overlay lower upper) where
  wins path v hv hleaf := by rw [follow?_overlay h lower hv, overlay_of_entries?_eq_none hleaf]
  object path v hv hobject := ⟨_, follow?_overlay h lower hv, isSome_entries?_overlay _ hobject⟩
  kept path hnone hway := follow?_overlay_of_none h lower hnone hway

end CodeConventions.Json
