import Mathlib

/-!
# Results that are values

When a computation that may fail gives a value, so does each part of it; when it fails, one of its
parts does.
-/

namespace Except

variable {ε δ α β γ : Type}

theorem map_map (x : Except ε α) (f : α → β) (g : β → γ) : (x.map f).map g = x.map (g ∘ f) := by
  cases x <;> rfl

theorem map_eq_ok_iff {x : Except ε α} {f : α → β} {b : β} :
    x.map f = .ok b ↔ ∃ a, x = .ok a ∧ f a = b := by
  cases x with
  | error e => simp [Except.map]
  | ok a => simp [Except.map]

theorem map_eq_error_iff {x : Except ε α} {f : α → β} {e : ε} :
    x.map f = .error e ↔ x = .error e := by
  cases x with
  | error e => simp [Except.map]
  | ok a => simp [Except.map]

theorem mapError_eq_ok_iff {x : Except ε α} {f : ε → δ} {a : α} :
    x.mapError f = .ok a ↔ x = .ok a := by
  cases x with
  | error e => simp [Except.mapError]
  | ok b => simp [Except.mapError]

theorem mapError_eq_error_iff {x : Except ε α} {f : ε → δ} (hf : f.Injective) {e : ε} :
    x.mapError f = .error (f e) ↔ x = .error e := by
  cases x with
  | error d => simp [Except.mapError, hf.eq_iff]
  | ok a => simp [Except.mapError]

theorem mapError_bind (x : Except ε α) (f : α → Except ε β) (g : ε → δ) :
    (x >>= f).mapError g = x.mapError g >>= fun a => (f a).mapError g := by
  cases x <;> rfl

theorem bind_eq_ok_iff {x : Except ε α} {f : α → Except ε β} {b : β} :
    (x >>= f) = .ok b ↔ ∃ a, x = .ok a ∧ f a = .ok b := by
  cases x with
  | error e => simp [bind, Except.bind]
  | ok a => simp [bind, Except.bind]

theorem bind_eq_error_iff {x : Except ε α} {f : α → Except ε β} {e : ε} :
    (x >>= f) = .error e ↔ x = .error e ∨ ∃ a, x = .ok a ∧ f a = .error e := by
  cases x with
  | error e => simp [bind, Except.bind]
  | ok a => simp [bind, Except.bind]

theorem toOption_eq_some_iff {x : Except ε α} {a : α} : x.toOption = some a ↔ x = .ok a := by
  cases x with
  | error e => simp [Except.toOption]
  | ok b => simp [Except.toOption]

/-- Where no element fails, the values are those of the elements, in order. -/
theorem exists_map_of_mapM_eq_ok [Inhabited β] {f : α → Except ε β} {xs : List α} {ys : List β}
    (h : xs.mapM f = .ok ys) : ∃ g : α → β, (∀ x ∈ xs, f x = .ok (g x)) ∧ ys = xs.map g := by
  refine ⟨fun x => (f x).toOption.getD default, ?_⟩
  induction xs generalizing ys with
  | nil => exact ⟨fun x hx => absurd hx List.not_mem_nil, (Except.ok.inj h).symm⟩
  | cons x xs ih =>
      rw [List.mapM_cons] at h
      obtain ⟨y, hy, h⟩ := bind_eq_ok_iff.mp h
      obtain ⟨rest, hrest, h⟩ := bind_eq_ok_iff.mp h
      obtain ⟨hall, hmap⟩ := ih hrest
      refine ⟨fun z hz => ?_, ?_⟩
      · rcases List.mem_cons.mp hz with rfl | hz
        · simp only [hy]
          rfl
        · exact hall z hz
      · rw [← Except.ok.inj h, List.map_cons, ← hmap, hy]
        rfl

/-- Where the elements do not all have values, one of them fails. -/
theorem exists_of_mapM_eq_error {f : α → Except ε β} {xs : List α} {e : ε}
    (h : xs.mapM f = .error e) : ∃ x ∈ xs, f x = .error e := by
  induction xs with
  | nil => exact nomatch h
  | cons x xs ih =>
      rw [List.mapM_cons] at h
      rcases bind_eq_error_iff.mp h with hx | ⟨y, _, h⟩
      · exact ⟨x, List.mem_cons_self, hx⟩
      · rcases bind_eq_error_iff.mp h with hrest | ⟨ys, _, hpure⟩
        · obtain ⟨z, hz, hfz⟩ := ih hrest
          exact ⟨z, List.mem_cons_of_mem x hz, hfz⟩
        · exact nomatch hpure

end Except
