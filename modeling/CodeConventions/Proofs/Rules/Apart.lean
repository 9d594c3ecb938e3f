import CodeConventions.Proofs.Except
import CodeConventions.Proofs.Tree.Separated
import CodeConventions.Rules.Remark

/-!
# Remarks with ranges of their own

A merge keeps one finding for each range, so it loses nothing of a rule whose remarks all have
ranges of their own.  Such remarks are *apart*.

## Strategy

A remark shows a node.  Where the nodes that a rule shows are of a sort that ranges tell apart, such
as the innermost ones, remarks with one range show one node.  It remains that no node is shown
twice: a rule goes through some things and shows a few nodes for each, and from a node that is shown
there is a way back to the thing that it is shown for.
-/

namespace CodeConventions

variable {α : Type} {d : Document} {m n : Node} {S : Node → Prop}

/-! ## Remarks about some things -/

theorem remarksFor_cons_eq_ok {x : α} {xs : List α} {f : α → Remarks} {rs : List Remark}
    (h : remarksFor (x :: xs) f = .ok rs) :
    ∃ found more, f x = .ok found ∧ remarksFor xs f = .ok more ∧ found ++ more = rs := by
  rw [remarksFor] at h
  cases hx : f x with
  | error crash =>
      rw [hx] at h
      cases h
  | ok found =>
      rw [hx] at h
      cases hxs : remarksFor xs f with
      | error crash =>
          rw [hxs] at h
          cases h
      | ok more =>
          rw [hxs] at h
          exact ⟨found, more, rfl, rfl, Except.ok.inj h⟩

/-- Where no remark crashes, the remarks are what is found for one thing after the other. -/
theorem remarksFor_eq_ok {xs : List α} {f : α → Remarks} {rs : List Remark}
    (h : remarksFor xs f = .ok rs) :
    ∃ g : α → List Remark, (∀ x ∈ xs, f x = .ok (g x)) ∧ rs = xs.flatMap g := by
  refine ⟨fun x => (f x).toOption.getD [], ?_⟩
  induction xs generalizing rs with
  | nil => exact ⟨fun x hx => absurd hx List.not_mem_nil, (Except.ok.inj h).symm⟩
  | cons x xs ih =>
      obtain ⟨found, more, hfound, hmore, rfl⟩ := remarksFor_cons_eq_ok h
      obtain ⟨hall, hflat⟩ := ih hmore
      refine ⟨fun y hy => ?_, ?_⟩
      · rcases List.mem_cons.mp hy with rfl | hy
        · simp only [hfound]
          rfl
        · exact hall y hy
      · rw [List.flatMap_cons, ← hflat, hfound]
        rfl

/-- Where nothing crashes of which remarks are made, no remark does. -/
theorem remarksFor_eq_flatMap {xs : List α} {f : α → Remarks} {g : α → List Remark}
    (h : ∀ x ∈ xs, f x = .ok (g x)) : remarksFor xs f = .ok (xs.flatMap g) := by
  induction xs with
  | nil => rfl
  | cons x xs ih =>
      rw [remarksFor, h x List.mem_cons_self, ih fun y hy => h y (List.mem_cons_of_mem x hy),
        List.flatMap_cons]

/-! ## Remarks that are apart -/

namespace Remark

/-- The range that the remark shows. -/
def spot (r : Remark) : Int × Int := (r.span.start, r.span.stop)

/-- The remark shows the node. -/
def Shows (r : Remark) (n : Node) : Prop := r.spot = ((n.start : Int), (n.stop : Int))

end Remark

theorem Document.remark_shows (d : Document) (n : Node) (message : String) :
    (d.remark n message).Shows n := rfl

theorem Remark.Shows.spot_eq {r q : Remark} (hr : r.Shows m) (hq : q.Shows n)
    (h : r.spot = q.spot) : m.spot = n.spot := by
  rw [hr, hq, Prod.mk.injEq, Int.ofNat_inj, Int.ofNat_inj] at h
  exact Node.spot_eq_iff.mpr h

/-- No two of the remarks have one range. -/
def Apart (rs : List Remark) : Prop := (rs.map Remark.spot).Nodup

/-- The remarks show nodes with the property, and no two of them have one range. -/
structure ApartOn (P : Node → Prop) (rs : List Remark) : Prop where
  apart : Apart rs
  shows : ∀ r ∈ rs, ∃ n, P n ∧ r.Shows n

namespace ApartOn

variable {P Q : Node → Prop} {rs qs : List Remark}

theorem nil : ApartOn P [] := ⟨List.nodup_nil, fun _ hr => absurd hr List.not_mem_nil⟩

theorem singleton (hn : P n) (message : String) : ApartOn P [d.remark n message] := by
  refine ⟨List.nodup_singleton _, fun r hr => ⟨n, hn, ?_⟩⟩
  obtain rfl := List.mem_singleton.mp hr
  exact d.remark_shows n message

theorem self (message : String) : ApartOn (· = n) [d.remark n message] :=
  singleton (P := (· = n)) rfl message

theorem mono (h : ApartOn P rs) (hPQ : ∀ n, P n → Q n) : ApartOn Q rs :=
  ⟨h.apart, fun r hr => (h.shows r hr).imp fun n hn => ⟨hPQ n hn.1, hn.2⟩⟩

theorem append_of_ne (hrs : ApartOn P rs) (hqs : ApartOn Q qs)
    (hPQ : ∀ m n, P m → Q n → m.spot ≠ n.spot) : ApartOn (fun n => P n ∨ Q n) (rs ++ qs) := by
  constructor
  · rw [Apart, List.map_append, List.nodup_append]
    refine ⟨hrs.apart, hqs.apart, fun s hs t ht heq => ?_⟩
    obtain ⟨r, hr, rfl⟩ := List.mem_map.mp hs
    obtain ⟨q, hq, rfl⟩ := List.mem_map.mp ht
    obtain ⟨m, hm, hrm⟩ := hrs.shows r hr
    obtain ⟨n, hn, hqn⟩ := hqs.shows q hq
    exact hPQ m n hm hn (hrm.spot_eq hqn heq)
  · intro r hr
    rcases List.mem_append.mp hr with hr | hr
    · exact (hrs.shows r hr).imp fun n hn => ⟨Or.inl hn.1, hn.2⟩
    · exact (hqs.shows r hr).imp fun n hn => ⟨Or.inr hn.1, hn.2⟩

/-- Remarks about nodes of two sorts are apart where no node is of both sorts. -/
theorem append (hS : Separated S) (hrs : ApartOn P rs) (hqs : ApartOn Q qs)
    (hP : ∀ n, P n → S n) (hQ : ∀ n, Q n → S n) (hPQ : ∀ n, P n → ¬ Q n) :
    ApartOn (fun n => P n ∨ Q n) (rs ++ qs) :=
  append_of_ne hrs hqs fun m n hm hn hspot =>
    hPQ n (hS m n (hP m hm) (hQ n hn) hspot ▸ hm) hn

variable {xs : List α} {A : α → Node → Prop}

/-- Remarks about different things are apart where no two of the things are about one range. -/
theorem flatMap_of_inj (hxs : xs.Nodup) {f : α → List Remark}
    (hf : ∀ x ∈ xs, ApartOn (A x) (f x))
    (hinj : ∀ x ∈ xs, ∀ y ∈ xs, ∀ m n, A x m → A y n → m.spot = n.spot → x = y) :
    ApartOn (fun n => ∃ x ∈ xs, A x n) (xs.flatMap f) := by
  constructor
  · rw [Apart, List.map_flatMap, List.nodup_flatMap]
    refine ⟨fun x hx => (hf x hx).apart, hxs.imp_of_mem fun {x y} hx hy hne => ?_⟩
    intro s hsx hsy
    obtain ⟨r, hr, rfl⟩ := List.mem_map.mp hsx
    obtain ⟨q, hq, hspot⟩ := List.mem_map.mp hsy
    obtain ⟨m, hm, hrm⟩ := (hf x hx).shows r hr
    obtain ⟨n, hn, hqn⟩ := (hf y hy).shows q hq
    exact hne (hinj x hx y hy m n hm hn (hrm.spot_eq hqn hspot.symm))
  · intro r hr
    obtain ⟨x, hx, hrx⟩ := List.mem_flatMap.mp hr
    exact ((hf x hx).shows r hrx).imp fun n hn => ⟨⟨x, hx, hn.1⟩, hn.2⟩

/-- Remarks about different things are apart where the nodes that they show lead back to the
things. -/
theorem flatMap (hS : Separated S) (hxs : xs.Nodup) {f : α → List Remark}
    (back : Node → Option α) (hf : ∀ x ∈ xs, ApartOn (A x) (f x))
    (hback : ∀ x ∈ xs, ∀ n, A x n → S n ∧ back n = some x) :
    ApartOn (fun n => ∃ x ∈ xs, A x n) (xs.flatMap f) := by
  refine flatMap_of_inj hxs hf fun x hx y hy m n hm hn hspot => ?_
  obtain ⟨hmS, hmx⟩ := hback x hx m hm
  obtain ⟨hnS, hny⟩ := hback y hy n hn
  obtain rfl := hS m n hmS hnS hspot
  exact Option.some_inj.mp (hmx.symm.trans hny)

theorem filterMap (hS : Separated S) (hxs : xs.Nodup) {f : α → Option Remark}
    (back : Node → Option α) (hf : ∀ x ∈ xs, ∀ r, f x = some r → ∃ n, A x n ∧ r.Shows n)
    (hback : ∀ x ∈ xs, ∀ n, A x n → S n ∧ back n = some x) :
    ApartOn (fun n => ∃ x ∈ xs, A x n) (xs.filterMap f) := by
  rw [List.filterMap_eq_flatMap_toList]
  refine flatMap hS hxs back (fun x hx => ⟨?_, fun r hr => ?_⟩) hback
  · cases f x with
    | none => exact List.nodup_nil
    | some r => exact List.nodup_singleton _
  · exact hf x hx r (Option.mem_toList.mp hr)

theorem remarksFor_of_inj (hxs : xs.Nodup) {f : α → Remarks}
    (hrs : CodeConventions.remarksFor xs f = .ok rs)
    (hf : ∀ x ∈ xs, ∀ found, f x = .ok found → ApartOn (A x) found)
    (hinj : ∀ x ∈ xs, ∀ y ∈ xs, ∀ m n, A x m → A y n → m.spot = n.spot → x = y) :
    ApartOn (fun n => ∃ x ∈ xs, A x n) rs := by
  obtain ⟨g, hg, rfl⟩ := remarksFor_eq_ok hrs
  exact flatMap_of_inj hxs (fun x hx => hf x hx _ (hg x hx)) hinj

theorem remarksFor (hS : Separated S) (hxs : xs.Nodup) {f : α → Remarks}
    (hrs : CodeConventions.remarksFor xs f = .ok rs) (back : Node → Option α)
    (hf : ∀ x ∈ xs, ∀ found, f x = .ok found → ApartOn (A x) found)
    (hback : ∀ x ∈ xs, ∀ n, A x n → S n ∧ back n = some x) :
    ApartOn (fun n => ∃ x ∈ xs, A x n) rs := by
  obtain ⟨g, hg, rfl⟩ := remarksFor_eq_ok hrs
  exact flatMap hS hxs back (fun x hx => hf x hx _ (hg x hx)) hback

/-- Remarks that show the things themselves are apart. -/
theorem filterMap_self (hS : Separated S) {ns : List Node} (hns : ns.Nodup)
    {f : Node → Option Remark} (hf : ∀ n ∈ ns, ∀ r, f n = some r → S n ∧ r.Shows n) :
    ApartOn (fun n => n ∈ ns ∧ S n) (ns.filterMap f) := by
  refine (filterMap (A := fun x n => n = x ∧ S n) hS hns some (fun n hn r hr => ?_) ?_).mono ?_
  · exact ⟨n, ⟨rfl, (hf n hn r hr).1⟩, (hf n hn r hr).2⟩
  · rintro n _ m ⟨rfl, hm⟩
    exact ⟨hm, rfl⟩
  · rintro m ⟨n, hn, rfl, hm⟩
    exact ⟨hn, hm⟩

theorem map_remark (hS : Separated S) {ns : List Node} (hns : ns.Nodup) (hsort : ∀ n ∈ ns, S n)
    {message : Node → String} : ApartOn (· ∈ ns) (ns.map fun n => d.remark n (message n)) := by
  rw [← List.filterMap_eq_map]
  refine (filterMap_self hS hns fun n hn r hr => ?_).mono fun _ hn => hn.1
  obtain rfl := Option.some_inj.mp hr
  exact ⟨hsort n hn, d.remark_shows n _⟩

end ApartOn

/-! ## Remarks about firm nodes -/

namespace Document

/-- The node is of one of the kinds, and is innermost. -/
def InnerOf (d : Document) (kinds : List String) (n : Node) : Prop := d.Inner n ∧ n.kind ∈ kinds

variable {kinds others : List String} {rs qs : List Remark}

theorem Nested.separated_innerOf (hd : d.Nested) : Separated (d.InnerOf kinds) :=
  hd.separated_inner.mono fun _ hn => hn.1

theorem Nested.apartOn_append_innerOf (hd : d.Nested) (hrs : ApartOn (d.InnerOf kinds) rs)
    (hqs : ApartOn (d.InnerOf others) qs) (hdisjoint : ∀ kind ∈ kinds, kind ∉ others) :
    ApartOn (d.InnerOf (kinds ++ others)) (rs ++ qs) := by
  refine (hrs.append hd.separated_inner hqs (fun n hn => hn.1) (fun n hn => hn.1) ?_).mono ?_
  · exact fun n hn hn' => hdisjoint n.kind hn.2 hn'.2
  · rintro n (⟨hn, hkind⟩ | ⟨hn, hkind⟩)
    · exact ⟨hn, List.mem_append_left _ hkind⟩
    · exact ⟨hn, List.mem_append_right _ hkind⟩

/-- A rule that shows firm nodes that it finds keeps its remarks apart. -/
theorem Regular.apartOn_find (hd : d.Regular) {ns : List Node} {message : Node → String}
    (hns : ns.Sublist (d.find kinds)) (hkinds : ∀ kind ∈ kinds, kind ∈ firmKinds) :
    ApartOn (d.InnerOf kinds) (ns.map fun n => d.remark n (message n)) := by
  have hinner : ∀ n ∈ ns, d.Inner n := fun n hn => hd.inner_of_mem_find (hns.subset hn) hkinds
  refine (ApartOn.map_remark hd.separated_inner ((hd.find_nodup _).sublist hns) hinner).mono ?_
  exact fun n hn => ⟨hinner n hn, (mem_of_mem_find (hns.subset hn)).2⟩

theorem Regular.apartOn_remarksFor_find (hd : d.Regular) {f : Node → Remarks}
    (hkinds : ∀ kind ∈ kinds, kind ∈ firmKinds)
    (hrs : CodeConventions.remarksFor (d.find kinds) f = .ok rs)
    (hf : ∀ n found, f n = .ok found → ApartOn (· = n) found) :
    ApartOn (d.InnerOf kinds) rs := by
  refine (ApartOn.remarksFor hd.separated_inner (hd.find_nodup _) hrs some
    (fun n _ found => hf n found) ?_).mono ?_
  · rintro n hn m rfl
    exact ⟨hd.inner_of_mem_find hn hkinds, rfl⟩
  · rintro m ⟨n, hn, rfl⟩
    exact ⟨hd.inner_of_mem_find hn hkinds, (mem_of_mem_find hn).2⟩

/-! ## Findings at a node -/

/-- The findings that show the node. -/
def findingsAt (d : Document) (fs : List Finding) (n : Node) : List Finding :=
  fs.filter fun f => f.span = d.spanOf n

theorem spanOf_eq_iff : d.spanOf m = d.spanOf n ↔ m.spot = n.spot := by
  rw [Node.spot_eq_iff]
  constructor
  · intro h
    exact ⟨Int.ofNat_inj.mp (congrArg Span.start h), Int.ofNat_inj.mp (congrArg Span.stop h)⟩
  · rintro ⟨hstart, hstop⟩
    rw [spanOf, spanOf, hstart, hstop]

/-! ## What is said of nodes

A finding has only the range of the node that it is about.  Where several nodes may have one range,
what a rule finds is said of nodes first, and the findings are made of what is said.
-/

/-- The finding of the rule that says something of a node. -/
def findingOn (d : Document) (rule : String) (said : Node × String) : Finding :=
  ⟨rule, d.spanOf said.1, said.2⟩

/-- All that is said of the node. -/
def saidOf (said : List (Node × String)) (n : Node) : List String :=
  (said.filter fun p => p.1 = n).map Prod.snd

variable {said : List (Node × String)}

theorem saidOf_eq_nil (h : ∀ p ∈ said, p.1 ≠ n) : saidOf said n = [] := by
  rw [saidOf, List.filter_eq_nil_iff.mpr fun p hp => ?_, List.map_nil]
  rw [decide_eq_true_eq]
  exact h p hp

/-- All that may be said of the node is said of it. -/
theorem saidOf_message? (message : Option String) :
    saidOf (message.map (Prod.mk n)).toList n = message.toList := by
  cases message with
  | none => rfl
  | some text => simp [saidOf]

theorem map_saidOf_of_forall {β : Type} (f : Node × String → β) (h : ∀ p ∈ said, p.1 = n) :
    (saidOf said n).map (fun message => f (n, message)) = said.map f := by
  rw [saidOf, List.filter_eq_self.mpr fun p hp => decide_eq_true (h p hp), List.map_map]
  refine List.map_congr_left fun p hp => ?_
  obtain rfl := h p hp
  rfl

/-- Of a node only that is said which comes from the one thing that has something to say of it. -/
theorem saidOf_flatMap {xs : List α} (hxs : xs.Nodup) {x : α} (hx : x ∈ xs)
    {g : α → List (Node × String)} (h : ∀ y ∈ xs, y ≠ x → ∀ p ∈ g y, p.1 ≠ n) :
    saidOf (xs.flatMap g) n = saidOf (g x) n := by
  obtain ⟨before, after, rfl⟩ := List.append_of_mem hx
  have hnot : x ∉ before ++ after := (List.nodup_cons.mp (List.nodup_middle.mp hxs)).1
  have hnone : ∀ ys : List α, ys ⊆ before ++ after → saidOf (ys.flatMap g) n = [] := by
    intro ys hys
    apply saidOf_eq_nil
    intro p hp
    obtain ⟨y, hy, hp⟩ := List.mem_flatMap.mp hp
    have hmem := hys hy
    refine h y ?_ (fun heq => hnot (heq ▸ hmem)) p hp
    rcases List.mem_append.mp hmem with hmem | hmem
    · exact List.mem_append_left _ hmem
    · exact List.mem_append_right _ (List.mem_cons_of_mem x hmem)
  rw [List.flatMap_append, List.flatMap_cons, saidOf, List.filter_append, List.filter_append,
    List.map_append, List.map_append, ← saidOf, ← saidOf, ← saidOf,
    hnone before (List.subset_append_left _ _), hnone after (List.subset_append_right _ _),
    List.nil_append, List.append_nil]

/-- Where nothing is said of another node with its range, the findings at a node are what is said
of it. -/
theorem findingsAt_map_findingOn (rule : String) (h : ∀ p ∈ said, p.1.spot = n.spot → p.1 = n) :
    d.findingsAt (said.map (d.findingOn rule)) n =
      (saidOf said n).map fun message => d.findingOn rule (n, message) := by
  have hfilter : (said.filter fun p => d.spanOf p.1 = d.spanOf n) =
      said.filter fun p => p.1 = n := by
    refine List.filter_congr fun p hp => decide_eq_decide.mpr ⟨fun hspan => ?_, fun heq => ?_⟩
    · exact h p hp (spanOf_eq_iff.mp hspan)
    · rw [heq]
  calc d.findingsAt (said.map (d.findingOn rule)) n
      = (said.filter fun p => d.spanOf p.1 = d.spanOf n).map (d.findingOn rule) := List.filter_map
    _ = (said.filter fun p => p.1 = n).map (d.findingOn rule) := by rw [hfilter]
    _ = (saidOf said n).map fun message => d.findingOn rule (n, message) := by
        rw [saidOf, List.map_map]
        refine List.map_congr_left fun p hp => ?_
        obtain rfl := of_decide_eq_true (List.mem_filter.mp hp).2
        rfl

end Document

end CodeConventions
