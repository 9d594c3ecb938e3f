import CodeConventions.Proofs.Except
import CodeConventions.Proofs.Rules.Apart
import CodeConventions.Rules.Check

/-!
# Options that let more pass, and remarks without new spans

Options relax to others that let pass at least as much, field by field.  A flag that lets something
pass may be set and a flag that asks for more may be taken back; a list of names that are let pass
may grow, and a list of names that are looked for may shrink.  A degree of strictness may only go
down.  A flag that only chooses what is said may change freely.  A check relaxes to the same check
with such options (`Check.RelaxesTo`).

Remarks *cover* others if the others show no new spans; what is said of a span may differ.  A
computation of remarks *narrows to* another one if the remarks of the first cover those of the
second, unless one of the two crashes.  Rules put their remarks together in the same way under all
options, and both relations follow from the parts: from what is remarked of each thing, and from the
conditions under which nothing is.
-/

namespace CodeConventions

/-! ## Bindings, exceptions and changes -/

/-- More names are ignored, and perhaps the heads of loops. -/
structure ReassignableOptions.RelaxesTo (o o' : ReassignableOptions) : Prop where
  allowInForLoopInit : o.allowInForLoopInit ≤ o'.allowInForLoopInit
  ignoreIdentifierPattern : o.ignoreIdentifierPattern ⊆ o'.ignoreIdentifierPattern

structure ThrowOptions.RelaxesTo (o o' : ThrowOptions) : Prop where
  allowInAsyncFunctions : o.allowInAsyncFunctions ≤ o'.allowInAsyncFunctions

/-- More names are ignored, and perhaps classes or collections. -/
structure MutationOptions.RelaxesTo (o o' : MutationOptions) : Prop where
  ignoreIdentifierPattern : o.ignoreIdentifierPattern ⊆ o'.ignoreIdentifierPattern
  ignoreClasses : o.ignoreClasses ≤ o'.ignoreClasses
  ignoreMapsAndSets : o.ignoreMapsAndSets ≤ o'.ignoreMapsAndSets

/-! ## Types -/

structure SignatureOptions.RelaxesTo (o o' : SignatureOptions) : Prop where
  ignoreIfReadonlyWrapped : o.ignoreIfReadonlyWrapped ≤ o'.ignoreIfReadonlyWrapped

/-- More names are ignored, or all types of the family are. -/
structure TypeFamilyOptions.RelaxesTo (o o' : TypeFamilyOptions) : Prop where
  enforcement : o.enforcement = .off → o'.enforcement = .off
  ignoreNamePattern : o.ignoreNamePattern ⊆ o'.ignoreNamePattern

/-- Each family of types relaxes. -/
structure WrittenTypeOptions.RelaxesTo (o o' : WrittenTypeOptions) : Prop where
  parameters : o.parameters.RelaxesTo o'.parameters
  returnTypes : o.returnTypes.RelaxesTo o'.returnTypes
  variableTypes : o.variableTypes.RelaxesTo o'.variableTypes

structure DeclaredTypeOptions.RelaxesTo (o o' : DeclaredTypeOptions) : Prop where
  identifiers : o.identifiers ⊆ o'.identifiers
  ignoreInterfaces : o.ignoreInterfaces ≤ o'.ignoreInterfaces

/-! ## Components and markup -/

/-- More functions are said to track what they are given. -/
structure ReactivityOptions.RelaxesTo (o o' : ReactivityOptions) : Prop where
  customReactiveFunctions : o.customReactiveFunctions ⊆ o'.customReactiveFunctions

structure RawMarkupOptions.RelaxesTo (o o' : RawMarkupOptions) : Prop where
  allowStatic : o.allowStatic ≤ o'.allowStatic

/-- Names that are compared in another way are repeated elsewhere, so the way stays the same. -/
structure RepeatedOptions.RelaxesTo (o o' : RepeatedOptions) : Prop where
  ignoreCase : o.ignoreCase = o'.ignoreCase

structure PrefixOptions.RelaxesTo (o o' : PrefixOptions) : Prop where
  allowedNamespaces : o.allowedNamespaces ⊆ o'.allowedNamespaces

structure HandlerOptions.RelaxesTo (o o' : HandlerOptions) : Prop where
  ignoreCase : o.ignoreCase ≤ o'.ignoreCase
  warnOnSpread : o'.warnOnSpread ≤ o.warnOnSpread

/-- Whether an import is proposed does not matter. -/
structure UndefinedOptions.RelaxesTo (o o' : UndefinedOptions) : Prop where
  allowGlobals : o.allowGlobals ≤ o'.allowGlobals

/-- From all native elements to those that are always empty, and from there to none. -/
inductive NativeClosing.RelaxesTo : NativeClosing → NativeClosing → Prop where
  | ofAll (n : NativeClosing) : RelaxesTo .all n
  | void : RelaxesTo .void .void
  | toOff (n : NativeClosing) : RelaxesTo n .off

structure EmptyElementOptions.RelaxesTo (o o' : EmptyElementOptions) : Prop where
  component : o.component = .off → o'.component = .off
  html : o.html.RelaxesTo o'.html

/-- Fewer elements must be written as one tag. -/
theorem EmptyElementOptions.RelaxesTo.covers_le {o o' : EmptyElementOptions}
    (h : o.RelaxesTo o') (name : String) : o'.covers name ≤ o.covers name := by
  obtain ⟨component, html⟩ := o
  obtain ⟨component', html'⟩ := o'
  obtain ⟨hcomponent, hhtml⟩ := h
  unfold covers
  split
  next =>
    cases hhtml with
    | ofAll html => exact Bool.le_true _
    | void => exact Bool.le_refl _
    | toOff html => exact Bool.false_le _
  next =>
    cases component with
    | all => exact Bool.le_true _
    | off =>
        obtain rfl : component' = .off := hcomponent rfl
        exact Bool.le_refl _

structure StyleOptions.RelaxesTo (o o' : StyleOptions) : Prop where
  styleProps : o'.styleProps ⊆ o.styleProps
  allowString : o.allowString ≤ o'.allowString

structure ClassListOptions.RelaxesTo (o o' : ClassListOptions) : Prop where
  classnames : o'.classnames ⊆ o.classnames

structure QueryKeyOptions.RelaxesTo (o o' : QueryKeyOptions) : Prop where
  allowlist : o.allowlist ⊆ o'.allowlist

/-! ## Checks -/

/-- The two are one check with options, and the options of the second let pass at least as much. -/
inductive Check.RelaxesTo : Check → Check → Prop where
  | reassignableBindings {o o' : ReassignableOptions} (h : o.RelaxesTo o') :
      RelaxesTo (.reassignableBindings o) (.reassignableBindings o')
  | throws {o o' : ThrowOptions} (h : o.RelaxesTo o') : RelaxesTo (.throws o) (.throws o')
  | changesToConstants {o o' : MutationOptions} (h : o.RelaxesTo o') :
      RelaxesTo (.changesToConstants o) (.changesToConstants o')
  | methodSignatures {o o' : SignatureOptions} (h : o.RelaxesTo o') :
      RelaxesTo (.methodSignatures o) (.methodSignatures o')
  | writtenTypes {o o' : WrittenTypeOptions} (h : o.RelaxesTo o') :
      RelaxesTo (.writtenTypes o) (.writtenTypes o')
  | declaredTypes {o o' : DeclaredTypeOptions} (h : o.RelaxesTo o') :
      RelaxesTo (.declaredTypes o) (.declaredTypes o')
  | reactivity {o o' : ReactivityOptions} (h : o.RelaxesTo o') :
      RelaxesTo (.reactivity o) (.reactivity o')
  | rawMarkup {o o' : RawMarkupOptions} (h : o.RelaxesTo o') :
      RelaxesTo (.rawMarkup o) (.rawMarkup o')
  | repeatedAttributes {o o' : RepeatedOptions} (h : o.RelaxesTo o') :
      RelaxesTo (.repeatedAttributes o) (.repeatedAttributes o')
  | unknownPrefixes {o o' : PrefixOptions} (h : o.RelaxesTo o') :
      RelaxesTo (.unknownPrefixes o) (.unknownPrefixes o')
  | eventHandlers {o o' : HandlerOptions} (h : o.RelaxesTo o') :
      RelaxesTo (.eventHandlers o) (.eventHandlers o')
  | undefinedNames {o o' : UndefinedOptions} (h : o.RelaxesTo o') :
      RelaxesTo (.undefinedNames o) (.undefinedNames o')
  | emptyElements {o o' : EmptyElementOptions} (h : o.RelaxesTo o') :
      RelaxesTo (.emptyElements o) (.emptyElements o')
  | styles {o o' : StyleOptions} (h : o.RelaxesTo o') : RelaxesTo (.styles o) (.styles o')
  | joinedClasses {o o' : ClassListOptions} (h : o.RelaxesTo o') :
      RelaxesTo (.joinedClasses o) (.joinedClasses o')
  | incompleteKeys {o o' : QueryKeyOptions} (h : o.RelaxesTo o') :
      RelaxesTo (.incompleteKeys o) (.incompleteKeys o')

variable {α : Type} {d : Document} {n : Node} {rs rs' qs qs' : List Remark}

/-! ## Lists of remarks -/

/-- The first remarks show all spans that the second show. -/
def Covers (rs qs : List Remark) : Prop := ∀ q ∈ qs, ∃ r ∈ rs, r.span = q.span

namespace Covers

theorem refl (rs : List Remark) : Covers rs rs := fun r hr => ⟨r, hr, rfl⟩

theorem nil (rs : List Remark) : Covers rs [] := fun _ hq => absurd hq List.not_mem_nil

theorem append (hrs : Covers rs rs') (hqs : Covers qs qs') : Covers (rs ++ qs) (rs' ++ qs') := by
  intro q hq
  rcases List.mem_append.mp hq with hq | hq
  · obtain ⟨r, hr, hspan⟩ := hrs q hq
    exact ⟨r, List.mem_append_left qs hr, hspan⟩
  · obtain ⟨r, hr, hspan⟩ := hqs q hq
    exact ⟨r, List.mem_append_right rs hr, hspan⟩

/-- What is said of the nodes does not matter, and nodes may be left out. -/
theorem map_remark {ms ns : List Node} (hsubset : ms ⊆ ns) {before after : Node → String} :
    Covers (ns.map fun n => d.remark n (before n)) (ms.map fun n => d.remark n (after n)) := by
  intro q hq
  obtain ⟨n, hn, rfl⟩ := List.mem_map.mp hq
  exact ⟨d.remark n (before n), List.mem_map_of_mem (hsubset hn), rfl⟩

theorem singleton (n : Node) (before after : String) :
    Covers [d.remark n before] [d.remark n after] := by
  intro q hq
  have hspan : (d.remark n before).span = q.span := by
    rw [List.mem_singleton.mp hq]
    rfl
  exact ⟨d.remark n before, List.mem_singleton_self _, hspan⟩

theorem flatMap {xs ys : List α} {f g : α → List Remark} (hsubset : ys ⊆ xs)
    (h : ∀ y ∈ ys, Covers (f y) (g y)) : Covers (xs.flatMap f) (ys.flatMap g) := by
  intro q hq
  obtain ⟨y, hy, hq⟩ := List.mem_flatMap.mp hq
  obtain ⟨r, hr, hspan⟩ := h y hy q hq
  exact ⟨r, List.mem_flatMap.mpr ⟨y, hsubset hy, hr⟩, hspan⟩

theorem filterMap {xs : List α} {f g : α → Option Remark}
    (h : ∀ x ∈ xs, ∀ q, g x = some q → ∃ r, f x = some r ∧ r.span = q.span) :
    Covers (xs.filterMap f) (xs.filterMap g) := by
  intro q hq
  obtain ⟨x, hx, hq⟩ := List.mem_filterMap.mp hq
  obtain ⟨r, hr, hspan⟩ := h x hx q hq
  exact ⟨r, List.mem_filterMap.mpr ⟨x, hx, hr⟩, hspan⟩

/-- What is wrong about a node does not matter, only whether something is. -/
theorem exists_map_remark {before after : Option String} {q : Remark}
    (h : before = none → after = none) (hq : after.map (d.remark n) = some q) :
    ∃ r, before.map (d.remark n) = some r ∧ r.span = q.span := by
  obtain ⟨message, hmessage, rfl⟩ := Option.map_eq_some_iff.mp hq
  cases before with
  | none => exact absurd (hmessage.symm.trans (h rfl)) (Option.some_ne_none message)
  | some other => exact ⟨d.remark n other, rfl, rfl⟩

/-- Nothing is remarked under a condition, which holds more often than before. -/
theorem guarded {p p' : Prop} [Decidable p] [Decidable p'] (hp : p → p')
    (h : ¬p' → Covers rs qs) : Covers (if p then [] else rs) (if p' then [] else qs) := by
  by_cases hp' : p'
  · rw [if_pos hp']
    exact nil _
  · rw [if_neg hp', if_neg fun hp'' => hp' (hp hp'')]
    exact h hp'

/-- Something is remarked under a condition, which holds less often than before. -/
theorem conditional {p p' : Prop} [Decidable p] [Decidable p'] (hp : p' → p)
    (h : Covers rs qs) : Covers (if p then rs else []) (if p' then qs else []) := by
  by_cases hp' : p'
  · rw [if_pos hp', if_pos (hp hp')]
    exact h
  · rw [if_neg hp']
    exact nil _

theorem map_span_subset (h : Covers rs qs) : qs.map Remark.span ⊆ rs.map Remark.span := by
  intro s hs
  obtain ⟨q, hq, rfl⟩ := List.mem_map.mp hs
  obtain ⟨r, hr, hspan⟩ := h q hq
  exact List.mem_map.mpr ⟨r, hr, hspan⟩

end Covers

/-! ## Remarks that may crash -/

/-- Unless one of the two crashes, the second shows no span that the first does not show. -/
def NarrowsTo (before after : Remarks) : Prop :=
  ∀ rs qs, before = .ok rs → after = .ok qs → Covers rs qs

namespace NarrowsTo

variable {before after : Remarks}

theorem ok (h : Covers rs qs) : NarrowsTo (.ok rs) (.ok qs) := by
  intro _ _ hrs hqs
  rwa [← Except.ok.inj hrs, ← Except.ok.inj hqs]

theorem refl (found : Remarks) : NarrowsTo found found := by
  intro rs qs hrs hqs
  obtain rfl := Except.ok.inj (hrs.symm.trans hqs)
  exact Covers.refl rs

theorem nil (before : Remarks) : NarrowsTo before (.ok []) := by
  intro rs _ _ hqs
  rw [← Except.ok.inj hqs]
  exact Covers.nil rs

/-- Nothing is remarked under a condition, which holds more often than before. -/
theorem guarded {p p' : Prop} [Decidable p] [Decidable p'] (hp : p → p')
    (h : ¬p' → NarrowsTo before after) :
    NarrowsTo (if p then .ok [] else before) (if p' then .ok [] else after) := by
  by_cases hp' : p'
  · rw [if_pos hp']
    exact nil _
  · rw [if_neg hp', if_neg fun hp'' => hp' (hp hp'')]
    exact h hp'

/-- Something is remarked under a condition, which holds less often than before. -/
theorem conditional {p p' : Prop} [Decidable p] [Decidable p'] (hp : p' → p)
    (h : NarrowsTo before after) :
    NarrowsTo (if p then before else .ok []) (if p' then after else .ok []) := by
  by_cases hp' : p'
  · rw [if_pos hp', if_pos (hp hp')]
    exact h
  · rw [if_neg hp']
    exact nil _

/-- What is remarked may depend on values that are computed first. -/
theorem map {x x' : Except Crash α} {f g : α → List Remark}
    (h : ∀ a a', x = .ok a → x' = .ok a' → Covers (f a) (g a')) :
    NarrowsTo (x.map f) (x'.map g) := by
  intro rs qs hrs hqs
  obtain ⟨a, ha, rfl⟩ := Except.map_eq_ok_iff.mp hrs
  obtain ⟨a', ha', rfl⟩ := Except.map_eq_ok_iff.mp hqs
  exact h a a' ha ha'

theorem bind {x x' : Except Crash α} {f g : α → Remarks}
    (h : ∀ a a', x = .ok a → x' = .ok a' → NarrowsTo (f a) (g a')) :
    NarrowsTo (x >>= f) (x' >>= g) := by
  intro rs qs hrs hqs
  obtain ⟨a, ha, hrs⟩ := Except.bind_eq_ok_iff.mp hrs
  obtain ⟨a', ha', hqs⟩ := Except.bind_eq_ok_iff.mp hqs
  exact h a a' ha ha' rs qs hrs hqs

/-- A sequence that is written out as a match. -/
theorem sequence {x x' : Remarks} {f g : List Remark → Remarks} :
    (∀ a a', x = .ok a → x' = .ok a' → NarrowsTo (f a) (g a')) →
      NarrowsTo
        (match x with
          | .error crash => .error crash
          | .ok a => f a)
        (match x' with
          | .error crash => .error crash
          | .ok a' => g a') := by
  intro h
  cases x with
  | error crash => exact fun _ _ hrs => nomatch hrs
  | ok a =>
  cases x' with
  | error crash => exact fun _ _ _ hqs => nomatch hqs
  | ok a' => exact h a a' rfl rfl

/-- Remarks before others narrow if both do. -/
theorem append {y y' : Remarks} (hcovers : Covers rs rs') (hy : NarrowsTo y y') :
    NarrowsTo (y.map (rs ++ ·)) (y'.map (rs' ++ ·)) :=
  map fun qs qs' hqs hqs' => hcovers.append (hy qs qs' hqs hqs')

theorem remarksFor {xs : List α} {f g : α → Remarks} (h : ∀ x ∈ xs, NarrowsTo (f x) (g x)) :
    NarrowsTo (remarksFor xs f) (CodeConventions.remarksFor xs g) := by
  intro rs qs hrs hqs
  obtain ⟨f', hf, rfl⟩ := remarksFor_eq_ok hrs
  obtain ⟨g', hg, rfl⟩ := remarksFor_eq_ok hqs
  exact Covers.flatMap (List.Subset.refl xs) fun x hx => h x hx _ _ (hf x hx) (hg x hx)

end NarrowsTo

/-! ## Names in lists -/

/-- A name among some names is also among more of them. -/
theorem contains_mono {names more : List String} (hsubset : names ⊆ more) (s : String) :
    names.contains s ≤ more.contains s := by
  intro hs
  rw [List.contains_iff_mem] at hs ⊢
  exact hsubset hs

theorem contains_append_mono (known : List String) {names more : List String}
    (hsubset : names ⊆ more) (s : String) :
    (known ++ names).contains s ≤ (known ++ more).contains s := by
  rw [List.contains_append, List.contains_append]
  exact sup_le_sup_left (contains_mono hsubset s) _

/-! ## Names that match patterns -/

variable {patterns more : List String} {name : String} {b b' : Bool}

/-- Where no pattern that is tried fails, a name matches exactly if one of them is found in it. -/
theorem matchesAny_eq_ok_iff_exists (h : matchesAny patterns name = .ok b) :
    b = true ↔ ∃ p ∈ patterns, ∃ pattern, Pattern.read p = .ok pattern ∧
      pattern.foundIn name = true := by
  induction patterns with
  | nil =>
      obtain rfl := Except.ok.inj h
      simp
  | cons p rest ih =>
      rw [matchesAny] at h
      cases hread : Pattern.read p with
      | error reason =>
          rw [hread] at h
          exact nomatch h
      | ok pattern =>
          rw [hread] at h
          dsimp only at h
          split at h
          next hfound =>
            obtain rfl := Except.ok.inj h
            exact iff_of_true rfl ⟨p, List.mem_cons_self, pattern, hread, hfound⟩
          next hfound =>
            rw [ih h, List.exists_mem_cons_iff, hread]
            simp [hfound]

/-- A name that matches some patterns also matches more of them. -/
theorem matchesAny_mono (hsubset : patterns ⊆ more) (h : matchesAny patterns name = .ok b)
    (hmore : matchesAny more name = .ok b') : b ≤ b' := by
  intro hb
  obtain ⟨p, hp, hfound⟩ := (matchesAny_eq_ok_iff_exists h).mp hb
  exact (matchesAny_eq_ok_iff_exists hmore).mpr ⟨p, hsubset hp, hfound⟩

/-- Remarks that are only made of names without a match narrow with more patterns. -/
theorem NarrowsTo.unlessMatching {before after : Remarks} (hsubset : patterns ⊆ more)
    (h : NarrowsTo before after) :
    NarrowsTo
      (match matchesAny patterns name with
        | .error crash => .error crash
        | .ok true => .ok []
        | .ok false => before)
      (match matchesAny more name with
        | .error crash => .error crash
        | .ok true => .ok []
        | .ok false => after) := by
  cases hb : matchesAny patterns name with
  | error crash => exact fun _ _ hrs => nomatch hrs
  | ok b =>
  cases hb' : matchesAny more name with
  | error crash => exact fun _ _ _ hqs => nomatch hqs
  | ok b' =>
  have hmono := matchesAny_mono hsubset hb hb'
  match b, b', hmono with
  | _, true, _ => exact nil _
  | false, false, _ => exact h

end CodeConventions
