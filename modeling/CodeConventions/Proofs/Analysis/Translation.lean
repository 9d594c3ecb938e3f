import CodeConventions.Proofs.Edit.Analysis

/-!
# Lines in front of a file

Whole lines put in front of a file move what the rules of the library find in it by as many bytes
and as many lines, and change nothing else of it: not the columns, the messages, nor the order.
Faults of rules stay what they are, at the start of the file.

Offsets serve as identities of nodes and are compared with each other, but only with each other, so
moving all of them alike is not noticed.

## Strategy

The findings of an analysis are the analysis under the rules that do not fail, and its faults the
analysis under those that do (`analyze_findings`, `analyze_faults`).  The edit changes nothing about
which rules fail.  The diagnostics of the former move, which a merge does not notice either, as the
order of their ranks stays; those of the latter are the same as before.
-/

namespace CodeConventions

namespace ParseTree

mutual

/-- The tree with all offsets moved. -/
def moved (k : Nat) : ParseTree → ParseTree
  | .node l cs => .node (l.moved k) (movedAll k cs)

/-- Several trees with all offsets moved. -/
def movedAll (k : Nat) : List ParseTree → List ParseTree
  | [] => []
  | c :: cs => moved k c :: movedAll k cs

end

end ParseTree

/-- The document with some bytes put in front of its source, and its nodes moved along. -/
def Document.prepended (p : List UInt8) (d : Document) : Document :=
  ⟨d.path, ⟨p.toArray ++ d.source.bytes⟩, d.tree.moved p.length⟩

/-- The span some bytes and some lines further down. -/
def Span.shifted (bytes lines : Nat) (s : Span) : Span :=
  ⟨s.start + bytes, s.stop + bytes, s.line + lines, s.column, s.stopLine + lines, s.stopColumn⟩

/-- The diagnostic some bytes and some lines further down. -/
def Diagnostic.shifted (bytes lines : Nat) (x : Diagnostic) : Diagnostic :=
  { x with span := x.span.shifted bytes lines }

/-! ## Putting lines in front is an edit -/

/-- The edit that puts lines in front and leaves nothing out. -/
def Edit.prepend (p : List UInt8) (hp : p = [] ∨ p.getLast? = some 10) : Edit := ⟨p, hp, false⟩

namespace ParseTree

mutual

theorem edited_prepend {p : List UInt8} (hp : p = [] ∨ p.getLast? = some 10) :
    ∀ t : ParseTree, t.edited (Edit.prepend p hp) = t.moved p.length
  | .node l ts => by
    unfold edited moved
    rw [editedAll_prepend hp ts]
    rfl

theorem editedAll_prepend {p : List UInt8} (hp : p = [] ∨ p.getLast? = some 10) :
    ∀ ts : List ParseTree, editedAll (Edit.prepend p hp) ts = movedAll p.length ts
  | [] => rfl
  | t :: ts => by
    have homits : (Edit.prepend p hp).omits t = false := rfl
    unfold editedAll movedAll
    rw [homits, edited_prepend hp t, editedAll_prepend hp ts]
    rfl

end

end ParseTree

namespace Document

variable {d : Document} {p : List UInt8} {rules : List Rule}

theorem edited_prepend (hp : p = [] ∨ p.getLast? = some 10) :
    d.edited (Edit.prepend p hp) = d.prepended p :=
  congrArg (Document.mk d.path (d.source.edited _)) (ParseTree.edited_prepend hp d.tree)

theorem keepsBrackets_prepend (hp : p = [] ∨ p.getLast? = some 10) :
    (Edit.prepend p hp).KeepsBrackets d := fun _ _ _ _ _ => rfl

theorem hasErrors_prepended (hclean : d.hasErrors = false) (hp : p = [] ∨ p.getLast? = some 10) :
    (d.prepended p).hasErrors = false := by
  rw [← edited_prepend hp]
  exact hasErrors_edited hclean

end Document

theorem Diagnostic.rank_shifted_lt_iff (bytes lines : Nat) (a b : Diagnostic) :
    (a.shifted bytes lines).rank < (b.shifted bytes lines).rank ↔ a.rank < b.rank := by
  simp [rank_lt_rank_iff, shifted, Span.shifted]

namespace Document

variable {d : Document} {p : List UInt8} {rules : List Rule}

/-- Rules that do not fail have their diagnostics moved. -/
theorem analyze_prepended_of_not_failsOn (hclean : d.hasErrors = false)
    (hp : p = [] ∨ p.getLast? = some 10) (hrules : ∀ r ∈ rules, r.IsBuiltin)
    (hok : ∀ r ∈ rules, r.failsOn d = false) :
    (d.prepended p).analyze rules =
      (d.analyze rules).map (Diagnostic.shifted p.length (p.count 10)) := by
  have hdiagnostics : (rules.flatMap fun r => r.diagnostics (d.prepended p)) =
      (rules.flatMap fun r => r.diagnostics d).map
        (Diagnostic.shifted p.length (p.count 10)) := by
    rw [List.map_flatMap, ← edited_prepend hp]
    exact List.flatMap_congr fun r hr =>
      (hrules r hr).diagnostics_edited (keepsBrackets_prepend hp) (hok r hr)
  rw [analyze_eq_merge (hasErrors_prepended hclean hp), analyze_eq_merge hclean, hdiagnostics,
    Diagnostic.merge_map_of_rank (Diagnostic.rank_shifted_lt_iff _ _) fun _ => rfl]

/-- Rules that fail have the faults they had. -/
theorem analyze_prepended_of_failsOn (hclean : d.hasErrors = false)
    (hp : p = [] ∨ p.getLast? = some 10) (hrules : ∀ r ∈ rules, r.IsBuiltin)
    (hfails : ∀ r ∈ rules, r.failsOn d = true) :
    (d.prepended p).analyze rules = d.analyze rules := by
  have hdiagnostics : ∀ r ∈ rules, r.diagnostics (d.prepended p) = r.diagnostics d := by
    intro r hr
    rw [← edited_prepend hp]
    exact (hrules r hr).diagnostics_edited_of_failsOn (keepsBrackets_prepend hp) (hfails r hr)
  rw [analyze_eq_merge (hasErrors_prepended hclean hp), analyze_eq_merge hclean,
    List.flatMap_congr hdiagnostics]

theorem failsOn_prepended (hp : p = [] ∨ p.getLast? = some 10) (hrules : ∀ r ∈ rules, r.IsBuiltin)
    (fails : Bool) :
    rules.filter (fun r => r.failsOn (d.prepended p) == fails) =
      rules.filter fun r => r.failsOn d == fails := by
  refine List.filter_congr fun r hr => ?_
  rw [← edited_prepend hp, (hrules r hr).failsOn_edited (keepsBrackets_prepend hp)]

/-- With whole lines in front of a file the findings are those of the file, in the same order, as
many bytes and lines further down.  The faults are those of the file, at its start. -/
theorem analyze_prepended (hclean : d.hasErrors = false) (hp : p = [] ∨ p.getLast? = some 10)
    (hrules : ∀ r ∈ rules, r.IsBuiltin) (hids : (rules.map Rule.id).Nodup) :
    ((d.prepended p).analyze rules).filter (fun x => x.kind == .finding) =
        ((d.analyze rules).filter fun x => x.kind == .finding).map
          (Diagnostic.shifted p.length (p.count 10)) ∧
      ((d.prepended p).analyze rules).filter (fun x => x.kind == .detectorFault) =
        (d.analyze rules).filter (fun x => x.kind == .detectorFault) ∧
      ∀ x ∈ (d.prepended p).analyze rules, x.kind = .detectorFault → x.span = .fileStart := by
  have hcleaned := hasErrors_prepended hclean hp
  have hselected : ∀ fails : Bool, ∀ r ∈ rules.filter fun r => r.failsOn d == fails,
      r.IsBuiltin ∧ r.failsOn d = fails := fun fails r hr =>
    ⟨hrules r (List.mem_filter.mp hr).1, beq_iff_eq.mp (List.mem_filter.mp hr).2⟩
  refine ⟨?_, ?_, fun x hx => span_of_mem_analyze_of_fault hcleaned hx⟩
  · rw [analyze_findings hcleaned hids, analyze_findings hclean hids, failsOn_prepended hp hrules]
    exact analyze_prepended_of_not_failsOn hclean hp (fun r hr => (hselected false r hr).1)
      fun r hr => (hselected false r hr).2
  · rw [analyze_faults hcleaned hids, analyze_faults hclean hids, failsOn_prepended hp hrules]
    exact analyze_prepended_of_failsOn hclean hp (fun r hr => (hselected true r hr).1)
      fun r hr => (hselected true r hr).2

/-- The file `throw x;` below an empty comment: what is found on its first line is found on the
second one. -/
theorem analyze_prepended_throwing :
    throwing.hasErrors = false ∧ ([47, 47, 10] : List UInt8).getLast? = some 10 ∧
      (∀ r ∈ Rule.builtin, r.IsBuiltin) ∧ (Rule.builtin.map Rule.id).Nodup ∧
      ((throwing.prepended [47, 47, 10]).analyze Rule.builtin).filter (fun x => x.kind == .finding) =
        ((throwing.analyze Rule.builtin).filter fun x => x.kind == .finding).map
          (Diagnostic.shifted 3 1) ∧
      ∃ f, (Check.throws {}).findings throwing = .ok [f] ∧
        (Check.throws {}).findings (throwing.prepended [47, 47, 10]) =
          .ok [{ f with span := f.span.shifted 3 1 }] := by
  have hclean : throwing.hasErrors = false := by decide
  have hlast : ([47, 47, 10] : List UInt8).getLast? = some 10 := rfl
  have hrules : ∀ r ∈ Rule.builtin, r.IsBuiltin := fun r hr => Rule.isBuiltin_of_mem_builtin hr
  have hids : (Rule.builtin.map Rule.id).Nodup := Settings.builtin_ids_nodup
  exact ⟨hclean, hlast, hrules, hids, (analyze_prepended hclean (Or.inr hlast) hrules hids).1,
    ⟨"functional/no-throw-statements", ⟨0, 8, 1, 1, 1, 9⟩,
      "Unexpected throw, throwing exceptions is not functional."⟩,
    Except.toOption_eq_some_iff.mp (by decide +kernel),
    Except.toOption_eq_some_iff.mp (by decide +kernel)⟩

end Document

end CodeConventions
