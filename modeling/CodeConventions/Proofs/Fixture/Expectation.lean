import CodeConventions.Fixture.Expectation
import CodeConventions.Proofs.Except

/-!
# What passes a fixture

A fixture has no problems with some diagnostics exactly if all of them are findings, each lies in
exactly one sub-case, and each sub-case holds exactly one of them
(`Layout.problems_eq_nil_iff`).

## Strategy

A diagnostic counts for the first sub-case around it, and it counts under the number of the
sub-case.  Both are harmless because of how a text is divided: the headings that begin sub-cases
stand on lines of their own, one after the other and all behind the second comment, and their
numbers increase (`Layout.Ordered`, `ordered_of_ofLines`).  So no two sub-cases share a line or a
number, and a diagnostic in a sub-case lies behind both comments.
-/

namespace CodeConventions

namespace Layout

/-! ## The order of headings and sub-cases -/

/-- The regions lie one after the other: the two comments, and then the sub-cases with increasing
numbers. -/
structure Ordered (l : Layout) : Prop where
  validLine_le : l.validLine ≤ l.invalidLine
  invalidLine_lt : ∀ c ∈ l.cases, l.invalidLine < c.firstLine
  lines_lt : l.cases.Pairwise fun a b => a.lastLine < b.firstLine
  numbers_lt : l.cases.Pairwise fun a b => a.number < b.number

/-- The heading that a sub-case begins with. -/
def headingOf (c : SubCase) : Heading := ⟨c.firstLine, c.number, c.description⟩

variable {lines : List (List Char)} {region : List (List Char × Nat)} {previous : Option Nat}
  {h : Heading} {found rest : List Heading} {cs : List SubCase}

/-- Headings stand on lines of the region, in their order. -/
theorem lines_headings (hfound : headings region = .ok found) :
    (found.map Heading.line).Sublist (region.map Prod.snd) := by
  induction region generalizing found with
  | nil =>
      rw [← Except.ok.inj hfound]
      exact List.Sublist.slnil
  | cons entry region ih =>
      obtain ⟨line, n⟩ := entry
      rw [headings] at hfound
      cases hline : heading? line with
      | none =>
          rw [hline] at hfound
          exact (ih hfound).cons n
      | some written =>
          obtain ⟨digits, description⟩ := written
          rw [hline] at hfound
          dsimp only at hfound
          split at hfound
          next => exact nomatch hfound
          next =>
          obtain ⟨more, hmore, rfl⟩ := Except.map_eq_ok_iff.mp hfound
          exact (ih hmore).cons_cons n

theorem lines_regionHeadings (hfound : regionHeadings region = .ok found) :
    (found.map Heading.line).Sublist (region.map Prod.snd) := by
  rw [regionHeadings] at hfound
  cases hregion : region.dropWhile fun l => Text.allBlank l.1 with
  | nil =>
      rw [hregion] at hfound
      exact nomatch hfound
  | cons entry more =>
      obtain ⟨line, n⟩ := entry
      rw [hregion] at hfound
      dsimp only at hfound
      split at hfound
      next => exact nomatch hfound
      next =>
      rw [← hregion] at hfound
      exact (lines_headings hfound).trans ((List.dropWhile_sublist _).map Prod.snd)

/-- The numbers of the lines behind a line. -/
theorem numbers_region (n : Nat) :
    ((lines.zipIdx 1).drop n).map Prod.snd = List.range' (1 + n) (lines.length - n) := by
  rw [List.map_drop, List.zipIdx_map_snd, List.drop_range', Nat.mul_one]

/-- The headings behind a line stand on increasing lines with greater numbers. -/
theorem sorted_regionHeadings {n : Nat}
    (hfound : regionHeadings ((lines.zipIdx 1).drop n) = .ok found) :
    (found.Pairwise fun a b => a.line < b.line) ∧ ∀ h ∈ found, n < h.line := by
  have hsub := numbers_region n ▸ lines_regionHeadings hfound
  refine ⟨List.pairwise_map.mp (List.Pairwise.sublist hsub List.pairwise_lt_range'), fun h hh => ?_⟩
  have hrange := List.mem_range'.mp (hsub.subset (List.mem_map_of_mem hh))
  omega

/-- Sub-cases are made of headings one by one: the number of each is greater than the one before,
its last line comes before the next heading, and a line up to there is not blank. -/
theorem subCases_cons_eq_ok_iff : subCases lines previous (h :: rest) = .ok cs ↔
    (∀ p ∈ previous, p < h.number) ∧
      ((lines.drop h.line).take (lastLineBefore lines.length rest - h.line)).all Text.allBlank =
        false ∧
      ∃ others, subCases lines (some h.number) rest = .ok others ∧
        cs = ⟨h.number, h.description, h.line, lastLineBefore lines.length rest⟩ :: others := by
  have hsequence : previous.any (h.number ≤ ·) = true ↔ ¬ ∀ p ∈ previous, p < h.number := by
    cases previous <;> simp
  rw [subCases]
  split
  next hnot => exact iff_of_false (fun heq => nomatch heq) fun hall => hsequence.mp hnot hall.1
  next hnot =>
  rw [hsequence, not_not] at hnot
  split
  next hblank =>
    exact iff_of_false (fun heq => nomatch heq) fun hall => nomatch hblank.symm.trans hall.2.1
  next hcode =>
  rw [Bool.not_eq_true] at hcode
  rw [Except.map_eq_ok_iff]
  exact ⟨fun ⟨others, hothers, hcs⟩ => ⟨hnot, hcode, others, hothers, hcs.symm⟩,
    fun ⟨_, _, others, hothers, hcs⟩ => ⟨others, hothers, hcs.symm⟩⟩

/-- Each sub-case begins with one of the headings, in their order. -/
theorem headings_subCases (hcs : subCases lines previous found = .ok cs) :
    cs.map headingOf = found := by
  induction found generalizing previous cs with
  | nil => rw [← Except.ok.inj hcs]; rfl
  | cons h rest ih =>
      obtain ⟨-, -, others, hothers, rfl⟩ := subCases_cons_eq_ok_iff.mp hcs
      rw [List.map_cons, ih hothers]
      rfl

theorem numbers_subCases (hcs : subCases lines previous found = .ok cs) :
    (∀ p ∈ previous, ∀ c ∈ cs, p < c.number) ∧ cs.Pairwise fun a b => a.number < b.number := by
  induction found generalizing previous cs with
  | nil =>
      rw [← Except.ok.inj hcs]
      exact ⟨fun p _ c hc => absurd hc List.not_mem_nil, .nil⟩
  | cons h rest ih =>
      obtain ⟨hprevious, -, others, hothers, rfl⟩ := subCases_cons_eq_ok_iff.mp hcs
      obtain ⟨hlater, hpairwise⟩ := ih hothers
      have hrest : ∀ c ∈ others, h.number < c.number := hlater h.number rfl
      refine ⟨fun p hp c hc => ?_, List.pairwise_cons.mpr ⟨hrest, hpairwise⟩⟩
      have hp := hprevious p hp
      rcases List.mem_cons.mp hc with rfl | hc
      · exact hp
      · exact hp.trans (hrest c hc)

/-- Where the headings stand on increasing lines, each sub-case ends before the later ones. -/
theorem lines_subCases (hcs : subCases lines previous found = .ok cs)
    (hlines : found.Pairwise fun a b => a.line < b.line) :
    cs.Pairwise fun a b => a.lastLine < b.firstLine := by
  induction found generalizing previous cs with
  | nil =>
      rw [← Except.ok.inj hcs]
      exact .nil
  | cons h rest ih =>
      obtain ⟨-, -, others, hothers, rfl⟩ := subCases_cons_eq_ok_iff.mp hcs
      obtain ⟨hfirst, hrest⟩ := List.pairwise_cons.mp hlines
      refine List.pairwise_cons.mpr ⟨fun c hc => ?_, ih hothers hrest⟩
      have hlater : headingOf c ∈ rest := headings_subCases hothers ▸ List.mem_map_of_mem hc
      cases rest with
      | nil => exact absurd hlater List.not_mem_nil
      | cons next rest =>
          have hafter : h.line < next.line := hfirst next List.mem_cons_self
          have hle : next.line ≤ c.firstLine := by
            rcases List.mem_cons.mp hlater with rfl | hlater
            · exact le_refl _
            · exact ((List.pairwise_cons.mp hrest).1 (headingOf c) hlater).le
          simp only [lastLineBefore]
          omega

/-- The regions of every text that is a fixture lie one after the other. -/
theorem ordered_of_ofLines {l : Layout} (hl : ofLines lines = .ok l) : l.Ordered := by
  rw [ofLines] at hl
  cases hvalid : lineWith? (marks "VALID") lines with
  | none =>
      rw [hvalid] at hl
      exact nomatch hl
  | some valid =>
  cases hinvalid : lineWith? (marks "INVALID") lines with
  | none =>
      rw [hvalid, hinvalid] at hl
      exact nomatch hl
  | some invalid =>
  rw [hvalid, hinvalid] at hl
  dsimp only at hl
  split at hl
  next => exact nomatch hl
  next hle =>
  obtain ⟨found, hfound, hl⟩ := Except.bind_eq_ok_iff.mp hl
  obtain ⟨cs, hcs, hl⟩ := Except.bind_eq_ok_iff.mp hl
  obtain rfl := Except.ok.inj hl
  obtain ⟨hsorted, hbehind⟩ := sorted_regionHeadings hfound
  refine ⟨Nat.le_of_not_lt hle, fun c hc => ?_, lines_subCases hcs hsorted,
    (numbers_subCases hcs).2⟩
  have hheading : headingOf c ∈ found := headings_subCases hcs ▸ List.mem_map_of_mem hc
  exact hbehind _ hheading

/-! ## The place of a diagnostic -/

variable {l : Layout} {d : Diagnostic} {ds found : List Diagnostic} {c other : SubCase}

/-- No two sub-cases have the same number. -/
theorem Ordered.eq_of_number_eq (hl : l.Ordered) (hc : c ∈ l.cases) (hother : other ∈ l.cases)
    (hnumber : c.number = other.number) : c = other := by
  have : Std.Symm fun a b : SubCase => a.number ≠ b.number := ⟨fun _ _ hne => hne.symm⟩
  have hne : l.cases.Pairwise fun a b => a.number ≠ b.number := hl.numbers_lt.imp Nat.ne_of_lt
  by_contra hdiffer
  exact hne.forall hc hother hdiffer hnumber

/-- At most one sub-case is around a diagnostic that does not end before it begins. -/
theorem Ordered.eq_of_contains (hl : l.Ordered) (hd : d.span.line ≤ d.span.stopLine)
    (hc : c ∈ l.cases) (hother : other ∈ l.cases) (hin : c.contains d = true)
    (hin' : other.contains d = true) : c = other := by
  have : Std.Symm fun a b : SubCase => ¬(a.contains d = true ∧ b.contains d = true) :=
    ⟨fun _ _ hnot hboth => hnot hboth.symm⟩
  have hapart : l.cases.Pairwise fun a b => ¬(a.contains d = true ∧ b.contains d = true) := by
    refine hl.lines_lt.imp fun hlt hboth => ?_
    simp only [SubCase.contains, Bool.and_eq_true, decide_eq_true_eq] at hboth
    omega
  by_contra hdiffer
  exact hapart.forall hc hother hdiffer ⟨hin, hin'⟩

theorem mem_and_contains_of_caseOf? (hcase : l.caseOf? d = some c) :
    c ∈ l.cases ∧ c.contains d = true := by
  have hin := List.find?_some hcase
  exact ⟨List.mem_of_find?_eq_some hcase, hin⟩

/-- A diagnostic counts for a sub-case exactly if it is a finding in it. -/
theorem Ordered.place_eq_ok_iff (hl : l.Ordered) (hd : d.span.line ≤ d.span.stopLine) :
    l.place d = .ok c ↔ d.kind = .finding ∧ c ∈ l.cases ∧ c.contains d = true := by
  constructor
  · intro hplace
    rw [place] at hplace
    split at hplace
    next => exact nomatch hplace
    next hkind =>
    split at hplace
    next => exact nomatch hplace
    next =>
    split at hplace
    next => exact nomatch hplace
    next =>
    cases hcase : l.caseOf? d with
    | none =>
        rw [hcase] at hplace
        exact nomatch hplace
    | some around =>
        rw [hcase] at hplace
        obtain rfl := Except.ok.inj hplace
        exact ⟨of_not_not hkind, mem_and_contains_of_caseOf? hcase⟩
  · rintro ⟨hkind, hc, hin⟩
    -- the sub-case lies behind both comments
    have hbehind := hl.invalidLine_lt c hc
    have hvalid := hl.validLine_le
    have hfirst : (c.firstLine : Int) ≤ d.span.line := by
      simp only [SubCase.contains, Bool.and_eq_true, decide_eq_true_eq] at hin
      exact hin.1
    obtain ⟨around, hcase⟩ : ∃ around, l.caseOf? d = some around :=
      Option.isSome_iff_exists.mp (List.find?_isSome.mpr ⟨c, hc, hin⟩)
    obtain ⟨haround, hin'⟩ := mem_and_contains_of_caseOf? hcase
    obtain rfl : around = c := hl.eq_of_contains hd haround hc hin' hin
    rw [place, if_neg (not_not_intro hkind), if_neg (by omega), if_neg (by omega), hcase]

theorem misplaced?_eq_none_iff : l.misplaced? d = none ↔ ∃ c, l.place d = .ok c := by
  rw [misplaced?]
  cases l.place d <;> simp

theorem Ordered.countsFor_iff (hl : l.Ordered) (hd : d.span.line ≤ d.span.stopLine)
    (hc : c ∈ l.cases) : l.countsFor c d = true ↔ l.place d = .ok c := by
  rw [countsFor]
  cases hplace : l.place d with
  | error p => simp
  | ok other =>
      have hother := ((hl.place_eq_ok_iff hd).mp hplace).2.1
      simp only [decide_eq_true_eq, Except.ok.injEq]
      exact ⟨hl.eq_of_number_eq hother hc, congrArg SubCase.number⟩

theorem caseProblem?_eq_none_iff : caseProblem? c found = none ↔ found.length = 1 := by
  match found with
  | [] | [_] | _ :: _ :: _ => simp [caseProblem?]

/-! ## The problems of a fixture -/

/-- A fixture has no problems with diagnostics that end no earlier than they begin exactly if all
of them are findings, each lies in exactly one sub-case, and each sub-case holds exactly one. -/
theorem problems_eq_nil_iff {source : String} (hl : ofText source = .ok l)
    (hds : ∀ d ∈ ds, d.span.line ≤ d.span.stopLine) :
    l.problems ds = [] ↔
      (∀ d ∈ ds, d.kind = .finding) ∧
      (∀ d ∈ ds, ∃! c, c ∈ l.cases ∧ c.contains d = true) ∧
      ∀ c ∈ l.cases, ds.countP c.contains = 1 := by
  have hl : l.Ordered := ordered_of_ofLines hl
  -- a diagnostic is in its place exactly if it is a finding in one sub-case
  have hplaced : ∀ d ∈ ds, l.misplaced? d = none ↔
      d.kind = .finding ∧ ∃! c, c ∈ l.cases ∧ c.contains d = true := by
    intro d hd
    simp only [misplaced?_eq_none_iff, hl.place_eq_ok_iff (hds d hd), exists_and_left]
    refine and_congr_right fun _ => ⟨fun ⟨c, hc, hin⟩ => ?_, ExistsUnique.exists⟩
    exact ⟨c, ⟨hc, hin⟩, fun other hother =>
      hl.eq_of_contains (hds d hd) hother.1 hc hother.2 hin⟩
  -- and those that count for a sub-case are then the ones in it
  have hcounted : (∀ d ∈ ds, l.misplaced? d = none) → ∀ c ∈ l.cases,
      (ds.filter (l.countsFor c)).length = ds.countP c.contains := by
    intro hnone c hc
    rw [← List.countP_eq_length_filter]
    refine List.countP_congr fun d hd => ?_
    rw [hl.countsFor_iff (hds d hd) hc, hl.place_eq_ok_iff (hds d hd)]
    exact ⟨fun h => h.2.2, fun hin => ⟨((hplaced d hd).mp (hnone d hd)).1, hc, hin⟩⟩
  calc l.problems ds = []
      ↔ (∀ d ∈ ds, l.misplaced? d = none) ∧
          ∀ c ∈ l.cases, (ds.filter (l.countsFor c)).length = 1 := by
        simp only [problems, List.append_eq_nil_iff, List.filterMap_eq_nil_iff,
          caseProblem?_eq_none_iff]
    _ ↔ (∀ d ∈ ds, l.misplaced? d = none) ∧ ∀ c ∈ l.cases, ds.countP c.contains = 1 :=
        and_congr_right fun hnone => forall₂_congr fun c hc => by rw [hcounted hnone c hc]
    _ ↔ _ := by
        rw [← and_assoc]
        refine and_congr_left fun _ => ?_
        rw [← forall₂_and]
        exact forall₂_congr hplaced

/-- A fixture of two sub-cases. -/
def twoCases : String :=
  "// VALID\nconst a = 1;\n// INVALID\n// 1) first\nlet b = 1;\n// 2) second\nlet c = 1;\n"

/-- The layout of `twoCases`. -/
def ofTwoCases : Layout := ⟨1, 3, [⟨1, "first", 4, 5⟩, ⟨2, "second", 6, 7⟩]⟩

/-- A finding of one character at the beginning of a line. -/
def findingAt (line : Int) : Diagnostic :=
  ⟨"a.ts", "functional/no-let", .error, ⟨0, 1, line, 1, line, 2⟩, "", .finding⟩

/-- One finding in each sub-case passes, and each then lies in one of them. -/
theorem problems_twoCases :
    ofText twoCases = .ok ofTwoCases ∧
      (∀ d ∈ [findingAt 5, findingAt 7], ∃! c, c ∈ ofTwoCases.cases ∧ c.contains d = true) ∧
      ∀ c ∈ ofTwoCases.cases, [findingAt 5, findingAt 7].countP c.contains = 1 := by
  have hlayout : ofText twoCases = .ok ofTwoCases := by decide +kernel
  have hds : ∀ d ∈ [findingAt 5, findingAt 7], d.span.line ≤ d.span.stopLine := by decide
  have hnone : ofTwoCases.problems [findingAt 5, findingAt 7] = [] := by decide
  exact ⟨hlayout, ((problems_eq_nil_iff hlayout hds).mp hnone).2⟩

end Layout

end CodeConventions
