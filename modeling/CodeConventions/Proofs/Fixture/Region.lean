import CodeConventions.Proofs.Fixture.Grammar

/-!
# The regions of a fixture

A fixture has three regions, and the comments that begin the second and the third should stand on
different lines, one after the other.  The sub-cases do come behind the comment `INVALID`, on lines
of the text.  But the two comments are looked for one by one, and a line may be both: then the
second region has no line at all, and no finding can ever lie in valid code.  This is the only way
in which two regions become one (`regions_inOrder`), and it does happen (`regions_merge_oneLine`).

## Strategy

Each comment stands on the first line of its kind (`IsFirst`).  So if the line of the comment
`VALID` is a comment `INVALID` as well, the latter cannot come later, and it may not come before.
The sub-cases share out the lines from the first heading to the end (`Tiles`), and there is a first
heading in every region that is read.
-/

namespace CodeConventions

namespace Layout

variable {source : String} {lines : List (List Char)} {region : List (List Char × Nat)}
  {found : List Heading} {l : Layout}

theorem headings_ne_nil {line : List Char} {n : Nat} {rest : List (List Char × Nat)}
    (hline : (heading? line).isNone = false) (hfound : headings ((line, n) :: rest) = .ok found) :
    found ≠ [] := by
  rw [headings] at hfound
  cases hheading : heading? line with
  | none =>
      rw [hheading] at hline
      cases hline
  | some written =>
      obtain ⟨digits, description⟩ := written
      rw [hheading] at hfound
      dsimp only at hfound
      split at hfound
      next => cases hfound
      next =>
      obtain ⟨more, _, rfl⟩ := Except.map_eq_ok_iff.mp hfound
      exact List.cons_ne_nil _ _

/-- A region that is read has a heading. -/
theorem regionHeadings_ne_nil (hfound : regionHeadings region = .ok found) : found ≠ [] := by
  rw [regionHeadings] at hfound
  split at hfound
  next => cases hfound
  next line n rest _ =>
  split at hfound
  next => cases hfound
  next hline => exact headings_ne_nil (Bool.eq_false_iff.mpr hline) hfound

/-- The sub-cases share out the lines from the first of them to the end. -/
theorem exists_tiles_of_ofLines (hl : ofLines lines = .ok l) :
    ∃ first, l.invalidLine < first ∧ Tiles l.cases first lines.length := by
  obtain ⟨-, -, -, found, hfound, hcases⟩ := ofLines_eq_ok_iff.mp hl
  obtain ⟨hsorted, hbehind⟩ := sorted_regionHeadings hfound
  obtain ⟨h, rest, rfl⟩ := List.exists_cons_of_ne_nil (regionHeadings_ne_nil hfound)
  exact ⟨h.line, hbehind h List.mem_cons_self, tiles_subCases hsorted hcases⟩

theorem Tiles.exists_cons {cs : List SubCase} {first last : Nat} (h : Tiles cs first last) :
    ∃ c rest, cs = c :: rest ∧ c.firstLine = first := by
  cases h with
  | last => exact ⟨_, _, rfl, rfl⟩
  | cons => exact ⟨_, _, rfl, rfl⟩

theorem Tiles.firstLine_le {cs : List SubCase} {first last : Nat} (h : Tiles cs first last) :
    ∀ c ∈ cs, c.firstLine ≤ c.lastLine := by
  induction h with
  | last hle => exact List.forall_mem_singleton.mpr hle
  | cons hle _ ih => exact List.forall_mem_cons.mpr ⟨hle, ih⟩

/-- The two comments stand on different lines exactly if the line of the first one is not the second
one, too. -/
theorem validLine_lt_iff (hl : ofLines lines = .ok l) :
    l.validLine < l.invalidLine ↔
      ∀ line, Stands lines l.validLine line → ¬ IsMarker "INVALID".toList line := by
  obtain ⟨hvalid, hinvalid, hle, -⟩ := ofLines_eq_ok_iff.mp hl
  constructor
  · intro hlt line hstands
    exact hinvalid.earlier _ hlt line hstands
  · intro hnot
    obtain ⟨line, hstands, hmarker⟩ := hinvalid.stands
    rcases Nat.lt_or_eq_of_le hle with hlt | heq
    · exact hlt
    · exact absurd hmarker (hnot line (heq ▸ hstands))

/-- Findings can lie in valid code exactly if the region has a line. -/
theorem exists_inValidCode_iff (l : Layout) :
    (∃ d, l.place d = .error (.inValidCode d)) ↔ l.validLine < l.invalidLine := by
  constructor
  · rintro ⟨d, hd⟩
    rw [place] at hd
    split at hd
    next => cases hd
    next =>
    split at hd
    next => cases hd
    next hbehind =>
    split at hd
    next hbefore => omega
    next =>
    split at hd
    next => cases hd
    next => cases hd
  · intro hlt
    have hkind : (findingAt l.validLine).kind = .finding := rfl
    have hline : (findingAt l.validLine).span.line = l.validLine := rfl
    refine ⟨findingAt l.validLine, ?_⟩
    rw [place, if_neg (not_not_intro hkind), hline, if_neg (by omega), if_pos (by omega)]

/-- In every text that is a fixture the comment `VALID` does not come behind the comment `INVALID`,
and all sub-cases come behind both, one after the other and on lines of the text.  The comments
stand on different lines, so that findings can lie in valid code, exactly if the line of the comment
`VALID` is not a comment `INVALID` at the same time. -/
theorem regions_inOrder (hl : ofText source = .ok l) :
    (0 < l.validLine ∧ l.validLine ≤ l.invalidLine) ∧
    (l.validLine < l.invalidLine ↔
      ∀ line, Stands (linesOf source) l.validLine line → ¬ IsMarker "INVALID".toList line) ∧
    ((∃ d, l.place d = .error (.inValidCode d)) ↔ l.validLine < l.invalidLine) ∧
    ∃ first rest, l.cases = first :: rest ∧ l.invalidLine < first.firstLine ∧
      (l.cases.Pairwise fun a b => a.lastLine < b.firstLine) ∧
      ∀ c ∈ l.cases, first.firstLine ≤ c.firstLine ∧ c.firstLine ≤ c.lastLine ∧
        c.lastLine ≤ (linesOf source).length := by
  obtain ⟨hvalid, -, hle, -⟩ := ofLines_eq_ok_iff.mp hl
  obtain ⟨_, ⟨hpos, -⟩, -⟩ := hvalid.stands
  refine ⟨⟨hpos, hle⟩, validLine_lt_iff hl, exists_inValidCode_iff l, ?_⟩
  obtain ⟨n, hbehind, htiles⟩ := exists_tiles_of_ofLines hl
  obtain ⟨first, rest, hcases, rfl⟩ := htiles.exists_cons
  refine ⟨first, rest, hcases, hbehind, (ordered_of_ofLines hl).lines_lt, fun c hc => ?_⟩
  obtain ⟨hfirst, hlast⟩ := htiles.bounds.2 c hc
  exact ⟨hfirst, htiles.firstLine_le c hc, hlast⟩

/-- In `twoCases` the comments stand on the first and the third line. -/
theorem regions_inOrder_twoCases :
    ofText twoCases = .ok ofTwoCases ∧ ofTwoCases.validLine < ofTwoCases.invalidLine ∧
      ∀ line, Stands (linesOf twoCases) 1 line → ¬ IsMarker "INVALID".toList line := by
  have hlayout : ofText twoCases = .ok ofTwoCases := by decide +kernel
  have hlt : ofTwoCases.validLine < ofTwoCases.invalidLine := by decide
  exact ⟨hlayout, hlt, (regions_inOrder hlayout).2.1.mp hlt⟩

/-- A fixture with both words in one comment. -/
def oneLine : String := "// VALID and INVALID\n// 1) first\nlet b = 1;\n"

/-- The layout of `oneLine`. -/
def ofOneLine : Layout := ⟨1, 1, [⟨1, "first", 2, 3⟩]⟩

/-- A text whose only comment with the word `VALID` is the one with the word `INVALID` is a fixture,
and it has no region of valid code. -/
theorem regions_merge_oneLine :
    ofText oneLine = .ok ofOneLine ∧ ¬ ofOneLine.validLine < ofOneLine.invalidLine ∧
      ∀ d, ofOneLine.place d ≠ .error (.inValidCode d) := by
  have hnot : ¬ ofOneLine.validLine < ofOneLine.invalidLine := by decide
  exact ⟨by decide +kernel, hnot, fun d hd => hnot ((exists_inValidCode_iff _).mp ⟨d, hd⟩)⟩

end Layout

end CodeConventions
