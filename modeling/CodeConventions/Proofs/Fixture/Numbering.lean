import CodeConventions.Proofs.Fixture.Expectation
import CodeConventions.Proofs.Source.Place
import CodeConventions.Proofs.Text.Rows

/-!
# Two ways to number the lines of a fixture

The layout of a fixture numbers the lines of its text; the span of a finding numbers lines by line
feeds alone.  A finding is looked up in the layout by the numbers of its span, so the two ways
should agree.

They differ by the lone ends before a character, those terminators that hold no line feed.  So they
agree on a whole source exactly if every character behind a lone end is a terminator itself; and
then a finding whose text lies in one of the regions is counted there (`numbering`).  Two form feeds
before the sub-cases are enough to keep a finding out of its sub-case (`numbers_differ_formFeeds`).

## Strategy

A character that ends no line stands on the line that follows the terminators before it
(`Text.standsOn_of_append`), and its offset lies on the line that follows the line feeds before it
(`SourceText.line_positionOf`).  The span of a finding ends behind its last character, which is no
line feed, so both have one number.
-/

namespace CodeConventions

namespace Layout

open Text Text.Utf8

/-- The number that a span gives to the line of what comes behind some text. -/
def lineBehind (source : String) (front : List Char) : Nat :=
  ((SourceText.ofString source).positionOf (byteLength front)).line

/-- Spans number the line of every character that ends no line in the way in which the lines of the
text are numbered. -/
def CountsAlike (source : String) : Prop :=
  ∀ front c back, source.toList = front ++ c :: back → isLineEnd c = false →
    StandsOn source.toList front.length (lineBehind source front)

/-- A part of a source, from one character that ends no line up to another one or the same. -/
structure Passage (source : String) where
  /-- What comes before the first character, and behind it. -/
  front : List Char
  first : Char
  rest : List Char
  /-- What comes before the last character, and behind it. -/
  upTo : List Char
  last : Char
  back : List Char
  begins : source.toList = front ++ first :: rest
  ends : source.toList = upTo ++ last :: back
  le : front.length ≤ upTo.length
  first_isText : isLineEnd first = false
  last_isText : isLineEnd last = false

namespace Passage

variable {source : String}

/-- The span of a passage. -/
def span (p : Passage source) : Span :=
  (SourceText.ofString source).spanOf (byteLength p.front) (byteLength (p.upTo ++ [p.last]))

/-- The passage lies in the lines with the numbers from one number to another one. -/
def LiesIn (p : Passage source) (firstLine lastLine : Nat) : Prop :=
  ∃ m n, StandsOn source.toList p.front.length m ∧ StandsOn source.toList p.upTo.length n ∧
    firstLine ≤ m ∧ n ≤ lastLine

/-- The span of a passage ends on the line of its last character. -/
theorem stopLine_span (p : Passage source) : p.span.stopLine = lineBehind source p.upTo := by
  have hlast : p.last ≠ '\n' := by
    intro heq
    have hends := p.last_isText
    rw [heq] at hends
    exact nomatch hends
  have hcount : (p.upTo ++ [p.last]).count '\n' = p.upTo.count '\n' := by
    rw [List.count_append, List.count_singleton, if_neg (by simpa using hlast), Nat.add_zero]
  have hends : source.toList = (p.upTo ++ [p.last]) ++ p.back := by
    rw [p.ends, List.append_assoc, List.singleton_append]
  have hline : lineBehind source (p.upTo ++ [p.last]) = lineBehind source p.upTo := by
    rw [lineBehind, SourceText.line_positionOf hends, hcount, lineBehind,
      SourceText.line_positionOf p.ends]
  exact congrArg Nat.cast hline

theorem line_span (p : Passage source) : p.span.line = lineBehind source p.front := rfl

theorem one_le_line_span (p : Passage source) : 1 ≤ p.span.line := by
  rw [line_span, lineBehind, SourceText.line_positionOf p.begins]
  omega

theorem line_span_le_stopLine_span (p : Passage source) : p.span.line ≤ p.span.stopLine := by
  have hprefix : p.front <+: p.upTo :=
    List.prefix_of_prefix_length_le ⟨_, p.begins.symm⟩ ⟨_, p.ends.symm⟩ p.le
  rw [line_span, stopLine_span, lineBehind, lineBehind, SourceText.line_positionOf p.begins,
    SourceText.line_positionOf p.ends]
  have hcount := hprefix.sublist.count_le '\n'
  omega

/-- Where lines are numbered alike, the lines in which a passage lies are those of its span. -/
theorem LiesIn.span (h : CountsAlike source) {p : Passage source} {firstLine lastLine : Nat}
    (hp : p.LiesIn firstLine lastLine) :
    (firstLine : Int) ≤ p.span.line ∧ p.span.stopLine ≤ lastLine := by
  obtain ⟨m, n, hm, hn, hfirst, hlast⟩ := hp
  obtain rfl := hm.eq (h _ _ _ p.begins p.first_isText)
  obtain rfl := hn.eq (h _ _ _ p.ends p.last_isText)
  rw [line_span, stopLine_span]
  exact ⟨Int.ofNat_le.mpr hfirst, Int.ofNat_le.mpr hlast⟩

/-- The passage of a single character. -/
def ofChar (front : List Char) (c : Char) (back : List Char)
    (hsource : source.toList = front ++ c :: back) (hc : isLineEnd c = false) :
    Passage source :=
  ⟨front, c, back, front, c, back, hsource, hsource, le_rfl, hc, hc⟩

theorem liesIn_ofChar {front back : List Char} {c : Char}
    {hsource : source.toList = front ++ c :: back} {hc : isLineEnd c = false}
    {firstLine lastLine : Nat}
    (hline : firstLine ≤ front.count '\n' + 1 + loneEnds front ∧
      front.count '\n' + 1 + loneEnds front ≤ lastLine) :
    (ofChar front c back hsource hc).LiesIn firstLine lastLine := by
  have hstands : StandsOn source.toList front.length (front.count '\n' + 1 + loneEnds front) := by
    rw [hsource]
    exact standsOn_of_append hc
  exact ⟨_, _, hstands, hstands, hline⟩

end Passage

/-! ## The numbers of lines -/

variable {source : String} {l : Layout}

/-- A character that ends no line stands on the line whose number is that of spans and the number of
lone ends before the character. -/
theorem standsOn_lineBehind {front back : List Char} {c : Char}
    (hsource : source.toList = front ++ c :: back) (hc : isLineEnd c = false) :
    StandsOn source.toList front.length (lineBehind source front + loneEnds front) := by
  rw [lineBehind, SourceText.line_positionOf hsource, hsource]
  exact standsOn_of_append hc

theorem countsAlike_iff :
    CountsAlike source ↔ ∀ front c back, source.toList = front ++ c :: back →
      isLineEnd c = false → loneEnds front = 0 := by
  refine forall₅_congr fun front c back hsource hc => ?_
  have hstands := standsOn_lineBehind hsource hc
  constructor
  · intro halike
    have heq := hstands.eq halike
    omega
  · intro hnone
    rwa [hnone, Nat.add_zero] at hstands

/-! ## The places of findings -/

/-- In a source that is a fixture, the number that a span gives to the line of a character falls
behind that of the layout by the lone ends before the character.  So the two agree exactly if no
character that ends no line comes behind a lone end; and then a finding counts for the sub-case in
whose lines its text lies, and is a problem of the region of valid code or of the prelude if its
text lies there. -/
theorem numbering (hl : ofText source = .ok l) :
    (∀ front c back, source.toList = front ++ c :: back → isLineEnd c = false →
      StandsOn source.toList front.length (lineBehind source front + loneEnds front)) ∧
    (CountsAlike source ↔ ∀ front c back, source.toList = front ++ c :: back →
      isLineEnd c = false → loneEnds front = 0) ∧
    (CountsAlike source → ∀ (p : Passage source) (d : Diagnostic), d.kind = .finding →
      d.span = p.span →
        (∀ c ∈ l.cases, p.LiesIn c.firstLine c.lastLine → l.place d = .ok c) ∧
        (p.LiesIn l.validLine (l.invalidLine - 1) → l.place d = .error (.inValidCode d)) ∧
        (p.LiesIn 1 (l.validLine - 1) → l.place d = .error (.inPrelude d))) := by
  have hordered : l.Ordered := ordered_of_ofLines hl
  refine ⟨fun front c back => standsOn_lineBehind, countsAlike_iff, fun halike p d hkind hspan => ?_⟩
  have hle := p.line_span_le_stopLine_span
  have hpos := p.one_le_line_span
  refine ⟨fun c hc hin => ?_, fun hin => ?_, fun hin => ?_⟩
  · refine (hordered.place_eq_ok_iff (hspan ▸ hle)).mpr ⟨hkind, hc, ?_⟩
    rw [SubCase.contains, hspan, Bool.and_eq_true, decide_eq_true_eq, decide_eq_true_eq]
    exact hin.span halike
  · obtain ⟨hfirst, hlast⟩ := hin.span halike
    rw [place, if_neg (not_not_intro hkind), hspan, if_neg (by omega), if_pos (by omega)]
  · obtain ⟨-, hlast⟩ := hin.span halike
    rw [place, if_neg (not_not_intro hkind), hspan, if_pos (by omega)]

/-- The passage `b` of `twoCases`. -/
def passageOfTwoCases : Passage twoCases :=
  .ofChar "// VALID\nconst a = 1;\n// INVALID\n// 1) first\nlet ".toList 'b'
    " = 1;\n// 2) second\nlet c = 1;\n".toList (by decide +kernel) rfl

/-- Without lone ends a finding counts for the sub-case that it is written in. -/
theorem numbering_twoCases :
    ofText twoCases = .ok ofTwoCases ∧ CountsAlike twoCases ∧ passageOfTwoCases.LiesIn 4 5 ∧
      ∀ d : Diagnostic, d.kind = .finding → d.span = passageOfTwoCases.span →
        ofTwoCases.place d = .ok ⟨1, "first", 4, 5⟩ := by
  have hlayout : ofText twoCases = .ok ofTwoCases := by decide +kernel
  obtain ⟨-, halike, hplaces⟩ := numbering hlayout
  have hfeeds : (twoCases.toList.all fun c => !isLineEnd c || c == '\n') = true := by
    decide +kernel
  have hcounts : CountsAlike twoCases := halike.mpr fun front c back hsource _ => by
    refine loneEnds_eq_zero fun x hx hend => ?_
    have hx := List.all_eq_true.mp hfeeds x (hsource ▸ List.mem_append_left _ hx)
    simpa [hend] using hx
  have hin : passageOfTwoCases.LiesIn 4 5 := Passage.liesIn_ofChar (by decide +kernel)
  exact ⟨hlayout, hcounts, hin, fun d hkind hspan =>
    (hplaces hcounts passageOfTwoCases d hkind hspan).1 _ (by decide) hin⟩

/-- A fixture with two form feeds in a comment. -/
def formFeeds : String :=
  "// VALID\n// a\x0c\x0cb\nconst a = 1;\n// INVALID\n// 1) first\nlet b = 1;\n"

/-- The layout of `formFeeds`. -/
def ofFormFeeds : Layout := ⟨1, 6, [⟨1, "first", 7, 8⟩]⟩

/-- The passage `b` of `formFeeds`. -/
def passageOfFormFeeds : Passage formFeeds :=
  .ofChar "// VALID\n// a\x0c\x0cb\nconst a = 1;\n// INVALID\n// 1) first\nlet ".toList 'b'
    " = 1;\n".toList (by decide +kernel) rfl

/-- Behind form feeds the two numbers of a line differ, and a finding that is written in the only
sub-case lies outside of it by the numbers of its span. -/
theorem numbers_differ_formFeeds :
    ofText formFeeds = .ok ofFormFeeds ∧ ¬ CountsAlike formFeeds ∧
      passageOfFormFeeds.LiesIn 7 8 ∧
      ∀ d : Diagnostic, d.kind = .finding → d.span = passageOfFormFeeds.span →
        ofFormFeeds.place d = .error (.outsideCases d) := by
  refine ⟨by decide +kernel, fun halike => ?_, Passage.liesIn_ofChar (by decide +kernel),
    fun d hkind hspan => ?_⟩
  · have hnone := countsAlike_iff.mp halike _ _ _ passageOfFormFeeds.begins rfl
    exact absurd hnone (by decide +kernel)
  · have hlines : d.span.line = 6 ∧ d.span.stopLine = 6 := by
      rw [hspan]
      decide +kernel
    simp [ofFormFeeds, place, caseOf?, SubCase.contains, hkind, hlines]

end Layout

end CodeConventions
