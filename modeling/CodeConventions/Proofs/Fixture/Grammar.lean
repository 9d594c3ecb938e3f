import CodeConventions.Proofs.Fixture.Expectation

/-!
# Which texts are fixtures

A text is a fixture exactly if its lines have a certain layout: a comment with the word `VALID`,
one with the word `INVALID` on the same line or a later one, and behind it, blank lines aside, a
heading.  The numbers of the headings behind the second comment increase, and each of these headings
is followed by a line that is not blank before the next one (`HasLayout`).  Every other text is
malformed, and the sub-cases of a fixture share out its lines from the first heading to the end
(`ofText_exact`).

## Strategy

The comments are described by what is written in a line (`IsMarker`, `IsHeading`), the layout by
the numbers of lines.  The headings of the last region are those that stand behind the second
comment (`mem_headingsBehind_iff`), by increasing lines (`sorted_regionHeadings`).  Sub-cases are
then made of them one by one, and an induction on the headings says when this succeeds
(`exists_subCases_iff`) and that each sub-case begins where the one before ends (`tiles_subCases`).
-/

namespace CodeConventions

/-- The text of the fault in a file says that the file is a malformed fixture. -/
def LayoutFault.IsMalformed (fault : LayoutFault) : Prop :=
  ∀ path, fault.report path = s!"Malformed fixture {path}: {fault.message}"

namespace Layout

open Text

/-! ## Comments -/

/-- A line is a comment in which a word stands on its own. -/
inductive IsMarker (word : List Char) : List Char → Prop
  | intro {blanks before after : List Char} (hblanks : ∀ c ∈ blanks, isBlank c = true)
      (hbefore : isWordChar? before.getLast? = false)
      (hafter : isWordChar? after.head? = false) :
      IsMarker word (blanks ++ '/' :: '/' :: (before ++ (word ++ after)))

/-- A line is a comment that begins with digits and a closing parenthesis; with the digits and what
follows, blanks at its ends aside. -/
inductive IsHeading : List Char → List Char → List Char → Prop
  | intro {blanks gap digits rest : List Char} (hblanks : ∀ c ∈ blanks, isBlank c = true)
      (hgap : ∀ c ∈ gap, isBlank c = true) (hdigits : ∀ c ∈ digits, isDigit c = true)
      (hne : digits ≠ []) :
      IsHeading (blanks ++ '/' :: '/' :: (gap ++ (digits ++ ')' :: rest))) digits (trim rest)

variable {word : String} {line rest digits description : List Char}

/-- A list is divided behind the longest front of elements that satisfy a condition. -/
theorem takeWhile_dropWhile_iff {α : Type} {p : α → Bool} {xs front back : List α} :
    (xs.takeWhile p = front ∧ xs.dropWhile p = back) ↔
      xs = front ++ back ∧ (∀ x ∈ front, p x = true) ∧ ∀ x ∈ back.head?, p x = false := by
  constructor
  · rintro ⟨rfl, rfl⟩
    refine ⟨List.takeWhile_append_dropWhile.symm, fun x hx => List.mem_takeWhile_imp hx,
      fun x hc => ?_⟩
    have hhead := List.head?_dropWhile_not p xs
    rw [hc] at hhead
    simpa using hhead
  · rintro ⟨rfl, hfront, hback⟩
    rw [List.takeWhile_append_of_pos hfront, List.dropWhile_append_of_pos hfront]
    cases back with
    | nil => simp
    | cons x back => simp [hback x rfl]

theorem after?_eq_some_iff {cs : List Char} :
    after? word cs = some rest ↔ cs = word.toList ++ rest := by
  rw [after?]
  constructor
  · intro h
    split at h
    next hprefix =>
      obtain ⟨more, rfl⟩ := List.isPrefixOf_iff_prefix.mp hprefix
      rw [← String.length_toList, List.drop_left, Option.some_inj] at h
      rw [h]
    next => exact nomatch h
  · rintro rfl
    rw [if_pos (List.isPrefixOf_iff_prefix.mpr (List.prefix_append _ _)), ← String.length_toList,
      List.drop_left]

theorem comment?_eq_some_iff :
    comment? line = some rest ↔
      ∃ blanks, (∀ c ∈ blanks, isBlank c = true) ∧ line = blanks ++ '/' :: '/' :: rest := by
  rw [comment?, after?_eq_some_iff]
  constructor
  · intro h
    obtain ⟨hline, hblanks, -⟩ := takeWhile_dropWhile_iff.mp ⟨rfl, h⟩
    exact ⟨_, hblanks, hline⟩
  · rintro ⟨blanks, hblanks, rfl⟩
    have hslash : ∀ c ∈ ('/' :: '/' :: rest).head?, isBlank c = false := by
      rintro c ⟨⟩
      decide
    exact (takeWhile_dropWhile_iff.mpr ⟨rfl, hblanks, hslash⟩).2

/-- A word stands in a text where no word character comes before it or behind it. -/
theorem standsIn_iff (hword : word.toList ≠ []) {before : Char} {cs : List Char} :
    standsIn word before cs = true ↔ ∃ front back, cs = front ++ (word.toList ++ back) ∧
      isWordChar (front.getLastD before) = false ∧ isWordChar? back.head? = false := by
  induction cs generalizing before with
  | nil =>
      constructor
      · intro h
        exact nomatch h
      · rintro ⟨front, back, hcs, -⟩
        exact absurd (List.append_eq_nil_iff.mp (List.append_eq_nil_iff.mp hcs.symm).2).1 hword
  | cons c cs ih =>
      rw [standsIn, Bool.or_eq_true, ih, Bool.and_eq_true, Bool.not_eq_true', Option.any_eq_true]
      constructor
      · rintro (⟨hbefore, back, hback, hend⟩ | ⟨front, back, rfl, hbefore, hend⟩)
        · exact ⟨[], back, after?_eq_some_iff.mp hback, hbefore, by simpa using hend⟩
        · refine ⟨c :: front, back, rfl, ?_, hend⟩
          rwa [List.getLastD_cons]
      · rintro ⟨front, back, hcs, hbefore, hend⟩
        cases front with
        | nil => exact .inl ⟨hbefore, back, after?_eq_some_iff.mpr hcs, by simpa using hend⟩
        | cons x front =>
            obtain ⟨rfl, rfl⟩ := List.cons.inj hcs
            rw [List.getLastD_cons] at hbefore
            exact .inr ⟨front, back, rfl, hbefore, hend⟩

/-- The slashes of a comment are no word characters. -/
theorem isWordChar_getLastD_slash (front : List Char) :
    isWordChar (front.getLastD '/') = isWordChar? front.getLast? := by
  cases hlast : front.getLast? with
  | none =>
      rw [List.getLast?_eq_none_iff.mp hlast]
      decide
  | some c =>
      rw [List.getLastD_eq_getLast?, hlast]
      rfl

theorem marks_iff (hword : word.toList ≠ []) :
    marks word line = true ↔ IsMarker word.toList line := by
  rw [marks, Option.any_eq_true]
  constructor
  · rintro ⟨rest, hrest, hstands⟩
    obtain ⟨blanks, hblanks, rfl⟩ := comment?_eq_some_iff.mp hrest
    obtain ⟨front, back, rfl, hbefore, hafter⟩ := (standsIn_iff hword).mp hstands
    exact .intro hblanks (isWordChar_getLastD_slash front ▸ hbefore) hafter
  · rintro ⟨hblanks, hbefore, hafter⟩
    exact ⟨_, comment?_eq_some_iff.mpr ⟨_, hblanks, rfl⟩, (standsIn_iff hword).mpr
      ⟨_, _, rfl, (isWordChar_getLastD_slash _).trans hbefore, hafter⟩⟩

/-- The code points of the blank characters. -/
def blankCodes : List Nat :=
  [9, 10, 11, 12, 13, 28, 29, 30, 31, 32, 0x85, 0xA0, 0x1680, 0x2000, 0x2001, 0x2002, 0x2003,
    0x2004, 0x2005, 0x2006, 0x2007, 0x2008, 0x2009, 0x200A, 0x2028, 0x2029, 0x202F, 0x205F, 0x3000]

/-- No digit of any script is blank. -/
theorem isBlank_of_isDigit {c : Char} (hc : isDigit c = true) : isBlank c = false := by
  have hcodes : ∀ n ∈ blankCodes, isDigit (Char.ofNat n) = false := by decide +kernel
  by_contra hblank
  have hmem : c.toNat ∈ blankCodes := by
    simp only [isBlank, Bool.not_eq_false, Bool.or_eq_true, Bool.and_eq_true, decide_eq_true_eq,
      beq_iff_eq] at hblank
    simp only [blankCodes, List.mem_cons, List.not_mem_nil, or_false]
    omega
  have hnot := hcodes _ hmem
  rw [Char.ofNat_toNat, hc] at hnot
  exact nomatch hnot

theorem heading?_iff : heading? line = some (digits, description) ↔
    IsHeading line digits description := by
  rw [heading?, Option.bind_eq_bind, Option.bind_eq_some_iff]
  constructor
  · rintro ⟨comment, hcomment, hrest⟩
    obtain ⟨blanks, hblanks, rfl⟩ := comment?_eq_some_iff.mp hcomment
    dsimp only at hrest
    obtain ⟨hcomment, hgap, -⟩ := (takeWhile_dropWhile_iff (p := isBlank)).mp ⟨rfl, rfl⟩
    generalize comment.takeWhile isBlank = gap at hcomment hgap
    generalize comment.dropWhile isBlank = cs at hcomment hrest
    subst hcomment
    split at hrest
    next rest hdrop =>
      obtain ⟨hcs, hdigits, -⟩ := takeWhile_dropWhile_iff.mp ⟨rfl, hdrop⟩
      generalize cs.takeWhile isDigit = written at hcs hdigits hrest
      subst hcs
      split at hrest
      next => exact nomatch hrest
      next hne =>
      obtain ⟨rfl, rfl⟩ := Prod.mk.inj (Option.some_inj.mp hrest)
      exact .intro hblanks hgap hdigits (by simpa using hne)
    next => exact nomatch hrest
  · rintro ⟨hblanks, hgap, hdigits, hne⟩
    rename_i blanks gap rest
    refine ⟨_, comment?_eq_some_iff.mpr ⟨_, hblanks, rfl⟩, ?_⟩
    obtain ⟨digit, more, rfl⟩ := List.exists_cons_of_ne_nil hne
    have hdigit : ∀ c ∈ ((digit :: more) ++ ')' :: rest).head?, isBlank c = false := by
      rintro c ⟨⟩
      exact isBlank_of_isDigit (hdigits digit List.mem_cons_self)
    have hclosing : ∀ c ∈ (')' :: rest).head?, isDigit c = false := by
      rintro c ⟨⟩
      decide
    obtain ⟨-, hdrop⟩ := takeWhile_dropWhile_iff.mpr ⟨rfl, hgap, hdigit⟩
    obtain ⟨htake, hafter⟩ := takeWhile_dropWhile_iff.mpr ⟨rfl, hdigits, hclosing⟩
    simp only [hdrop, htake, hafter]
    rfl

theorem IsHeading.length_le (h : IsHeading line digits description) :
    digits.length ≤ line.length := by
  obtain ⟨⟩ := h
  simp only [List.length_append, List.length_cons]
  omega

/-- A heading is not blank. -/
theorem IsHeading.allBlank_eq_false (h : IsHeading line digits description) :
    allBlank line = false := by
  obtain ⟨⟩ := h
  refine List.all_eq_false.mpr ⟨'/', List.mem_append_right _ List.mem_cons_self, ?_⟩
  decide

/-! ## Lines and their numbers -/

variable {lines : List (List Char)} {P : List Char → Prop} {p : List Char → Bool} {n k : Nat}
  {region : List (List Char × Nat)} {found : List Heading} {h : Heading} {fault : LayoutFault}

/-- A line stands at its number, counted from one. -/
def Stands (lines : List (List Char)) (n : Nat) (line : List Char) : Prop :=
  0 < n ∧ lines[n - 1]? = some line

/-- A heading stands on its line, with its number and its description. -/
def HasHeading (lines : List (List Char)) (h : Heading) : Prop :=
  ∃ line digits description, Stands lines h.line line ∧ IsHeading line digits description ∧
    h.number = numberOfDigits digits ∧ h.description = String.ofList description

/-- The first line with a property stands at the number. -/
structure IsFirst (P : List Char → Prop) (lines : List (List Char)) (n : Nat) : Prop where
  stands : ∃ line, Stands lines n line ∧ P line
  earlier : ∀ m < n, ∀ line, Stands lines m line → ¬ P line

/-- The lines are laid out as a fixture: with the first comments `VALID` and `INVALID`, and with the
first heading behind them. -/
structure HasLayout (lines : List (List Char)) (valid invalid first : Nat) : Prop where
  isFirst_valid : IsFirst (IsMarker "VALID".toList) lines valid
  isFirst_invalid : IsFirst (IsMarker "INVALID".toList) lines invalid
  valid_le : valid ≤ invalid
  invalid_lt : invalid < first
  begins : ∃ h, HasHeading lines h ∧ h.line = first
  blank : ∀ n line, invalid < n → n < first → Stands lines n line → allBlank line = true
  increasing : ∀ g h, HasHeading lines g → HasHeading lines h → invalid < g.line →
    g.line < h.line → g.number < h.number
  code : ∀ h, HasHeading lines h → invalid < h.line → ∃ n line, h.line < n ∧
    Stands lines n line ∧ allBlank line = false ∧
      ∀ g, HasHeading lines g → h.line < g.line → n < g.line

/-- The numbers of the headings behind the comment `INVALID` are short enough to be read. -/
def ShortNumbers (lines : List (List Char)) : Prop :=
  ∀ invalid n line digits description, IsFirst (IsMarker "INVALID".toList) lines invalid →
    invalid < n → Stands lines n line → IsHeading line digits description →
      digits.length ≤ NumberLimit.digits

theorem Stands.eq {other : List Char} (h : Stands lines n line) (hother : Stands lines n other) :
    line = other :=
  Option.some_inj.mp (h.2.symm.trans hother.2)

theorem Stands.le_length (h : Stands lines n line) : n ≤ lines.length := by
  obtain ⟨hpos, hline⟩ := h
  obtain ⟨hlt, -⟩ := List.getElem?_eq_some_iff.mp hline
  omega

/-- The lines behind a line, with their numbers. -/
theorem mem_region_iff : (line, n) ∈ (lines.zipIdx 1).drop k ↔ k < n ∧ Stands lines n line := by
  rw [List.mem_iff_getElem?]
  simp only [List.getElem?_drop, List.getElem?_zipIdx, Option.map_eq_some_iff, Prod.mk.injEq]
  constructor
  · rintro ⟨i, _, hline, rfl, rfl⟩
    refine ⟨by omega, by omega, ?_⟩
    rwa [Nat.add_sub_cancel_left]
  · rintro ⟨hk, hpos, hline⟩
    refine ⟨n - 1 - k, line, ?_, rfl, by omega⟩
    rwa [Nat.add_sub_cancel' (by omega)]

theorem lineWith?_eq_some_iff (hp : ∀ line, p line = true ↔ P line) :
    lineWith? p lines = some n ↔ IsFirst P lines n := by
  rw [lineWith?, Option.map_eq_some_iff]
  simp only [List.findIdx?_eq_some_iff_getElem]
  constructor
  · rintro ⟨i, ⟨hi, hline, hearlier⟩, rfl⟩
    refine ⟨⟨lines[i], ⟨i.succ_pos, List.getElem?_eq_getElem hi⟩, (hp _).mp hline⟩, ?_⟩
    rintro m hm line ⟨hpos, hstands⟩ hholds
    obtain ⟨hlt, rfl⟩ := List.getElem?_eq_some_iff.mp hstands
    exact hearlier (m - 1) (by omega) ((hp _).mpr hholds)
  · rintro ⟨⟨line, ⟨hpos, hstands⟩, hholds⟩, hearlier⟩
    obtain ⟨hlt, rfl⟩ := List.getElem?_eq_some_iff.mp hstands
    refine ⟨n - 1, ⟨hlt, (hp _).mpr hholds, fun j hj hline => ?_⟩, Nat.sub_add_cancel hpos⟩
    exact hearlier (j + 1) (by omega) _ ⟨j.succ_pos, List.getElem?_eq_getElem (by omega)⟩
      ((hp _).mp hline)

/-! ## Headings of a region -/

/-- The heading on a line of a region. -/
def headingAt? (entry : List Char × Nat) : Option Heading :=
  (heading? entry.1).map fun (digits, description) =>
    ⟨entry.2, numberOfDigits digits, String.ofList description⟩

/-- The numbers of the headings in a region are short enough to be read. -/
def ShortIn (region : List (List Char × Nat)) : Prop :=
  ∀ entry ∈ region, ∀ digits description, heading? entry.1 = some (digits, description) →
    digits.length ≤ NumberLimit.digits

theorem headingAt?_eq_none {entry : List Char × Nat} (h : allBlank entry.1 = true) :
    headingAt? entry = none := by
  rw [headingAt?, Option.map_eq_none_iff, Option.eq_none_iff_forall_ne_some]
  rintro ⟨digits, description⟩ heq
  rw [(heading?_iff.mp heq).allBlank_eq_false] at h
  exact nomatch h

theorem headings_of_short (hshort : ShortIn region) :
    headings region = .ok (region.filterMap headingAt?) := by
  induction region with
  | nil => rfl
  | cons entry region ih =>
      obtain ⟨line, n⟩ := entry
      have ih := ih fun e he => hshort e (List.mem_cons_of_mem _ he)
      rw [headings, List.filterMap_cons, headingAt?]
      cases hline : heading? line with
      | none => exact ih
      | some written =>
          obtain ⟨digits, description⟩ := written
          have hle := hshort _ List.mem_cons_self digits description hline
          simp only [if_neg (Nat.not_lt.mpr hle), ih]
          rfl

/-- The headings of a region are read if the first line that is not blank is one of them. -/
theorem regionHeadings_of_short (hshort : ShortIn region) :
    (∀ found, regionHeadings region = .ok found ↔
      (∃ entry rest, region.dropWhile (fun e => allBlank e.1) = entry :: rest ∧
        (headingAt? entry).isSome = true) ∧ found = region.filterMap headingAt?) ∧
    ∀ fault, regionHeadings region = .error fault → fault.IsMalformed := by
  -- the blank lines in front hold no heading
  obtain ⟨hsplit, hblank, -⟩ :=
    (takeWhile_dropWhile_iff (p := fun e => allBlank e.1)).mp ⟨rfl, Eq.refl (region.dropWhile _)⟩
  have hfront := List.filterMap_eq_nil_iff.mpr fun e he => headingAt?_eq_none (hblank e he)
  have hfound := congrArg (List.filterMap headingAt?) hsplit
  rw [List.filterMap_append, hfront, List.nil_append] at hfound
  have hshort : ShortIn (region.dropWhile fun e => allBlank e.1) := fun e he =>
    hshort e ((List.dropWhile_sublist _).subset he)
  rw [hfound, regionHeadings]
  cases hregion : region.dropWhile fun e => allBlank e.1 with
  | nil =>
      refine ⟨fun found => iff_of_false ?_ ?_, ?_⟩
      · rintro ⟨⟩
      · rintro ⟨⟨_, _, ⟨⟩, -⟩, -⟩
      · rintro _ ⟨⟩ path
        rfl
  | cons entry rest =>
      obtain ⟨line, n⟩ := entry
      rw [hregion] at hshort
      cases hline : heading? line with
      | none =>
          refine ⟨fun found => iff_of_false ?_ ?_, fun fault => ?_⟩
          · simp [hline]
          · simp [headingAt?, hline]
          · simp only [hline, Option.isNone_none, if_pos]
            rintro ⟨⟩ path
            rfl
      | some written =>
          simp only [hline, Option.isNone_some, Bool.false_eq_true, if_false,
            headings_of_short hshort]
          refine ⟨fun found => ⟨fun heq => ⟨⟨_, _, rfl, ?_⟩, (Except.ok.inj heq).symm⟩,
            fun hall => ?_⟩, ?_⟩
          · rw [headingAt?, hline]
            rfl
          · rw [hall.2]
          · rintro _ ⟨⟩

/-- The headings behind a line. -/
def headingsBehind (lines : List (List Char)) (k : Nat) : List Heading :=
  ((lines.zipIdx 1).drop k).filterMap headingAt?

theorem mem_headingsBehind_iff :
    h ∈ headingsBehind lines k ↔ k < h.line ∧ HasHeading lines h := by
  rw [headingsBehind, List.mem_filterMap]
  constructor
  · rintro ⟨⟨line, n⟩, hmem, hheading⟩
    obtain ⟨hk, hstands⟩ := mem_region_iff.mp hmem
    obtain ⟨⟨digits, description⟩, hline, rfl⟩ := Option.map_eq_some_iff.mp hheading
    exact ⟨hk, line, digits, description, hstands, heading?_iff.mp hline, rfl, rfl⟩
  · obtain ⟨n, number, name⟩ := h
    rintro ⟨hk, line, digits, description, hstands, hline, rfl, rfl⟩
    refine ⟨(line, n), mem_region_iff.mpr ⟨hk, hstands⟩, ?_⟩
    rw [headingAt?, heading?_iff.mpr hline]
    rfl

/-! ## Sub-cases -/

variable {rest : List Heading} {previous : Option Nat} {cs : List SubCase} {total : Nat}

/-- Behind a heading, and before the next one of those found, a line is not blank. -/
def HasCode (lines : List (List Char)) (found : List Heading) (h : Heading) : Prop :=
  ∃ n line, h.line < n ∧ Stands lines n line ∧ allBlank line = false ∧
    ∀ g ∈ found, h.line < g.line → n < g.line

/-- Some sub-cases share out the lines from one line to another: each begins behind the one before,
holds a line at least, and the last one ends with the lines. -/
inductive Tiles : List SubCase → Nat → Nat → Prop
  | last {c : SubCase} (hle : c.firstLine ≤ c.lastLine) : Tiles [c] c.firstLine c.lastLine
  | cons {c : SubCase} {cs : List SubCase} {last : Nat} (hle : c.firstLine ≤ c.lastLine)
      (hrest : Tiles cs (c.lastLine + 1) last) : Tiles (c :: cs) c.firstLine last

theorem le_lastLineBefore_iff (hsorted : (h :: rest).Pairwise fun a b => a.line < b.line)
    (hn : n ≤ total) : n ≤ lastLineBefore total rest ↔ ∀ g ∈ rest, n < g.line := by
  cases rest with
  | nil => exact iff_of_true hn fun g hg => absurd hg List.not_mem_nil
  | cons next rest =>
      obtain ⟨hfirst, hrest⟩ := List.pairwise_cons.mp hsorted
      have hnext := hfirst next List.mem_cons_self
      rw [lastLineBefore]
      constructor
      · intro hle g hg
        rcases List.mem_cons.mp hg with rfl | hg
        · omega
        · have hlater := (List.pairwise_cons.mp hrest).1 g hg
          omega
      · intro hall
        have hlt := hall next List.mem_cons_self
        omega

/-- The lines of a sub-case hold code if a line behind its heading is not blank. -/
theorem code_iff (hsorted : (h :: rest).Pairwise fun a b => a.line < b.line) :
    ((lines.drop h.line).take (lastLineBefore lines.length rest - h.line)).all allBlank = false ↔
      HasCode lines (h :: rest) h := by
  have hbefore : ∀ {n line}, h.line < n → Stands lines n line →
      (n ≤ lastLineBefore lines.length rest ↔ ∀ g ∈ h :: rest, h.line < g.line → n < g.line) := by
    intro n line _ hstands
    rw [le_lastLineBefore_iff hsorted hstands.le_length, List.forall_mem_cons]
    refine ⟨fun hall => ⟨fun hlt => absurd hlt (Nat.lt_irrefl _), fun g hg _ => hall g hg⟩,
      fun hall g hg => hall.2 g hg ((List.pairwise_cons.mp hsorted).1 g hg)⟩
  rw [List.all_eq_false]
  constructor
  · rintro ⟨line, hmem, hline⟩
    obtain ⟨i, hi⟩ := List.mem_iff_getElem?.mp hmem
    rw [List.getElem?_take, List.getElem?_drop] at hi
    split at hi
    next hlt =>
      have hstands : Stands lines (h.line + i + 1) line := ⟨Nat.succ_pos _, hi⟩
      exact ⟨_, line, by omega, hstands, Bool.not_eq_true _ ▸ hline,
        (hbefore (by omega) hstands).mp (by omega)⟩
    next => exact nomatch hi
  · rintro ⟨n, line, hlt, hstands, hline, hnext⟩
    have hle := (hbefore hlt hstands).mpr hnext
    refine ⟨line, List.mem_iff_getElem?.mpr ⟨n - 1 - h.line, ?_⟩, by simp [hline]⟩
    rw [List.getElem?_take_of_lt (by omega), List.getElem?_drop, Nat.add_sub_cancel' (by omega)]
    exact hstands.2

/-- Sub-cases are made of headings whose numbers increase and which are followed by code. -/
theorem exists_subCases_iff (hsorted : found.Pairwise fun a b => a.line < b.line) :
    (∃ cs, subCases lines previous found = .ok cs) ↔
      (∀ p ∈ previous, ∀ h ∈ found, p < h.number) ∧
        (found.Pairwise fun a b => a.number < b.number) ∧ ∀ h ∈ found, HasCode lines found h := by
  induction found generalizing previous with
  | nil => simp [subCases]
  | cons h rest ih =>
      obtain ⟨hfirst, hrest⟩ := List.pairwise_cons.mp hsorted
      -- the first heading stands before all later ones
      have hlater : (∀ g ∈ rest, HasCode lines (h :: rest) g) ↔ ∀ g ∈ rest, HasCode lines rest g := by
        refine forall₂_congr fun g hg => ?_
        have hnot : ¬ g.line < h.line := (hfirst g hg).not_gt
        simp [HasCode, hnot]
      calc (∃ cs, subCases lines previous (h :: rest) = .ok cs)
          ↔ (∀ p ∈ previous, p < h.number) ∧ HasCode lines (h :: rest) h ∧
              ∃ others, subCases lines (some h.number) rest = .ok others := by
            simp [subCases_cons_eq_ok_iff, code_iff hsorted]
        _ ↔ _ := by
            rw [ih hrest, List.pairwise_cons, List.forall_mem_cons, hlater]
            constructor
            · rintro ⟨hprevious, hcode, hnext, hnumbers, hcodes⟩
              have hnext := hnext h.number rfl
              refine ⟨fun p hp => List.forall_mem_cons.mpr ⟨hprevious p hp, fun g hg => ?_⟩,
                ⟨hnext, hnumbers⟩, hcode, hcodes⟩
              exact (hprevious p hp).trans (hnext g hg)
            · rintro ⟨hprevious, ⟨hnext, hnumbers⟩, hcode, hcodes⟩
              refine ⟨fun p hp => hprevious p hp h List.mem_cons_self, hcode, ?_, hnumbers, hcodes⟩
              rintro _ ⟨⟩
              exact hnext

theorem isMalformed_of_subCases (herror : subCases lines previous found = .error fault) :
    fault.IsMalformed := by
  induction found generalizing previous with
  | nil => exact nomatch herror
  | cons h rest ih =>
      rw [subCases] at herror
      split at herror
      next =>
        obtain rfl := Except.error.inj herror
        exact fun path => rfl
      next =>
      split at herror
      next =>
        obtain rfl := Except.error.inj herror
        exact fun path => rfl
      next => exact ih (Except.map_eq_error_iff.mp herror)

/-- The sub-cases share out the lines from the first heading to the end. -/
theorem tiles_subCases (hsorted : (h :: rest).Pairwise fun a b => a.line < b.line)
    (hcs : subCases lines previous (h :: rest) = .ok cs) : Tiles cs h.line lines.length := by
  induction rest generalizing h previous cs with
  | nil =>
      obtain ⟨-, hcode, others, hothers, rfl⟩ := subCases_cons_eq_ok_iff.mp hcs
      obtain rfl := Except.ok.inj hothers
      obtain ⟨n, line, hlt, hstands, -⟩ := (code_iff hsorted).mp hcode
      exact .last (hlt.le.trans hstands.le_length)
  | cons next rest ih =>
      obtain ⟨-, -, others, hothers, rfl⟩ := subCases_cons_eq_ok_iff.mp hcs
      obtain ⟨hfirst, hrest⟩ := List.pairwise_cons.mp hsorted
      have hlt := hfirst next List.mem_cons_self
      have htiles := ih hrest hothers
      have hbegin : lastLineBefore lines.length (next :: rest) + 1 = next.line :=
        Nat.sub_add_cancel (Nat.one_le_of_lt hlt)
      exact .cons (Nat.le_sub_one_of_lt hlt) (hbegin ▸ htiles)

theorem Tiles.bounds (h : Tiles cs n k) : n ≤ k ∧ ∀ c ∈ cs, n ≤ c.firstLine ∧ c.lastLine ≤ k := by
  induction h with
  | last hle => exact ⟨hle, by simp⟩
  | cons hle hrest ih =>
      obtain ⟨hbehind, hall⟩ := ih
      refine ⟨by omega, List.forall_mem_cons.mpr ⟨⟨le_refl _, by omega⟩, fun c hc => ?_⟩⟩
      have hc := hall c hc
      omega

/-- Each of the lines lies in exactly one of the sub-cases that share them out. -/
theorem Tiles.existsUnique_iff (h : Tiles cs n k) {m : Nat} :
    (n ≤ m ∧ m ≤ k) ↔ ∃! c, c ∈ cs ∧ c.firstLine ≤ m ∧ m ≤ c.lastLine := by
  constructor
  · intro hm
    induction h with
    | last hle => exact ⟨_, ⟨List.mem_singleton_self _, hm⟩, by simp⟩
    | @cons c cs last hle hrest ih =>
        have hlater := hrest.bounds.2
        rcases Nat.lt_or_ge c.lastLine m with hlt | hin
        · obtain ⟨d, ⟨hd, hrange⟩, hunique⟩ := ih ⟨hlt, hm.2⟩
          refine ⟨d, ⟨List.mem_cons_of_mem _ hd, hrange⟩, ?_⟩
          rintro e ⟨he, hline⟩
          rcases List.mem_cons.mp he with rfl | he
          · omega
          · exact hunique e ⟨he, hline⟩
        · refine ⟨c, ⟨List.mem_cons_self, hm.1, hin⟩, ?_⟩
          rintro e ⟨he, hline⟩
          rcases List.mem_cons.mp he with rfl | he
          · rfl
          · have he := hlater e he
            omega
  · rintro ⟨c, ⟨hc, hline⟩, -⟩
    have hc := h.bounds.2 c hc
    omega

/-! ## The layout -/

variable {l : Layout} {valid invalid first : Nat}

theorem ofLines_eq_ok_iff : ofLines lines = .ok l ↔
    IsFirst (IsMarker "VALID".toList) lines l.validLine ∧
      IsFirst (IsMarker "INVALID".toList) lines l.invalidLine ∧ l.validLine ≤ l.invalidLine ∧
      ∃ found, regionHeadings ((lines.zipIdx 1).drop l.invalidLine) = .ok found ∧
        subCases lines none found = .ok l.cases := by
  rw [← lineWith?_eq_some_iff fun _ => marks_iff (by decide),
    ← lineWith?_eq_some_iff fun _ => marks_iff (by decide), ofLines]
  obtain ⟨valid, invalid, cases⟩ := l
  cases hvalid : lineWith? (marks "VALID") lines with
  | none => simp
  | some v =>
  cases hinvalid : lineWith? (marks "INVALID") lines with
  | none => simp
  | some i =>
  dsimp only
  split
  next hlt =>
    refine iff_of_false ?_ ?_
    · rintro ⟨⟩
    · rintro ⟨⟨⟩, ⟨⟩, hle, -⟩
      omega
  next hle =>
  simp only [Except.bind_eq_ok_iff]
  constructor
  · rintro ⟨found, hfound, cs, hcs, ⟨⟩⟩
    exact ⟨rfl, rfl, Nat.le_of_not_lt hle, found, hfound, hcs⟩
  · rintro ⟨⟨⟩, ⟨⟩, -, found, hfound, hcs⟩
    exact ⟨found, hfound, cases, hcs, rfl⟩

theorem ShortNumbers.shortIn (hshort : ShortNumbers lines)
    (hinvalid : IsFirst (IsMarker "INVALID".toList) lines k) :
    ShortIn ((lines.zipIdx 1).drop k) := by
  rintro ⟨line, n⟩ hmem digits description hline
  obtain ⟨hk, hstands⟩ := mem_region_iff.mp hmem
  exact hshort k n line digits description hinvalid hk hstands (heading?_iff.mp hline)

/-- With numbers that are short enough, a text that is no fixture is malformed. -/
theorem ShortNumbers.isMalformed (hshort : ShortNumbers lines)
    (herror : ofLines lines = .error fault) : fault.IsMalformed := by
  rw [ofLines] at herror
  cases hvalid : lineWith? (marks "VALID") lines with
  | none =>
      rw [hvalid] at herror
      obtain rfl := Except.error.inj herror
      exact fun path => rfl
  | some v =>
  cases hinvalid : lineWith? (marks "INVALID") lines with
  | none =>
      rw [hvalid, hinvalid] at herror
      obtain rfl := Except.error.inj herror
      exact fun path => rfl
  | some i =>
  rw [hvalid, hinvalid] at herror
  dsimp only at herror
  split at herror
  next =>
    obtain rfl := Except.error.inj herror
    exact fun path => rfl
  next =>
  have hfirst := (lineWith?_eq_some_iff fun _ => marks_iff (by decide)).mp hinvalid
  rcases Except.bind_eq_error_iff.mp herror with hregion | ⟨found, -, herror⟩
  · exact (regionHeadings_of_short (hshort.shortIn hfirst)).2 _ hregion
  · rcases Except.bind_eq_error_iff.mp herror with hcases | ⟨cs, -, herror⟩
    · exact isMalformed_of_subCases hcases
    · cases herror

/-- In a region the entries before another one are those with smaller numbers. -/
theorem mem_front_of_lt {front rest : List (List Char × Nat)} {entry other : List Char × Nat}
    (hsplit : (lines.zipIdx 1).drop k = front ++ entry :: rest)
    (hother : other ∈ (lines.zipIdx 1).drop k) (hlt : other.2 < entry.2) : other ∈ front := by
  have hsorted : ((lines.zipIdx 1).drop k).Pairwise fun a b => a.2 < b.2 :=
    List.pairwise_map.mp (numbers_region k ▸ List.pairwise_lt_range')
  rw [hsplit] at hother hsorted
  obtain ⟨-, hbehind, -⟩ := List.pairwise_append.mp hsorted
  rcases List.mem_append.mp hother with hfront | hother
  · exact hfront
  · rcases List.mem_cons.mp hother with rfl | hother
    · exact absurd hlt (Nat.lt_irrefl _)
    · exact absurd ((List.pairwise_cons.mp hbehind).1 other hother) hlt.not_gt

/-- The first line of a region that is not blank is a heading if a heading stands behind blank lines
only. -/
theorem region_begins_iff :
    (∃ entry rest, ((lines.zipIdx 1).drop k).dropWhile (fun e => allBlank e.1) = entry :: rest ∧
      (headingAt? entry).isSome = true) ↔
    ∃ h, HasHeading lines h ∧ k < h.line ∧
      ∀ n line, k < n → n < h.line → Stands lines n line → allBlank line = true := by
  constructor
  · rintro ⟨⟨line, n⟩, rest, hdrop, hheading⟩
    obtain ⟨h, hh⟩ := Option.isSome_iff_exists.mp hheading
    obtain ⟨hsplit, hfront, -⟩ := takeWhile_dropWhile_iff.mp ⟨rfl, hdrop⟩
    have hmem : (line, n) ∈ (lines.zipIdx 1).drop k :=
      hsplit ▸ List.mem_append_right _ List.mem_cons_self
    obtain ⟨hk, hhas⟩ := mem_headingsBehind_iff.mp (List.mem_filterMap.mpr ⟨_, hmem, hh⟩)
    have hline : h.line = n := by
      obtain ⟨_, -, rfl⟩ := Option.map_eq_some_iff.mp hh
      rfl
    exact ⟨h, hhas, hk, fun m other hm hlt hstands =>
      hfront _ (mem_front_of_lt hsplit (mem_region_iff.mpr ⟨hm, hstands⟩) (hline ▸ hlt))⟩
  · rintro ⟨h, ⟨line, digits, description, hstands, hline, -⟩, hk, hblank⟩
    have hmem := mem_region_iff.mpr ⟨hk, hstands⟩
    cases hdrop : ((lines.zipIdx 1).drop k).dropWhile fun e => allBlank e.1 with
    | nil =>
        have hall := List.dropWhile_eq_nil_iff.mp hdrop _ hmem
        exact nomatch hline.allBlank_eq_false.symm.trans hall
    | cons entry rest =>
        obtain ⟨other, n⟩ := entry
        refine ⟨_, _, rfl, ?_⟩
        obtain ⟨hsplit, hfront, hnot⟩ := takeWhile_dropWhile_iff.mp ⟨rfl, hdrop⟩
        have hother : (other, n) ∈ (lines.zipIdx 1).drop k :=
          hsplit ▸ List.mem_append_right _ List.mem_cons_self
        obtain ⟨hn, hstands'⟩ := mem_region_iff.mp hother
        -- a line before the heading is blank, and one behind it comes after the heading
        have heq : n = h.line := by
          rcases Nat.lt_trichotomy n h.line with hlt | heq | hgt
          · exact nomatch (hnot _ rfl).symm.trans (hblank n other hn hlt hstands')
          · exact heq
          · have hblank := hfront _ (mem_front_of_lt hsplit hmem hgt)
            exact nomatch hline.allBlank_eq_false.symm.trans hblank
        subst heq
        obtain rfl := hstands'.eq hstands
        rw [headingAt?, heading?_iff.mpr hline]
        rfl

/-- Among headings on increasing lines, the numbers increase with the lines. -/
theorem numbers_lt_iff (hsorted : found.Pairwise fun a b => a.line < b.line) :
    (found.Pairwise fun a b => a.number < b.number) ↔
      ∀ g ∈ found, ∀ h ∈ found, g.line < h.line → g.number < h.number := by
  constructor
  · intro hnumbers g hg h hh hlt
    obtain ⟨i, hi, rfl⟩ := List.getElem_of_mem hg
    obtain ⟨j, hj, rfl⟩ := List.getElem_of_mem hh
    rcases Nat.lt_trichotomy i j with hij | rfl | hji
    · exact List.pairwise_iff_getElem.mp hnumbers i j hi hj hij
    · exact absurd hlt (Nat.lt_irrefl _)
    · exact absurd (List.pairwise_iff_getElem.mp hsorted j i hj hi hji) hlt.not_gt
  · intro hall
    exact hsorted.imp_of_mem fun {g h} hg hh hlt => hall g hg h hh hlt

/-- Lines with the layout of a fixture are one. -/
theorem HasLayout.exists_ofLines (hlayout : HasLayout lines valid invalid first)
    (hshort : ShortNumbers lines) : ∃ l, ofLines lines = .ok l := by
  obtain ⟨h, hh, rfl⟩ := hlayout.begins
  have hregion := ((regionHeadings_of_short (hshort.shortIn hlayout.isFirst_invalid)).1 _).mpr
    ⟨region_begins_iff.mpr ⟨h, hh, hlayout.invalid_lt, hlayout.blank⟩, rfl⟩
  obtain ⟨hsorted, -⟩ := sorted_regionHeadings hregion
  have hnumbers := (numbers_lt_iff hsorted).mpr fun g hg h hh => by
    obtain ⟨hbehind, hg⟩ := mem_headingsBehind_iff.mp hg
    exact hlayout.increasing g h hg (mem_headingsBehind_iff.mp hh).2 hbehind
  have hcode : ∀ g ∈ headingsBehind lines invalid,
      HasCode lines (headingsBehind lines invalid) g := by
    intro g hg
    obtain ⟨hbehind, hg⟩ := mem_headingsBehind_iff.mp hg
    obtain ⟨n, line, hn, hstands, hline, hnext⟩ := hlayout.code g hg hbehind
    exact ⟨n, line, hn, hstands, hline, fun other hother => hnext other (mem_headingsBehind_iff.mp hother).2⟩
  have hprevious : ∀ p ∈ none, ∀ h ∈ headingsBehind lines invalid, p < h.number :=
    fun p hp => nomatch hp
  obtain ⟨cs, hcs⟩ := (exists_subCases_iff hsorted).mpr ⟨hprevious, hnumbers, hcode⟩
  exact ⟨⟨valid, invalid, cs⟩, ofLines_eq_ok_iff.mpr
    ⟨hlayout.isFirst_valid, hlayout.isFirst_invalid, hlayout.valid_le, _, hregion, hcs⟩⟩

/-- A fixture has the layout of one, and its sub-cases share out the lines from its first heading
on. -/
theorem ShortNumbers.hasLayout (hshort : ShortNumbers lines) (hl : ofLines lines = .ok l) :
    ∃ first, HasLayout lines l.validLine l.invalidLine first ∧
      Tiles l.cases first lines.length ∧
      ∀ h, h ∈ l.cases.map headingOf ↔ l.invalidLine < h.line ∧ HasHeading lines h := by
  obtain ⟨hvalid, hinvalid, hle, found, hfound, hcs⟩ := ofLines_eq_ok_iff.mp hl
  obtain ⟨hsorted, -⟩ := sorted_regionHeadings hfound
  obtain ⟨-, hnumbers, hcode⟩ := (exists_subCases_iff hsorted).mp ⟨_, hcs⟩
  obtain ⟨hbegins, heq⟩ := ((regionHeadings_of_short (hshort.shortIn hinvalid)).1 _).mp hfound
  obtain ⟨first, hfirst, hlt, hblank⟩ := region_begins_iff.mp hbegins
  have hmem : ∀ h, h ∈ found ↔ l.invalidLine < h.line ∧ HasHeading lines h := fun h =>
    heq ▸ mem_headingsBehind_iff
  refine ⟨first.line, ⟨hvalid, hinvalid, hle, hlt, ⟨first, hfirst, rfl⟩, hblank,
    fun g h hg hh hbehind hlines => ?_, fun h hh hbehind => ?_⟩, ?_, headings_subCases hcs ▸ hmem⟩
  · exact (numbers_lt_iff hsorted).mp hnumbers g ((hmem g).mpr ⟨hbehind, hg⟩) h
      ((hmem h).mpr ⟨hbehind.trans hlines, hh⟩) hlines
  · obtain ⟨n, line, hn, hstands, hline, hnext⟩ := hcode h ((hmem h).mpr ⟨hbehind, hh⟩)
    exact ⟨n, line, hn, hstands, hline, fun g hg hlines =>
      hnext g ((hmem g).mpr ⟨hbehind.trans hlines, hg⟩) hlines⟩
  · -- the headings begin with the first one behind the blank lines
    have hin := (hmem first).mpr ⟨hlt, hfirst⟩
    cases found with
    | nil => exact absurd hin List.not_mem_nil
    | cons h rest =>
        have hline : h.line = first.line := by
          rcases List.mem_cons.mp hin with rfl | hlater
          · rfl
          · have hbefore := (List.pairwise_cons.mp hsorted).1 first hlater
            obtain ⟨hbehind, line, _, _, hstands, hheading, -⟩ := (hmem h).mp List.mem_cons_self
            have hline := hblank h.line line hbehind hbefore hstands
            exact nomatch hheading.allBlank_eq_false.symm.trans hline
        exact hline ▸ tiles_subCases hsorted hcs

/-- The lines of a text. -/
def linesOf (source : String) : List (List Char) := linesFrom [] false source.toList

/-- A text, the numbers of whose sub-cases are not too long to be read, is a fixture exactly if its
lines have the layout of one, and is malformed otherwise.  The sub-cases of a fixture share out its
lines from the first heading to the end, so that each of these lines lies in exactly one of them;
their numbers increase, and they begin with the headings behind the comment `INVALID`. -/
theorem ofText_exact {source : String} (hshort : ShortNumbers (linesOf source)) :
    ((∃ l, ofText source = .ok l) ↔
      ∃ valid invalid first, HasLayout (linesOf source) valid invalid first) ∧
    ((¬ ∃ valid invalid first, HasLayout (linesOf source) valid invalid first) →
      ∃ fault, ofText source = .error fault ∧ fault.IsMalformed) ∧
    ∀ l, ofText source = .ok l → ∃ first,
      HasLayout (linesOf source) l.validLine l.invalidLine first ∧
      Tiles l.cases first (linesOf source).length ∧
      (∀ n, first ≤ n ∧ n ≤ (linesOf source).length ↔
        ∃! c, c ∈ l.cases ∧ c.firstLine ≤ n ∧ n ≤ c.lastLine) ∧
      (l.cases.Pairwise fun a b => a.number < b.number) ∧
      ∀ h, h ∈ l.cases.map headingOf ↔ l.invalidLine < h.line ∧ HasHeading (linesOf source) h := by
  have hiff : (∃ l, ofText source = .ok l) ↔
      ∃ valid invalid first, HasLayout (linesOf source) valid invalid first := by
    constructor
    · rintro ⟨l, hl⟩
      obtain ⟨first, hlayout, -⟩ := hshort.hasLayout hl
      exact ⟨_, _, first, hlayout⟩
    · rintro ⟨valid, invalid, first, hlayout⟩
      exact hlayout.exists_ofLines hshort
  refine ⟨hiff, fun hnone => ?_, fun l hl => ?_⟩
  · cases hresult : ofText source with
    | ok l => exact absurd (hiff.mp ⟨l, hresult⟩) hnone
    | error fault => exact ⟨fault, rfl, hshort.isMalformed hresult⟩
  · obtain ⟨first, hlayout, htiles, hheadings⟩ := hshort.hasLayout hl
    exact ⟨first, hlayout, htiles, fun n => htiles.existsUnique_iff,
      (ordered_of_ofLines hl).numbers_lt, hheadings⟩

theorem shortNumbers_of_length (h : ∀ line ∈ lines, line.length ≤ NumberLimit.digits) :
    ShortNumbers lines := fun _ _ _ _ _ _ _ hstands hheading =>
  hheading.length_le.trans (h _ (List.mem_of_getElem? hstands.2))

/-- The two sub-cases of `twoCases` share out its lines from the fourth one on. -/
theorem ofText_exact_twoCases :
    ShortNumbers (linesOf twoCases) ∧ ofText twoCases = .ok ofTwoCases ∧
      HasLayout (linesOf twoCases) 1 3 4 ∧ Tiles ofTwoCases.cases 4 7 := by
  have hshort : ShortNumbers (linesOf twoCases) := shortNumbers_of_length (by decide +kernel)
  have hlayout : ofText twoCases = .ok ofTwoCases := by decide +kernel
  have hlength : (linesOf twoCases).length = 7 := by decide +kernel
  obtain ⟨first, hhas, htiles, -⟩ := (ofText_exact hshort).2.2 _ hlayout
  obtain rfl : first = 4 := by
    cases htiles
    rfl
  exact ⟨hshort, hlayout, hhas, hlength ▸ htiles⟩

end Layout

end CodeConventions
