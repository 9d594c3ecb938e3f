import CodeConventions.Diagnostic.Basic
import CodeConventions.Proofs.Text.Spelling
import CodeConventions.Source.SourceText

/-!
# Places in a source

The line of an offset is told by the line feeds before it, and its column by the last of them: the
line that the offset lies on begins just after that line feed, or at the beginning of the source.
`locates_spanOf` says that the span of a range names the places of both its ends in this way.

So a place gives back the offset that lies there, and of two offsets the smaller one lies at the
place that comes first, line by line and in a line by columns (`places_tell_offsets`).  Two offsets
on lines with one number count their columns from one offset, as the number of a line tells where
the line begins (`lineStart?_eq_some_iff`).

The text of a range takes as many bytes as the range has, if the source is text and neither end of
the range lies inside a character.

The bytes of a text are those of its characters one after the other, and no character but the line
feed has a byte that is a line feed.  So the line that a source gives to the offset of a character
is one more than the line feeds among the characters before it (`line_positionOf`).
-/

namespace CodeConventions

/-- The line that an offset lies on begins at `k`. -/
structure LineBegins (bytes : List UInt8) (offset k : Nat) : Prop where
  le : k ≤ offset
  after : k = 0 ∨ bytes[k - 1]? = some 10
  unbroken : ∀ i, k ≤ i → i < offset → bytes[i]? ≠ some 10

theorem lineBegins_length (bytes : List UInt8) :
    LineBegins bytes bytes.length
      (bytes.length - (bytes.reverse.takeWhile (· != 10)).length) := by
  induction bytes using List.reverseRecOn with
  | nil => exact ⟨le_rfl, Or.inl rfl, fun i _ hi => absurd hi (Nat.not_lt_zero i)⟩
  | append_singleton front last ih =>
    rw [List.reverse_append, List.reverse_singleton, List.singleton_append, List.length_append,
      List.length_singleton]
    by_cases hfeed : last = 10
    · -- the last byte ends a line
      subst hfeed
      have hnone : (10 :: front.reverse).takeWhile (· != (10 : UInt8)) = [] := rfl
      rw [hnone, List.length_nil, Nat.sub_zero]
      refine ⟨le_rfl, Or.inr ?_, fun i hle hlt => by omega⟩
      rw [Nat.add_sub_cancel, List.getElem?_concat_length]
    · have hlonger : (last :: front.reverse).takeWhile (· != 10) =
          last :: front.reverse.takeWhile (· != 10) :=
        List.takeWhile_cons_of_pos (bne_iff_ne.mpr hfeed)
      have hshort := (List.takeWhile_sublist (· != 10) (l := front.reverse)).length_le
      rw [List.length_reverse] at hshort
      rw [hlonger, List.length_cons, Nat.add_sub_add_right]
      refine ⟨by omega, ?_, ?_⟩
      · rcases ih.after with hzero | hbyte
        · exact Or.inl hzero
        · refine Or.inr ?_
          rwa [List.getElem?_append_left (List.getElem?_eq_some_iff.mp hbyte).1]
      · intro i hle hlt
        by_cases hi : i < front.length
        · rw [List.getElem?_append_left hi]
          exact ih.unbroken i hle hi
        · obtain rfl : i = front.length := by omega
          rw [List.getElem?_concat_length]
          exact fun heq => hfeed (Option.some_inj.mp heq)

theorem LineBegins.of_take {bytes : List UInt8} {offset k : Nat}
    (h : LineBegins (bytes.take offset) offset k) : LineBegins bytes offset k := by
  refine ⟨h.le, ?_, fun i hle hlt => ?_⟩
  · rcases h.after with hzero | hbyte
    · exact Or.inl hzero
    · rw [List.getElem?_take] at hbyte
      split at hbyte
      · exact Or.inr hbyte
      · cases hbyte
  · have hnone := h.unbroken i hle hlt
    rwa [List.getElem?_take_of_lt hlt] at hnone

/-! ## The lines of a source -/

/-- The offset at which a line begins, where a line has the number of the line feeds before it: just
after the line feed with that number, or at the beginning of the source. -/
def lineStart? : List UInt8 → Nat → Option Nat
  | _, 0 => some 0
  | [], _ + 1 => none
  | b :: bytes, k + 1 => (lineStart? bytes (if b = 10 then k else k + 1)).map (· + 1)

/-- A line begins after as many line feeds as its number says, and right after the last of them. -/
theorem lineStart?_eq_some_iff {bytes : List UInt8} {k s : Nat} :
    lineStart? bytes k = some s ↔
      (bytes.take s).count 10 = k ∧ (s = 0 ∨ bytes[s - 1]? = some 10) := by
  induction bytes generalizing k s with
  | nil => cases k <;> simp [lineStart?, eq_comm]
  | cons b bytes ih =>
      cases s with
      | zero => cases k <;> simp [lineStart?]
      | succ s =>
          have hlast : (b :: bytes)[s]? = some 10 ↔
              s = 0 ∧ b = 10 ∨ s ≠ 0 ∧ bytes[s - 1]? = some 10 := by
            cases s <;> simp
          have hbefore : s ≠ 0 → bytes[s - 1]? = some 10 → (bytes.take s).count 10 ≠ 0 := by
            intro hs hbyte
            have hmem : (10 : UInt8) ∈ bytes.take s :=
              List.mem_of_getElem? (i := s - 1) (by rwa [List.getElem?_take_of_lt (by omega)])
            exact (List.count_pos_iff.mpr hmem).ne'
          rw [List.take_succ_cons, Nat.add_sub_cancel, hlast]
          cases k with
          | zero =>
              rw [lineStart?]
              grind
          | succ k =>
              have hnone : s = 0 → (bytes.take s).count 10 = 0 := by
                rintro rfl
                rfl
              rw [lineStart?, Option.map_eq_some_iff]
              simp only [Nat.add_right_cancel_iff, exists_eq_right, ih, List.count_cons,
                beq_iff_eq]
              grind

namespace LineBegins

variable {bytes : List UInt8} {offset k : Nat}

/-- No line feed lies between the beginning of a line and an offset on the line. -/
theorem count_take (h : LineBegins bytes offset k) :
    (bytes.take offset).count 10 = (bytes.take k).count 10 := by
  have hnone : (10 : UInt8) ∉ (bytes.drop k).take (offset - k) := by
    intro hmem
    obtain ⟨i, hbyte⟩ := List.mem_iff_getElem?.mp hmem
    rw [List.getElem?_take] at hbyte
    split at hbyte
    · rw [List.getElem?_drop] at hbyte
      exact h.unbroken (k + i) (Nat.le_add_right k i) (by omega) hbyte
    · cases hbyte
  rw [← Nat.add_sub_cancel' h.le, List.take_add, List.count_append,
    List.count_eq_zero_of_not_mem hnone, Nat.add_zero]

theorem lineStart?_eq (h : LineBegins bytes offset k) :
    lineStart? bytes ((bytes.take offset).count 10) = some k :=
  lineStart?_eq_some_iff.mpr ⟨h.count_take.symm, h.after⟩

end LineBegins

/-- The place at which a span begins; places are in order line by line, and by columns in a line. -/
def Span.startPlace (s : Span) : ℤ ×ₗ ℤ := toLex (s.line, s.column)

/-- The place at which a span ends. -/
def Span.stopPlace (s : Span) : ℤ ×ₗ ℤ := toLex (s.stopLine, s.stopColumn)

namespace SourceText

variable (t : SourceText) {a b : Nat}

theorem range_all : t.range 0 t.size = t.bytes.toList := by
  simp [range_eq, size]

/-- The line and the column are those of an offset: as many line feeds lie before the offset as
lines before its line, and the column counts on from the beginning of the line. -/
structure LiesAt (offset : Nat) (line column : Int) : Prop where
  line_eq : line = (t.bytes.toList.take offset).count 10 + 1
  column_eq : ∃ k, LineBegins t.bytes.toList offset k ∧ column = offset - k + 1

theorem liesAt_positionOf (ha : a ≤ t.size) :
    t.LiesAt a (t.positionOf a).line (t.positionOf a).column := by
  have hlength : t.bytes.toList.length = t.size := Array.length_toList
  have hcut : bytesBefore t.bytes.toList.length a = a := by
    unfold bytesBefore
    rw [if_pos (Int.natCast_nonneg a), Int.toNat_natCast, hlength, min_eq_left ha]
  unfold positionOf Position.ofOffset
  rw [range_all, hcut]
  have hbegins := lineBegins_length (t.bytes.toList.take a)
  rw [List.length_take, hlength, min_eq_left ha] at hbegins
  refine ⟨by push_cast; rfl, _, hbegins.of_take, ?_⟩
  dsimp only
  rw [List.length_take, hlength, min_eq_left ha]

/-- The span is that of a range of the source, with the places of both ends. -/
def Locates (s : Span) : Prop :=
  ∃ a b : Nat, s.start = a ∧ s.stop = b ∧ a ≤ b ∧ b ≤ t.size ∧
    t.LiesAt a s.line s.column ∧ t.LiesAt b s.stopLine s.stopColumn

theorem locates_spanOf (hab : a ≤ b) (hb : b ≤ t.size) : t.Locates (t.spanOf a b) :=
  ⟨a, b, rfl, rfl, hab, hb, t.liesAt_positionOf (hab.trans hb), t.liesAt_positionOf hb⟩

/-! ## Places and offsets -/

/-- The offset at a place: its line begins just after as many line feeds as there are lines before
it, and its column counts on from there. -/
def offsetAt? (line column : Int) : Option Int :=
  (lineStart? t.bytes.toList (line - 1).toNat).map fun s : Nat => s + (column - 1)

section Offsets

variable {t} {line column line' column' : Int}

namespace LiesAt

theorem exists_lineStart? (h : t.LiesAt a line column) :
    ∃ k, lineStart? t.bytes.toList ((t.bytes.toList.take a).count 10) = some k ∧ k ≤ a ∧
      column = a - k + 1 := by
  obtain ⟨k, hk, hcolumn⟩ := h.column_eq
  exact ⟨k, hk.lineStart?_eq, hk.le, hcolumn⟩

theorem one_le (h : t.LiesAt a line column) : 1 ≤ line ∧ 1 ≤ column := by
  obtain ⟨k, _, hle, hcolumn⟩ := h.exists_lineStart?
  have hline := h.line_eq
  omega

/-- The place at which an offset lies tells the offset. -/
theorem offsetAt?_eq (h : t.LiesAt a line column) : t.offsetAt? line column = some (a : Int) := by
  obtain ⟨k, hk, _, hcolumn⟩ := h.exists_lineStart?
  have hnumber : (line - 1).toNat = (t.bytes.toList.take a).count 10 := by
    have hline := h.line_eq
    omega
  rw [offsetAt?, hnumber, hk, Option.map_some, hcolumn]
  exact congrArg some (by omega)

/-- An offset lies at one place only. -/
theorem unique (h : t.LiesAt a line column) (h' : t.LiesAt a line' column') :
    line = line' ∧ column = column' := by
  obtain ⟨k, hk, _, hcolumn⟩ := h.exists_lineStart?
  obtain ⟨k', hk', _, hcolumn'⟩ := h'.exists_lineStart?
  obtain rfl : k = k' := Option.some_inj.mp (hk.symm.trans hk')
  exact ⟨h.line_eq.trans h'.line_eq.symm, hcolumn.trans hcolumn'.symm⟩

/-- Of two offsets the smaller one lies at the place that comes first. -/
theorem lt_of_lt (ha : t.LiesAt a line column) (hb : t.LiesAt b line' column') (hab : a < b) :
    toLex (line, column) < toLex (line', column') := by
  have hcount : (t.bytes.toList.take a).count 10 ≤ (t.bytes.toList.take b).count 10 :=
    (List.take_sublist_take_left hab.le).count_le 10
  have hline := ha.line_eq
  have hline' := hb.line_eq
  rw [Prod.Lex.toLex_lt_toLex]
  dsimp only
  rcases hcount.lt_or_eq with hlt | heq
  · exact Or.inl (by omega)
  · -- on one line, both columns count from its beginning
    obtain ⟨k, hk, _, hcolumn⟩ := ha.exists_lineStart?
    obtain ⟨k', hk', _, hcolumn'⟩ := hb.exists_lineStart?
    rw [heq, hk', Option.some_inj] at hk
    exact Or.inr ⟨by omega, by omega⟩

theorem le_iff (ha : t.LiesAt a line column) (hb : t.LiesAt b line' column') :
    toLex (line, column) ≤ toLex (line', column') ↔ a ≤ b := by
  constructor
  · intro hle
    by_contra hlt
    exact absurd (hb.lt_of_lt ha (not_le.mp hlt)) (not_lt.mpr hle)
  · intro hab
    rcases hab.lt_or_eq with hlt | rfl
    · exact (ha.lt_of_lt hb hlt).le
    · obtain ⟨rfl, rfl⟩ := ha.unique hb
      exact le_rfl

end LiesAt

/-- Spans begin in the order of their offsets. -/
theorem Locates.startPlace_le_iff {s s' : Span} (hs : t.Locates s) (hs' : t.Locates s') :
    s.startPlace ≤ s'.startPlace ↔ s.start ≤ s'.start := by
  obtain ⟨a, _, ha, _, _, _, hplace, _⟩ := hs
  obtain ⟨a', _, ha', _, _, _, hplace', _⟩ := hs'
  rw [Span.startPlace, Span.startPlace, hplace.le_iff hplace', ha, ha', Int.ofNat_le]

/-- Places are another way to write offsets.  Lines and columns count from one; a range begins where
it ends or before, and exactly where it ends if it is empty; the place of each end gives back the
offset of that end; and diagnostics in a source are in the order of their offsets exactly if they
are in the order of their places. -/
theorem places_tell_offsets (hab : a ≤ b) (hb : b ≤ t.size) :
    (1 ≤ (t.spanOf a b).line ∧ 1 ≤ (t.spanOf a b).column ∧
      1 ≤ (t.spanOf a b).stopLine ∧ 1 ≤ (t.spanOf a b).stopColumn) ∧
    (t.spanOf a b).startPlace ≤ (t.spanOf a b).stopPlace ∧
    ((t.spanOf a b).startPlace = (t.spanOf a b).stopPlace ↔ a = b) ∧
    t.offsetAt? (t.spanOf a b).line (t.spanOf a b).column = some (a : Int) ∧
    t.offsetAt? (t.spanOf a b).stopLine (t.spanOf a b).stopColumn = some (b : Int) ∧
    ∀ ds : List Diagnostic, (∀ d ∈ ds, t.Locates d.span) →
      (ds.Pairwise (fun d e => d.span.start ≤ e.span.start) ↔
        ds.Pairwise fun d e => d.span.startPlace ≤ e.span.startPlace) := by
  have hstart := t.liesAt_positionOf (hab.trans hb)
  have hstop := t.liesAt_positionOf hb
  refine ⟨?_, (hstart.le_iff hstop).mpr hab, ?_, hstart.offsetAt?_eq, hstop.offsetAt?_eq,
    fun ds hds => ?_⟩
  · exact ⟨hstart.one_le.1, hstart.one_le.2, hstop.one_le.1, hstop.one_le.2⟩
  · rw [le_antisymm_iff, le_antisymm_iff]
    exact and_congr (hstart.le_iff hstop) (hstop.le_iff hstart)
  · exact List.Pairwise.iff_of_mem fun hd he => ((hds _ hd).startPlace_le_iff (hds _ he)).symm

/-- Two letters with an empty line between them. -/
def threeLines : SourceText := ⟨#[97, 10, 10, 98]⟩

/-- The range of the two line feeds begins at the end of the first line and ends at the beginning of
the third. -/
theorem places_tell_offsets_threeLines :
    3 ≤ threeLines.size ∧ threeLines.spanOf 1 3 = ⟨1, 3, 1, 2, 3, 1⟩ ∧
      threeLines.offsetAt? 1 2 = some 1 ∧ threeLines.offsetAt? 3 1 = some 3 ∧
      (threeLines.spanOf 1 3).startPlace ≤ (threeLines.spanOf 1 3).stopPlace := by
  have hsize : 3 ≤ threeLines.size := by decide
  obtain ⟨_, hle, _, hstart, hstop, _⟩ :=
    places_tell_offsets (t := threeLines) (a := 1) (b := 3) (by decide) hsize
  exact ⟨hsize, by decide, hstart, hstop, hle⟩

end Offsets

/-! ## Texts of ranges -/

/-- The offset is not inside a character. -/
def IsBoundary (offset : Nat) : Prop := Text.Utf8.IsBoundary t.bytes.toList offset

variable {t}

open Text.Utf8

/-- A range of a text spells its text. -/
theorem spells_range {cs : List Char} (h : Spells t.bytes.toList cs) (ha : t.IsBoundary a)
    (hb : t.IsBoundary b) (hab : a ≤ b) : Spells (t.range a b) (t.textIn a b).toList := by
  obtain ⟨_, back, _, _, hback⟩ := h.cut ha
  have hstop : Text.Utf8.IsBoundary (t.bytes.toList.drop a) (b - a) := by
    intro x hx
    rw [List.getElem?_drop, Nat.add_sub_cancel' hab] at hx
    exact hb x hx
  obtain ⟨text, _, _, htext, _⟩ := hback.cut hstop
  rw [← range_eq] at htext
  rwa [textIn, String.toList_ofList, htext.decode_eq]

/-- The text of a range takes up the range. -/
theorem byteLength_textIn {cs : List Char} (h : Spells t.bytes.toList cs) (ha : t.IsBoundary a)
    (hb : t.IsBoundary b) (hab : a ≤ b) (hsize : b ≤ t.size) :
    byteLength (t.textIn a b).toList = b - a := by
  rw [(spells_range h ha hb hab).byteLength_eq, range_eq, List.length_take, List.length_drop,
    Array.length_toList]
  unfold size at hsize
  omega

end SourceText

/-! ## Lines of a source that is a text -/

namespace Text.Utf8

theorem ofNat_ne_ofNat {m n : Nat} (hm : m < 256) (hn : n < 256) (hne : m ≠ n) :
    UInt8.ofNat m ≠ UInt8.ofNat n := by
  intro heq
  have hnumber := congrArg UInt8.toNat heq
  rw [UInt8.toNat_ofNat', UInt8.toNat_ofNat', Nat.mod_eq_of_lt hm, Nat.mod_eq_of_lt hn] at hnumber
  exact hne hnumber

/-- The byte of a character that is a single byte stands in the bytes of no other character. -/
theorem not_mem_utf8EncodeChar {a c : Char} (ha : a.toNat < 0x80) (hc : c ≠ a) :
    UInt8.ofNat a.toNat ∉ String.utf8EncodeChar c := by
  have hnumber : a.toNat ≠ c.val.toNat := fun heq => hc (Char.toNat_inj.mp heq.symm)
  unfold String.utf8EncodeChar
  dsimp only
  split_ifs <;> simp only [List.mem_cons, List.not_mem_nil, or_false, not_or]
  · exact ofNat_ne_ofNat (by omega) (by omega) hnumber
  · exact ⟨ofNat_ne_ofNat (by omega) (by omega) (by omega),
      ofNat_ne_ofNat (by omega) (by omega) (by omega)⟩
  · exact ⟨ofNat_ne_ofNat (by omega) (by omega) (by omega),
      ofNat_ne_ofNat (by omega) (by omega) (by omega),
      ofNat_ne_ofNat (by omega) (by omega) (by omega)⟩
  · exact ⟨ofNat_ne_ofNat (by omega) (by omega) (by omega),
      ofNat_ne_ofNat (by omega) (by omega) (by omega),
      ofNat_ne_ofNat (by omega) (by omega) (by omega),
      ofNat_ne_ofNat (by omega) (by omega) (by omega)⟩

theorem count_flatMap_utf8EncodeChar (cs : List Char) :
    (cs.flatMap String.utf8EncodeChar).count 10 = cs.count '\n' := by
  induction cs with
  | nil => rfl
  | cons c cs ih =>
      rw [List.flatMap_cons, List.count_append, ih]
      by_cases hc : c = '\n'
      · subst hc
        rw [List.count_cons_self, Nat.add_comm]
        rfl
      · have hfeed : (10 : UInt8) ∉ String.utf8EncodeChar c :=
          not_mem_utf8EncodeChar (a := '\n') (by decide) hc
        rw [List.count_eq_zero_of_not_mem hfeed, List.count_cons_of_ne hc, Nat.zero_add]

theorem length_flatMap_utf8EncodeChar (cs : List Char) :
    (cs.flatMap String.utf8EncodeChar).length = byteLength cs := by
  induction cs with
  | nil => rfl
  | cons c cs ih =>
      rw [List.flatMap_cons, List.length_append, String.length_utf8EncodeChar, ih, byteLength_cons]

end Text.Utf8

namespace SourceText

open Text.Utf8

theorem bytes_ofString (s : String) :
    (ofString s).bytes.toList = s.toList.flatMap String.utf8EncodeChar := by
  have hbytes : s.toUTF8 = s.toList.utf8Encode := by simp
  rw [ofString, hbytes, List.utf8Encode, List.data_toByteArray]

/-- The line of the offset of a character follows the line feeds before the character. -/
theorem line_positionOf {s : String} {front back : List Char} (hs : s.toList = front ++ back) :
    ((ofString s).positionOf (byteLength front)).line = front.count '\n' + 1 := by
  have hbytes := bytes_ofString s
  rw [hs, List.flatMap_append] at hbytes
  have hsize : byteLength front ≤ (ofString s).size := by
    have hlength := congrArg List.length hbytes
    rw [Array.length_toList, List.length_append, length_flatMap_utf8EncodeChar] at hlength
    unfold size
    omega
  have hline := ((ofString s).liesAt_positionOf hsize).line_eq
  rw [hbytes, ← length_flatMap_utf8EncodeChar, List.take_left, count_flatMap_utf8EncodeChar,
    length_flatMap_utf8EncodeChar] at hline
  exact_mod_cast hline

end SourceText

end CodeConventions
