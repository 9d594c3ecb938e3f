import Mathlib
import CodeConventions.Proofs.Text.Rows
import CodeConventions.Text.Words

/-!
# The lines of a joined text

Texts that are joined with a line feed come back as the lines of the whole, if none of them holds a
line feed of its own (`feedLines_joined`).  Each line feed that does stand in one of them makes one
line more (`length_feedLines_joined`).

Line feeds are not the only characters that end lines.  Of a text that is joined from texts without
any such character, and does not end with an empty one, the lines are the same in either sense
(`lines_joined`).
-/

namespace CodeConventions.Text

/-- The lines of a text where only line feeds end lines. -/
def feedLines (s : String) : List String := (splitAtChar '\n' s.toList).map String.ofList

/-- The character is a line feed. -/
def isLineFeed (c : Char) : Bool := c == '\n'

/-- How many characters of a text satisfy a condition. -/
def howMany (p : Char → Bool) (s : String) : Nat := s.toList.countP p

/-- How many characters of some texts satisfy a condition. -/
def howManyIn (p : Char → Bool) (texts : List String) : Nat := (texts.map (howMany p)).sum

variable {c sep : Char} {cs front back : List Char} {parts : List (List Char)}

/-! ## Counting characters -/

section Counting

variable {p : Char → Bool} {s sepText : String} {texts : List String}

theorem howMany_append (p : Char → Bool) (s t : String) :
    howMany p (s ++ t) = howMany p s + howMany p t := by
  rw [howMany, String.toList_append, List.countP_append]
  rfl

theorem howMany_eq_zero_iff : howMany p s = 0 ↔ ∀ c ∈ s.toList, p c = false := by
  simp only [howMany, List.countP_eq_zero, Bool.not_eq_true]

theorem howManyIn_eq_zero_iff : howManyIn p texts = 0 ↔ ∀ s ∈ texts, howMany p s = 0 := by
  rw [howManyIn, List.sum_eq_zero_iff]
  exact List.forall_mem_map

theorem howManyIn_append (p : Char → Bool) (front back : List String) :
    howManyIn p (front ++ back) = howManyIn p front + howManyIn p back := by
  rw [howManyIn, List.map_append, List.sum_append]
  rfl

theorem howManyIn_flatMap_congr {α : Type} {f g : α → List String} {items : List α}
    (h : ∀ a ∈ items, howManyIn p (f a) = howManyIn p (g a)) :
    howManyIn p (items.flatMap f) = howManyIn p (items.flatMap g) := by
  induction items with
  | nil => rfl
  | cons a items ih =>
      obtain ⟨ha, hitems⟩ := List.forall_mem_cons.mp h
      rw [List.flatMap_cons, List.flatMap_cons, howManyIn_append, howManyIn_append, ha, ih hitems]

/-- A separator without such characters adds none. -/
theorem howMany_joined (hsep : howMany p sepText = 0) :
    howMany p (joined sepText texts) = howManyIn p texts := by
  rw [howMany, joined, String.toList_intercalate]
  induction texts with
  | nil => rfl
  | cons s more ih =>
      cases more with
      | nil =>
          rw [List.map_singleton, List.intercalate_singleton]
          exact (List.sum_singleton (x := howMany p s)).symm
      | cons next more =>
          rw [List.map_cons, List.map_cons, List.intercalate_cons_cons, List.countP_append,
            List.countP_append, ← List.map_cons, ih]
          show howMany p s + howMany p sepText + _ = _
          rw [hsep]
          rfl

end Counting

/-! ## Pieces between separators -/

theorem splitAtChar_cons_of_ne (hc : c ≠ sep) :
    splitAtChar sep (c :: cs) = prepend c (splitAtChar sep cs) := by
  rw [splitAtChar, if_neg hc]
  cases splitAtChar sep cs <;> rfl

theorem length_prepend_splitAtChar :
    (prepend c (splitAtChar sep cs)).length = (splitAtChar sep cs).length := by
  cases h : splitAtChar sep cs with
  | nil => exact absurd h (splitAtChar_ne_nil sep cs)
  | cons piece pieces => rfl

/-- There is one piece more than there are separators. -/
theorem length_splitAtChar (sep : Char) (cs : List Char) :
    (splitAtChar sep cs).length = cs.count sep + 1 := by
  induction cs with
  | nil => rfl
  | cons c rest ih =>
      by_cases hc : c = sep
      · rw [splitAtChar, if_pos hc, hc, List.length_cons, ih, List.count_cons_self]
      · rw [splitAtChar_cons_of_ne hc, length_prepend_splitAtChar, ih, List.count_cons_of_ne hc]

theorem splitAtChar_of_not_mem (hsep : sep ∉ cs) : splitAtChar sep cs = [cs] := by
  induction cs with
  | nil => rfl
  | cons c rest ih =>
      obtain ⟨hc, hrest⟩ := List.ne_and_not_mem_of_not_mem_cons hsep
      rw [splitAtChar_cons_of_ne (Ne.symm hc), ih hrest]
      rfl

/-- What stands before the first separator is the first piece. -/
theorem splitAtChar_append (hsep : sep ∉ front) :
    splitAtChar sep (front ++ sep :: back) = front :: splitAtChar sep back := by
  induction front with
  | nil => rw [List.nil_append, splitAtChar, if_pos rfl]
  | cons c rest ih =>
      obtain ⟨hc, hrest⟩ := List.ne_and_not_mem_of_not_mem_cons hsep
      rw [List.cons_append, splitAtChar_cons_of_ne (Ne.symm hc), ih hrest]
      rfl

/-- Texts that are joined with a separator that none of them holds come back as the pieces. -/
theorem splitAtChar_intercalate (hsome : parts ≠ []) (hsep : ∀ part ∈ parts, sep ∉ part) :
    splitAtChar sep ([sep].intercalate parts) = parts := by
  induction parts with
  | nil => exact absurd rfl hsome
  | cons part more ih =>
      obtain ⟨hpart, hmore⟩ := List.forall_mem_cons.mp hsep
      cases more with
      | nil => rw [List.intercalate_singleton, splitAtChar_of_not_mem hpart]
      | cons next more =>
          rw [List.intercalate_cons_cons, List.append_assoc, List.singleton_append,
            splitAtChar_append hpart, ih (List.cons_ne_nil _ _) hmore]

theorem count_intercalate (hsome : parts ≠ []) :
    ([sep].intercalate parts).count sep + 1 = parts.length + (parts.map (List.count sep)).sum := by
  induction parts with
  | nil => exact absurd rfl hsome
  | cons part more ih =>
      cases more with
      | nil =>
          rw [List.intercalate_singleton, List.map_singleton, List.sum_singleton,
            List.length_singleton, Nat.add_comm]
      | cons next more =>
          have hmore := ih (List.cons_ne_nil _ _)
          rw [List.intercalate_cons_cons, List.count_append, List.count_append,
            List.count_singleton_self, List.map_cons, List.sum_cons, List.length_cons]
          omega

/-! ## Lines -/

theorem toList_joined_feed (texts : List String) :
    (joined "\n" texts).toList = ['\n'].intercalate (texts.map String.toList) :=
  String.toList_intercalate

/-- Texts without line feeds are the lines of the text that is joined from them. -/
theorem feedLines_joined {texts : List String} (hsome : texts ≠ [])
    (hfeed : ∀ s ∈ texts, howMany isLineFeed s = 0) : feedLines (joined "\n" texts) = texts := by
  have hsep : ∀ part ∈ texts.map String.toList, '\n' ∉ part :=
    List.forall_mem_map.mpr fun s hs => List.count_eq_zero.mp (hfeed s hs)
  rw [feedLines, toList_joined_feed,
    splitAtChar_intercalate (mt List.map_eq_nil_iff.mp hsome) hsep, List.map_map]
  exact (List.map_congr_left fun s _ => String.ofList_toList).trans (List.map_id _)

/-- There are as many lines as joined texts, and one more for each line feed in them. -/
theorem length_feedLines_joined {texts : List String} (hsome : texts ≠ []) :
    (feedLines (joined "\n" texts)).length =
      texts.length + howManyIn isLineFeed texts := by
  have hcount : (['\n'].intercalate (texts.map String.toList)).count '\n' + 1 = _ :=
    count_intercalate (mt List.map_eq_nil_iff.mp hsome)
  rw [feedLines, List.length_map, toList_joined_feed, length_splitAtChar, hcount, List.length_map,
    List.map_map]
  rfl

/-- What stands before a line feed ends the line that was begun. -/
theorem linesFrom_append_feed {line : List Char} {opened : Bool}
    (hfront : ∀ c ∈ front, isLineEnd c = false) :
    linesFrom line opened (front ++ '\n' :: back) =
      (line.reverse ++ front) :: linesFrom [] false back := by
  induction front generalizing line opened with
  | nil =>
      have hpair : BeginsNoPair '\n' back := fun _ hreturn => absurd hreturn (by decide)
      rw [List.nil_append, List.append_nil, linesFrom.eq_3 _ _ _ _ hpair, if_pos (by decide)]
  | cons c rest ih =>
      obtain ⟨hc, hrest⟩ := List.forall_mem_cons.mp hfront
      rw [List.cons_append, linesFrom.eq_3 _ _ _ _ (beginsNoPair_of_not_isLineEnd hc),
        if_neg (by rw [hc]; exact Bool.false_ne_true), ih hrest, List.reverse_cons,
        List.append_assoc, List.singleton_append]

theorem linesFrom_of_oneLine {line : List Char} (hcs : ∀ c ∈ cs, isLineEnd c = false) :
    linesFrom line true cs = [line.reverse ++ cs] := by
  induction cs generalizing line with
  | nil => rw [linesFrom, if_pos rfl, List.append_nil]
  | cons c rest ih =>
      obtain ⟨hc, hrest⟩ := List.forall_mem_cons.mp hcs
      rw [linesFrom.eq_3 _ _ _ _ (beginsNoPair_of_not_isLineEnd hc),
        if_neg (by rw [hc]; exact Bool.false_ne_true), ih hrest, List.reverse_cons,
        List.append_assoc, List.singleton_append]

theorem linesFrom_intercalate (hend : ∀ part ∈ parts, ∀ c ∈ part, isLineEnd c = false)
    (hlast : parts.getLast? ≠ some []) :
    linesFrom [] false (['\n'].intercalate parts) = parts := by
  induction parts with
  | nil => rfl
  | cons part more ih =>
      obtain ⟨hpart, hmore⟩ := List.forall_mem_cons.mp hend
      cases more with
      | cons next more =>
          rw [List.getLast?_cons_cons] at hlast
          rw [List.intercalate_cons_cons, List.append_assoc, List.singleton_append,
            linesFrom_append_feed hpart, ih hmore hlast]
          rfl
      | nil =>
          cases part with
          | nil => exact absurd rfl hlast
          | cons c rest =>
              obtain ⟨hc, hrest⟩ := List.forall_mem_cons.mp hpart
              rw [List.intercalate_singleton,
                linesFrom.eq_3 _ _ _ _ (beginsNoPair_of_not_isLineEnd hc),
                if_neg (by rw [hc]; exact Bool.false_ne_true), linesFrom_of_oneLine hrest]
              rfl

/-- Texts without any line end are the lines of the text that is joined from them, whatever ends
lines; an empty text at the end would be no line. -/
theorem lines_joined {texts : List String} (hend : ∀ s ∈ texts, howMany isLineEnd s = 0)
    (hlast : texts.getLast? ≠ some "") : lines (joined "\n" texts) = texts := by
  have hparts : ∀ part ∈ texts.map String.toList, ∀ c ∈ part, isLineEnd c = false :=
    List.forall_mem_map.mpr fun s hs c hc =>
      Bool.eq_false_iff.mpr (List.countP_eq_zero.mp (hend s hs) c hc)
  have hlast' : (texts.map String.toList).getLast? ≠ some [] := by
    rw [List.getLast?_map]
    intro hnil
    obtain ⟨s, hs, hempty⟩ := Option.map_eq_some_iff.mp hnil
    exact hlast (by rw [hs, String.toList_eq_nil_iff.mp hempty])
  rw [lines, toList_joined_feed, linesFrom_intercalate hparts hlast', List.map_map]
  exact (List.map_congr_left fun s _ => String.ofList_toList).trans (List.map_id _)

end CodeConventions.Text
