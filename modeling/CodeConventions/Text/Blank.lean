/-!
# Blank characters

A character is blank when it only separates: the Unicode spaces, the line and paragraph
separators, and the control characters that move the print position or divide records.  Trimming
removes blanks from both ends of a text and nothing in between.
-/

namespace CodeConventions.Text

/-- The blank characters: tab to carriage return, the four information separators, the next-line
control and the Unicode spaces and separators. -/
def isBlank (c : Char) : Bool :=
  let n := c.toNat
  (9 ≤ n && n ≤ 13) || (28 ≤ n && n ≤ 32) || n == 0x85 || n == 0xA0 || n == 0x1680
    || (0x2000 ≤ n && n ≤ 0x200A) || n == 0x2028 || n == 0x2029 || n == 0x202F || n == 0x205F
    || n == 0x3000

theorem isBlank_of_isWhitespace {c : Char} (h : c.isWhitespace = true) : isBlank c = true := by
  simp only [Char.isWhitespace, Bool.or_eq_true, decide_eq_true_eq] at h
  rcases h with ((h | h) | h) | h <;> subst h <;> decide

/-- A text without the blanks at its end. -/
def trimRight (cs : List Char) : List Char :=
  (cs.reverse.dropWhile isBlank).reverse

/-- A text without the blanks at either end. -/
def trim (cs : List Char) : List Char :=
  trimRight (cs.dropWhile isBlank)

/-- A text without the blanks at either end. -/
def strip (s : String) : String :=
  String.ofList (trim s.toList)

/-- A text that holds nothing but blanks. -/
def allBlank (cs : List Char) : Bool :=
  cs.all isBlank

theorem dropWhile_isBlank_eq_nil (cs : List Char) :
    cs.dropWhile isBlank = [] ↔ allBlank cs = true := by
  induction cs with
  | nil => simp [allBlank]
  | cons c rest ih =>
    cases hc : isBlank c <;> simp_all [allBlank]

theorem allBlank_reverse (cs : List Char) : allBlank cs.reverse = allBlank cs := by
  simp [allBlank]

theorem allBlank_dropWhile (cs : List Char) :
    allBlank (cs.dropWhile isBlank) = allBlank cs := by
  induction cs with
  | nil => rfl
  | cons c rest ih =>
    cases hc : isBlank c <;> simp_all [allBlank]

/-- Trimming leaves nothing exactly of a text that holds nothing but blanks. -/
theorem trim_eq_nil_iff (cs : List Char) : trim cs = [] ↔ allBlank cs = true := by
  rw [trim, trimRight, List.reverse_eq_nil_iff, dropWhile_isBlank_eq_nil, allBlank_reverse,
    allBlank_dropWhile]

end CodeConventions.Text
