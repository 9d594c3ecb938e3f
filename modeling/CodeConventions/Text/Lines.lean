/-!
# Lines of a text

A line ends at a line feed, a carriage return, the pair of both, or one of the other characters
that Unicode and the record separators count as line ends.  The line itself does not hold its
terminator, and a terminator at the very end of a text opens no further line.
-/

namespace CodeConventions.Text

/-- The characters that end a line. -/
def isLineEnd (c : Char) : Bool :=
  let n := c.toNat
  (10 ≤ n && n ≤ 13) || (28 ≤ n && n ≤ 30) || n == 0x85 || n == 0x2028 || n == 0x2029

/-- The lines of a text; `line` holds the characters of the current line, last one first, and
`opened` says whether there is a current line at all. -/
def linesFrom (line : List Char) (opened : Bool) : List Char → List (List Char)
  | [] => if opened then [line.reverse] else []
  | '\r' :: '\n' :: rest => line.reverse :: linesFrom [] false rest
  | c :: rest =>
    if isLineEnd c then line.reverse :: linesFrom [] false rest
    else linesFrom (c :: line) true rest

/-- The lines of a text, without their terminators. -/
def lines (s : String) : List String :=
  (linesFrom [] false s.toList).map String.ofList

/-- A text in which every carriage return, alone or before a line feed, has become a line feed. -/
def normalizeLineEnds : List Char → List Char
  | [] => []
  | '\r' :: '\n' :: rest => '\n' :: normalizeLineEnds rest
  | c :: rest => (if c = '\r' then '\n' else c) :: normalizeLineEnds rest

/-- The text between consecutive occurrences of a separator; there is one more piece than there
are separators. -/
def splitAtChar (sep : Char) : List Char → List (List Char)
  | [] => [[]]
  | c :: rest =>
    if c = sep then [] :: splitAtChar sep rest
    else
      match splitAtChar sep rest with
      | [] => [[c]]
      | piece :: pieces => (c :: piece) :: pieces

theorem splitAtChar_ne_nil (sep : Char) (cs : List Char) : splitAtChar sep cs ≠ [] := by
  cases cs with
  | nil => simp [splitAtChar]
  | cons c rest =>
    unfold splitAtChar
    split
    · simp
    · split <;> simp

/-- Joining the pieces with the separator gives the text back. -/
theorem intercalate_splitAtChar (sep : Char) (cs : List Char) :
    [sep].intercalate (splitAtChar sep cs) = cs := by
  induction cs with
  | nil => simp [splitAtChar, List.intercalate]
  | cons c rest ih =>
    unfold splitAtChar
    have hne := splitAtChar_ne_nil sep rest
    cases hs : splitAtChar sep rest with
    | nil => exact absurd hs hne
    | cons piece pieces =>
      rw [hs] at ih
      by_cases hc : c = sep
      · subst hc
        cases pieces <;> simp_all [List.intercalate]
      · cases pieces <;> simp_all [List.intercalate]

end CodeConventions.Text
