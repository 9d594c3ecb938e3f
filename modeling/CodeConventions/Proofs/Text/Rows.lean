import Mathlib
import CodeConventions.Text.Lines

/-!
# The line that a character stands on

A text is cut into *rows*, each of which is a line with the terminator that ends it.  The rows make
up the text, and the lines are what the rows hold besides terminators (`linesFrom_eq_map_rows`).  So
a character stands on the line in whose row it is, and on no other one (`StandsOn.eq`).

The number of that line is told by what comes before the character: it is one more than the line
feeds there and the *lone ends*, which are the terminators without a line feed
(`standsOn_of_append`).
-/

namespace CodeConventions.Text

/-- Rows with one more character at the beginning of the first one. -/
def prepend (c : Char) : List (List Char) → List (List Char)
  | [] => [[c]]
  | row :: more => (c :: row) :: more

/-- The rows of a text: its lines, each with the terminator that ends it. -/
def rows : List Char → List (List Char)
  | [] => []
  | '\r' :: '\n' :: rest => ['\r', '\n'] :: rows rest
  | c :: rest => if isLineEnd c then [c] :: rows rest else prepend c (rows rest)

/-- What a row holds besides the terminator. -/
def content (row : List Char) : List Char := row.filter fun c => !isLineEnd c

/-- The number of terminators in a text that hold no line feed. -/
def loneEnds : List Char → Nat
  | [] => 0
  | '\r' :: '\n' :: rest => loneEnds rest
  | c :: rest => (if isLineEnd c && c != '\n' then 1 else 0) + loneEnds rest

/-- The character at a position stands on a line, counted from one: the rows before it end at the
position or before, and its row ends behind the position. -/
def StandsOn (cs : List Char) (position line : Nat) : Prop :=
  ∃ before, line = before + 1 ∧ ((rows cs).take before).flatten.length ≤ position ∧
    position < ((rows cs).take (before + 1)).flatten.length

/-- The character and what follows it are no pair of a carriage return and a line feed. -/
def BeginsNoPair (c : Char) (rest : List Char) : Prop := ∀ more, c = '\r' → rest ≠ '\n' :: more

variable {c : Char} {cs rest line front back : List Char} {rs : List (List Char)}

theorem beginsNoPair_of_not_isLineEnd (hc : isLineEnd c = false) : BeginsNoPair c rest := by
  rintro more rfl
  exact nomatch hc

/-! ## Rows and lines -/

theorem flatten_prepend : (prepend c rs).flatten = c :: rs.flatten := by
  cases rs <;> rfl

theorem rows_of_isLineEnd (hpair : BeginsNoPair c rest) (hc : isLineEnd c = true) :
    rows (c :: rest) = [c] :: rows rest := by
  rw [rows.eq_3 c rest hpair, if_pos hc]

/-- A character that ends no line stands at the beginning of the first row. -/
theorem rows_of_not_isLineEnd (hc : isLineEnd c = false) :
    rows (c :: rest) = prepend c (rows rest) := by
  rw [rows.eq_3 c rest (beginsNoPair_of_not_isLineEnd hc), if_neg (by simp [hc])]

theorem flatten_rows (cs : List Char) : (rows cs).flatten = cs := by
  induction cs using rows.induct with
  | case1 => rfl
  | case2 rest ih => rw [rows, List.flatten_cons, ih]; rfl
  | case3 c rest hpair hc ih => rw [rows_of_isLineEnd hpair hc, List.flatten_cons, ih]; rfl
  | case4 c rest hpair hc ih =>
      rw [rows_of_not_isLineEnd (by simpa using hc), flatten_prepend, ih]

theorem map_content_prepend (hc : isLineEnd c = false) :
    (prepend c rs).map content = prepend c (rs.map content) := by
  cases rs <;> simp [prepend, content, hc]

theorem foldl_prepend_cons (row : List Char) (more : List (List Char)) :
    line.foldl (fun rs c => prepend c rs) (row :: more) = (line.reverse ++ row) :: more := by
  induction line generalizing row with
  | nil => rfl
  | cons c line ih => rw [List.foldl_cons, prepend, ih]; simp

/-- The lines from some place on are the contents of the rows, with what was read of the current
line before the first one. -/
theorem linesFrom_eq_foldl (line cs : List Char) :
    linesFrom line (!line.isEmpty) cs =
      line.foldl (fun rs c => prepend c rs) ((rows cs).map content) := by
  induction cs using rows.induct generalizing line with
  | case1 =>
      cases line with
      | nil => rfl
      | cons c line =>
          rw [rows, List.map_nil, List.foldl_cons, prepend, foldl_prepend_cons]
          simp [linesFrom]
  | case2 rest ih =>
      have hempty : content ['\r', '\n'] = [] := rfl
      rw [rows, List.map_cons, foldl_prepend_cons, linesFrom, hempty, List.append_nil]
      exact congrArg _ (ih [])
  | case3 c rest hpair hc ih =>
      have hempty : content [c] = [] := by simp [content, hc]
      rw [rows_of_isLineEnd hpair hc, List.map_cons, foldl_prepend_cons, hempty, List.append_nil,
        linesFrom.eq_3 _ _ c rest hpair, if_pos hc]
      exact congrArg _ (ih [])
  | case4 c rest hpair hc ih =>
      have hc : isLineEnd c = false := by simpa using hc
      rw [rows_of_not_isLineEnd hc, map_content_prepend hc, linesFrom.eq_3 _ _ c rest hpair,
        if_neg (by simp [hc])]
      exact ih (c :: line)

/-- The lines of a text are the contents of its rows. -/
theorem linesFrom_eq_map_rows (cs : List Char) :
    linesFrom [] false cs = (rows cs).map content := linesFrom_eq_foldl [] cs

/-! ## The line of a character -/

/-- Later rows end at later positions. -/
theorem length_flatten_take_mono {m n : Nat} (hmn : m ≤ n) :
    (rs.take m).flatten.length ≤ (rs.take n).flatten.length :=
  (List.Sublist.flatten (List.take_sublist_take_left hmn)).length_le

/-- A character stands on one line only. -/
theorem StandsOn.eq {position first second : Nat} (h : StandsOn cs position first)
    (h' : StandsOn cs position second) : first = second := by
  obtain ⟨before, rfl, hle, hlt⟩ := h
  obtain ⟨before', rfl, hle', hlt'⟩ := h'
  rcases Nat.lt_trichotomy before before' with hless | rfl | hless
  · exact absurd (hlt.trans_le (length_flatten_take_mono hless)) (Nat.not_lt.mpr hle')
  · rfl
  · exact absurd (hlt'.trans_le (length_flatten_take_mono hless)) (Nat.not_lt.mpr hle)

theorem length_flatten_take_prepend (hrs : rs ≠ []) (n : Nat) :
    ((prepend c rs).take (n + 1)).flatten.length = (rs.take (n + 1)).flatten.length + 1 := by
  cases rs with
  | nil => exact absurd rfl hrs
  | cons row more =>
      simp only [prepend, List.take_succ_cons, List.flatten_cons, List.length_append,
        List.length_cons]
      omega

/-- Behind a row that is put before the others, all lines have moved on by one. -/
theorem StandsOn.cons_row {row : List Char} {position line : Nat} (h : StandsOn rest position line)
    (hrows : rows cs = row :: rows rest) : StandsOn cs (row.length + position) (line + 1) := by
  obtain ⟨before, rfl, hle, hlt⟩ := h
  refine ⟨before + 1, rfl, ?_, ?_⟩
  · rw [hrows, List.take_succ_cons, List.flatten_cons, List.length_append]
    omega
  · rw [hrows, List.take_succ_cons, List.flatten_cons, List.length_append]
    omega

/-- Behind a character that is put into the first row, all lines stay as they are. -/
theorem StandsOn.prepend {position line : Nat} (h : StandsOn rest position line)
    (hrows : rows cs = Text.prepend c (rows rest)) : StandsOn cs (position + 1) line := by
  obtain ⟨before, rfl, hle, hlt⟩ := h
  have hsome : rows rest ≠ [] := fun hnil => by
    rw [hnil] at hlt
    exact absurd hlt (by simp)
  refine ⟨before, rfl, ?_, ?_⟩
  · cases before with
    | zero => exact Nat.zero_le _
    | succ before =>
        rw [hrows, length_flatten_take_prepend hsome]
        exact Nat.succ_le_succ hle
  · rw [hrows, length_flatten_take_prepend hsome]
    exact Nat.succ_lt_succ hlt

/-- A character that ends no line stands on the line whose number is one more than the line feeds
and the lone ends before the character. -/
theorem standsOn_of_append (hc : isLineEnd c = false) :
    StandsOn (front ++ c :: back) front.length (front.count '\n' + 1 + loneEnds front) := by
  induction front using loneEnds.induct with
  | case1 =>
      refine ⟨0, rfl, Nat.zero_le _, ?_⟩
      rw [List.nil_append, rows_of_not_isLineEnd hc]
      cases rows back <;> simp [Text.prepend]
  | case2 rest ih =>
      have hlength : ('\r' :: '\n' :: rest).length = ['\r', '\n'].length + rest.length := by
        simp only [List.length_cons, List.length_nil]
        omega
      have hcount : ('\r' :: '\n' :: rest).count '\n' + 1 + loneEnds rest =
          rest.count '\n' + 1 + loneEnds rest + 1 := by
        rw [List.count_cons_of_ne (by decide), List.count_cons_self]
        omega
      rw [loneEnds, hlength, hcount]
      exact ih.cons_row (rows.eq_2 _)
  | case3 x rest hpair ih =>
      rw [loneEnds.eq_3 x rest hpair]
      cases hx : isLineEnd x with
      | false =>
          have hfeed : x ≠ '\n' := by
            rintro rfl
            exact nomatch hx
          rw [List.count_cons_of_ne hfeed, Bool.false_and, if_neg Bool.false_ne_true, Nat.zero_add]
          exact ih.prepend (rows_of_not_isLineEnd hx)
      | true =>
          -- a carriage return right before the character is no part of a pair
          have hpair' : BeginsNoPair x (rest ++ c :: back) := by
            intro more hreturn hmore
            cases rest with
            | nil =>
                obtain rfl : c = '\n' := (List.cons.inj hmore).1
                exact nomatch hc
            | cons y rest => exact hpair rest hreturn (by rw [(List.cons.inj hmore).1])
          have hlength : (x :: rest).length = [x].length + rest.length := Nat.add_comm _ _
          have hcount : (x :: rest).count '\n' + 1 +
              ((if true && x != '\n' then 1 else 0) + loneEnds rest) =
                rest.count '\n' + 1 + loneEnds rest + 1 := by
            rw [List.count_cons, Bool.true_and, bne]
            cases x == '\n' <;> simp <;> omega
          rw [hlength, hcount]
          exact ih.cons_row (rows_of_isLineEnd hpair' hx)

/-- A text in which only line feeds end lines has no lone ends. -/
theorem loneEnds_eq_zero (h : ∀ c ∈ cs, isLineEnd c = true → c = '\n') : loneEnds cs = 0 := by
  induction cs using loneEnds.induct with
  | case1 => rfl
  | case2 rest _ => exact absurd (h '\r' (by simp) rfl) (by decide)
  | case3 c rest hpair ih =>
      have hfeed : (isLineEnd c && c != '\n') = false := by
        cases hc : isLineEnd c with
        | false => rfl
        | true => rw [h c List.mem_cons_self hc]; rfl
      rw [loneEnds.eq_3 c rest hpair, hfeed, ih fun x hx => h x (List.mem_cons_of_mem c hx)]
      rfl

end CodeConventions.Text
