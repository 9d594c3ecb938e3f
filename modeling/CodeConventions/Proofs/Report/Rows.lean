import CodeConventions.Proofs.Text.Joined
import CodeConventions.Report.Format

/-!
# A row for each diagnostic

The plain report has a line for each file and each diagnostic, and the table has a line for each
diagnostic.  What stands in these lines comes from outside in part: the names of files and of rules,
and the messages, which may show a piece of the source.  Bars in them do no harm to the table
(`readRow_row`), but line feeds are written as they are.  So each of them breaks a line of the
report in two, and both reports have their rows exactly if there is none (`has_rows_iff`).

A bar divides the cells of a row, unless a backslash stands right before it.  So the bars within
the cells divide nothing, whatever else the cells hold, and a row gives back the cells that it was
made of.  Backslashes in a cell need no care of their own: a blank stands between the last of them
and the bar that follows.

All other texts in the reports hold no line ends.  This is said by counting the characters that
satisfy a condition which holds of line ends only: the two conditions that matter are that of line
feeds, for the number of lines, and that of all line ends.
-/

namespace CodeConventions.Report

open Text

section Cells

/-! ## The reader of a row -/

/-- The pieces of a row between the bars that divide it. -/
def splitBars : List Char → List (List Char)
  | [] => [[]]
  | '\\' :: '|' :: rest => prepend '\\' (prepend '|' (splitBars rest))
  | c :: rest => if c = '|' then [] :: splitBars rest else prepend c (splitBars rest)

/-- The text of a cell, in which bars have a backslash before them. -/
def unescapeBars : List Char → List Char
  | [] => []
  | '\\' :: '|' :: rest => '|' :: unescapeBars rest
  | c :: rest => c :: unescapeBars rest

/-- The text of a cell in a piece of a row, which has a blank on either side of it. -/
def readCell : List Char → Option String
  | ' ' :: rest =>
    match rest.reverse with
    | ' ' :: text => some (String.ofList (unescapeBars text.reverse))
    | _ => none
  | _ => none

/-- The cells of a row, which begins and ends with a bar. -/
def readRow (line : String) : Option (List String) :=
  match splitBars line.toList with
  | [] :: pieces =>
    match pieces.reverse with
    | [] :: cells => cells.reverse.mapM readCell
    | _ => none
  | _ => none

/-! ## Escaped text -/

variable {c : Char} {cs rest more back : List Char}

theorem escapeBars_bar : escapeBars ('|' :: cs) = '\\' :: '|' :: escapeBars cs := rfl

theorem escapeBars_cons_of_ne (hc : c ≠ '|') : escapeBars (c :: cs) = c :: escapeBars cs := by
  rw [escapeBars, List.flatMap_cons, if_neg hc]
  rfl

/-- No bar stands at the beginning of an escaped text. -/
theorem escapeBars_ne : escapeBars cs ≠ '|' :: more := by
  cases cs with
  | nil => exact (List.cons_ne_nil _ _).symm
  | cons c rest =>
      by_cases hc : c = '|'
      · rw [hc, escapeBars_bar]
        exact fun h => absurd (List.cons.inj h).1 (by decide)
      · rw [escapeBars_cons_of_ne hc]
        exact fun h => hc (List.cons.inj h).1

theorem escapeBars_append_ne : escapeBars cs ++ ' ' :: back ≠ '|' :: more := by
  cases h : escapeBars cs with
  | nil => exact fun h => absurd (List.cons.inj h).1 (by decide)
  | cons c rest =>
      rintro heq
      obtain rfl : c = '|' := (List.cons.inj heq).1
      exact escapeBars_ne h

theorem unescapeBars_escapeBars (cs : List Char) : unescapeBars (escapeBars cs) = cs := by
  induction cs with
  | nil => rfl
  | cons c rest ih =>
      by_cases hc : c = '|'
      · rw [hc, escapeBars_bar, unescapeBars, ih]
      · rw [escapeBars_cons_of_ne hc, unescapeBars.eq_3 _ _ fun _ _ h => escapeBars_ne h, ih]

/-! ## The pieces of a row -/

theorem splitBars_cons_of_ne (hc : c ≠ '|') (hrest : ∀ more, rest ≠ '|' :: more) :
    splitBars (c :: rest) = prepend c (splitBars rest) := by
  rw [splitBars.eq_3 _ _ fun more _ => hrest more, if_neg hc]

/-- The first bar that divides anything is the one behind the first cell. -/
theorem splitBars_escapeBars (cs back : List Char) :
    splitBars (escapeBars cs ++ ' ' :: '|' :: back) = (escapeBars cs ++ [' ']) :: splitBars back := by
  induction cs with
  | nil => rfl
  | cons c rest ih =>
      by_cases hc : c = '|'
      · rw [hc, escapeBars_bar, List.cons_append, List.cons_append, splitBars, ih]
        rfl
      · rw [escapeBars_cons_of_ne hc, List.cons_append,
          splitBars_cons_of_ne hc fun _ => escapeBars_append_ne, ih]
        rfl

/-- A cell as it stands in a row, up to the bar behind it. -/
def cellText (cell : String) : List Char := ' ' :: (escapeBars cell.toList ++ [' '])

theorem splitBars_cells (cells : List String) :
    splitBars (cells.flatMap fun cell => cellText cell ++ ['|']) = cells.map cellText ++ [[]] := by
  induction cells with
  | nil => rfl
  | cons cell cells ih =>
      have hcell : (cellText cell ++ ['|']) ++ (cells.flatMap fun cell => cellText cell ++ ['|']) =
          ' ' :: (escapeBars cell.toList ++
            ' ' :: '|' :: cells.flatMap fun cell => cellText cell ++ ['|']) := by
        simp [cellText]
      rw [List.flatMap_cons, hcell,
        splitBars_cons_of_ne (by decide) fun _ => escapeBars_append_ne, splitBars_escapeBars, ih]
      rfl

theorem cons_intercalate_append {parts : List (List Char)} (hsome : parts ≠ []) :
    ' ' :: ([' ', '|', ' '].intercalate parts ++ [' ', '|']) =
      parts.flatMap fun part => ' ' :: (part ++ [' ', '|']) := by
  induction parts with
  | nil => exact absurd rfl hsome
  | cons part more ih =>
      cases more with
      | nil => simp
      | cons next more =>
          rw [List.flatMap_cons, ← ih (List.cons_ne_nil _ _), List.intercalate_cons_cons]
          simp

/-- A row is made up of its cells, each with a bar behind it, after the bar that begins it. -/
theorem toList_row {cells : List String} (hsome : cells ≠ []) :
    (row cells).toList = '|' :: cells.flatMap fun cell => cellText cell ++ ['|'] := by
  have hparts : (cells.map fun cell => String.ofList (escapeBars cell.toList)).map String.toList =
      cells.map fun cell => escapeBars cell.toList := by
    simp
  have hrow := cons_intercalate_append
    (mt (List.map_eq_nil_iff (f := fun cell : String => escapeBars cell.toList)).mp hsome)
  rw [row, String.toList_append, String.toList_append, Text.joined, String.toList_intercalate, hparts]
  show '|' :: ' ' :: ([' ', '|', ' '].intercalate _ ++ [' ', '|']) = _
  rw [hrow, List.flatMap_map]
  simp [cellText]

/-! ## The cells of a row -/

theorem readCell_cellText (cell : String) : readCell (cellText cell) = some cell := by
  rw [cellText, readCell, List.reverse_append, List.reverse_singleton, List.singleton_append]
  show some (String.ofList (unescapeBars (escapeBars cell.toList).reverse.reverse)) = _
  rw [List.reverse_reverse, unescapeBars_escapeBars, String.ofList_toList]

theorem mapM_readCell (cells : List String) :
    (cells.map cellText).mapM readCell = some cells := by
  induction cells with
  | nil => rfl
  | cons cell cells ih =>
      rw [List.map_cons, List.mapM_cons, readCell_cellText, ih]
      rfl

/-- A row gives back its cells. -/
theorem readRow_row {cells : List String} (hsome : cells ≠ []) :
    readRow (row cells) = some cells := by
  rw [readRow, toList_row hsome, splitBars.eq_3 _ _ fun _ h => absurd h (by decide), if_pos rfl,
    splitBars_cells]
  show (match (cells.map cellText ++ [[]]).reverse with
    | [] :: pieces => pieces.reverse.mapM readCell
    | _ => none) = _
  rw [List.reverse_append, List.reverse_singleton, List.singleton_append]
  show ((cells.map cellText).reverse.reverse).mapM readCell = _
  rw [List.reverse_reverse, mapM_readCell]

end Cells

/-! ## What the reports are to show -/

/-- The texts in the plain report that come from outside. -/
def plainTexts (results : List FileResult) : List String :=
  results.flatMap fun r => r.file :: r.diagnostics.flatMap fun d => [d.message, d.rule]

/-- The texts in the table that come from outside. -/
def tableTexts (results : List FileResult) : List String :=
  (Summary.diagnostics results).flatMap fun d => [d.file, d.rule, d.message]

/-- The lines are one for each file, one for each diagnostic, and the two at the end. -/
def HasPlainRows (results : List FileResult) (lines : List String) : Prop :=
  lines.length = results.length + (Summary.diagnostics results).length + 2

/-- The header of the table. -/
def tableColumns : List String :=
  ["| File | Location | Severity | Rule | Message |",
    "|------|----------|----------|------|---------|"]

/-- Behind the summary and the two lines of the header there is one line for each diagnostic, in
their order, and each line gives back the cells of its diagnostic. -/
def HasTableRows (results : List FileResult) (lines : List String) : Prop :=
  ∃ rows, lines = tableHead results ++ tableColumns ++ rows ∧
    rows.map readRow = (Summary.diagnostics results).map fun d =>
      some ["`" ++ d.file ++ "`", d.span.toText, d.severity.name, d.label, d.message]

theorem tableLines_eq {results : List FileResult} (hsome : Summary.diagnostics results ≠ []) :
    tableLines results = tableHead results ++ tableColumns ++
      (Summary.diagnostics results).map fun d => row (cells d) := by
  cases h : Summary.diagnostics results with
  | nil => exact absurd h hsome
  | cons d ds =>
      rw [tableLines, h]
      rfl

/-! ## Texts without line ends -/

theorem isLineEnd_of_isDigit {c : Char} (hc : c.isDigit = true) : isLineEnd c = false := by
  have hrange : 48 ≤ c.val ∧ c.val ≤ 57 := by simpa [Char.isDigit] using hc
  have hlow : 48 ≤ c.toNat := UInt32.le_iff_toNat_le.mp hrange.1
  have hhigh : c.toNat ≤ 57 := UInt32.le_iff_toNat_le.mp hrange.2
  simp only [isLineEnd, Bool.or_eq_false_iff, Bool.and_eq_false_iff, decide_eq_false_iff_not,
    beq_eq_false_iff_ne]
  omega

section LineEnds

variable {p : Char → Bool} (hp : ∀ c, isLineEnd c = false → p c = false)
include hp

/-- None of the characters of a fixed text ends a line. -/
theorem howMany_fixed {cs : List Char} (hcs : (cs.all fun c => !isLineEnd c) = true) :
    howMany p (String.ofList cs) = 0 := by
  rw [howMany_eq_zero_iff, String.toList_ofList]
  intro c hc
  exact hp c (by simpa using List.all_eq_true.mp hcs c hc)

theorem howMany_natText (n : Nat) : howMany p (toString n) = 0 := by
  rw [howMany_eq_zero_iff, Nat.toString_eq_ofList_toDigits, String.toList_ofList]
  intro c hc
  exact hp c (isLineEnd_of_isDigit (Nat.isDigit_of_mem_toDigits (by decide) (by decide) hc))

theorem howMany_intText (n : Int) : howMany p (toString n) = 0 := by
  cases n with
  | ofNat n => exact howMany_natText hp n
  | negSucc n =>
      have hminus : howMany p "-" = 0 := howMany_fixed hp rfl
      show howMany p ("-" ++ toString (n + 1)) = 0
      rw [howMany_append, hminus, howMany_natText hp]

theorem howMany_spanText (s : Span) : howMany p s.toText = 0 := by
  have hcolon : howMany p ":" = 0 := howMany_fixed hp rfl
  show howMany p (toString s.line ++ ":" ++ toString s.column) = 0
  rw [howMany_append, howMany_append, hcolon, howMany_intText hp, howMany_intText hp]

theorem howMany_severityName (v : Severity) : howMany p v.name = 0 := by
  cases v <;> exact howMany_fixed hp rfl

theorem howMany_label (d : Diagnostic) : howMany p d.label = howMany p d.rule := by
  have hopen : howMany p " (" = 0 := howMany_fixed hp rfl
  have hclose : howMany p ")" = 0 := howMany_fixed hp rfl
  have hkind : howMany p d.kind.name = 0 := by
    cases d.kind <;> exact howMany_fixed hp rfl
  rw [Diagnostic.label]
  split
  · rfl
  · show howMany p (d.rule ++ " (" ++ d.kind.name ++ ")") = _
    rw [howMany_append, howMany_append, howMany_append, hopen, hkind, hclose]
    rfl

theorem howMany_counted (n : Nat) {noun : String} (hnoun : howMany p noun = 0) :
    howMany p (Summary.counted n noun) = 0 := by
  have hblank : howMany p " " = 0 := howMany_fixed hp rfl
  have hplural : howMany p (if n = 1 then "" else "s") = 0 := by
    split <;> exact howMany_fixed hp rfl
  show howMany p (toString n ++ " " ++ noun ++ if n = 1 then "" else "s") = 0
  rw [howMany_append, howMany_append, howMany_append, howMany_natText hp, hblank, hnoun, hplural]

theorem howMany_headline (s : Summary) : howMany p s.headline = 0 := by
  have hcomma : howMany p ", " = 0 := howMany_fixed hp rfl
  have hopen : howMany p " (" = 0 := howMany_fixed hp rfl
  have hin : howMany p ") in " = 0 := howMany_fixed hp rfl
  have hfailed : howMany p " failed" = 0 := howMany_fixed hp rfl
  have herrors : howMany p (Summary.counted s.errors "error") = 0 :=
    howMany_counted hp _ (howMany_fixed hp rfl)
  have hwarnings : howMany p (Summary.counted s.warnings "warning") = 0 :=
    howMany_counted hp _ (howMany_fixed hp rfl)
  have hfaults : howMany p (Summary.counted s.faults "fault") = 0 :=
    howMany_counted hp _ (howMany_fixed hp rfl)
  have hproblems : howMany p (Summary.counted s.problems "problem") = 0 :=
    howMany_counted hp _ (howMany_fixed hp rfl)
  have hfiles : howMany p (Summary.counted s.files "file") = 0 :=
    howMany_counted hp _ (howMany_fixed hp rfl)
  have hcounts : howManyIn p ([Summary.counted s.errors "error",
      Summary.counted s.warnings "warning"] ++
        if s.faults = 0 then [] else [Summary.counted s.faults "fault"]) = 0 := by
    rw [howManyIn_eq_zero_iff, List.forall_mem_append, List.forall_mem_cons,
      List.forall_mem_singleton]
    refine ⟨⟨herrors, hwarnings⟩, ?_⟩
    split
    · exact List.forall_mem_nil _
    · exact List.forall_mem_singleton.mpr hfaults
  show howMany p (Summary.counted s.problems "problem" ++ " (" ++ joined ", " _ ++ ") in " ++
    Summary.counted s.files "file" ++ (", " ++ toString s.failed ++ " failed")) = 0
  simp only [howMany_append, howMany_joined hcomma, hcounts, hproblems, hfiles, hopen, hin, hcomma,
    hfailed, howMany_natText hp]

/-! ## The lines of the plain report -/

theorem howMany_padded (width : Nat) (s : String) :
    howMany p (padded width s) = howMany p s := by
  have hblank : p ' ' = false := hp ' ' (by decide)
  rw [howMany, padded, String.toList_ofList, List.countP_append, List.countP_replicate, hblank]
  rfl

/-- All line ends in the line of a diagnostic stand in its message or in the name of its rule. -/
theorem howMany_plainRow (width : Nat) (d : Diagnostic) :
    howMany p (plainRow width d) = howMany p d.message + howMany p d.rule := by
  have hblanks : howMany p "  " = 0 := howMany_fixed hp rfl
  show howMany p ("  " ++ padded width d.span.toText ++ "  " ++ padded 7 d.severity.name ++ "  " ++
    d.message ++ "  " ++ d.label) = _
  simp only [howMany_append, hblanks, howMany_padded hp, howMany_spanText hp,
    howMany_severityName hp, howMany_label hp]
  omega

theorem howManyIn_plainBlock (r : FileResult) :
    howManyIn p (plainBlock r) =
      howManyIn p (r.file :: r.diagnostics.flatMap fun d => [d.message, d.rule]) := by
  have hverdict : howMany p (if r.passed then "✓ PASS " else "✗ FAIL ") = 0 := by
    split <;> exact howMany_fixed hp rfl
  have hrows : howManyIn p (r.diagnostics.map (plainRow (placeWidth r.diagnostics))) =
      howManyIn p (r.diagnostics.flatMap fun d => [d.message, d.rule]) := by
    rw [List.map_eq_flatMap]
    refine howManyIn_flatMap_congr fun d _ => ?_
    show howMany p (plainRow _ d) + 0 = howMany p d.message + (howMany p d.rule + 0)
    rw [howMany_plainRow hp]
    rfl
  show howMany p (_ ++ r.file) + howManyIn p _ = howMany p r.file + howManyIn p _
  rw [howMany_append, hverdict, Nat.zero_add, hrows]

/-- All line ends in the lines of the plain report stand in texts from outside. -/
theorem howManyIn_plainLines (results : List FileResult) :
    howManyIn p (plainLines results) = howManyIn p (plainTexts results) := by
  have hend : howManyIn p ["", (Summary.ofResults results).headline] = 0 := by
    show howMany p "" + (howMany p (Summary.ofResults results).headline + 0) = 0
    rw [howMany_headline hp]
    rfl
  rw [plainLines, howManyIn_append, hend, Nat.add_zero]
  exact howManyIn_flatMap_congr fun r _ => howManyIn_plainBlock hp r

/-! ## The lines of the table -/

theorem howMany_escapeBars (cell : String) :
    howMany p (String.ofList (escapeBars cell.toList)) = howMany p cell := by
  have hslash : p '\\' = false := hp '\\' (by decide)
  rw [howMany, String.toList_ofList, howMany]
  induction cell.toList with
  | nil => rfl
  | cons c rest ih =>
      by_cases hc : c = '|'
      · rw [hc, escapeBars_bar, List.countP_cons, hslash, if_neg Bool.false_ne_true, Nat.add_zero,
          List.countP_cons, List.countP_cons, ih]
      · rw [escapeBars_cons_of_ne hc, List.countP_cons, List.countP_cons, ih]

theorem howMany_row (cells : List String) : howMany p (row cells) = howManyIn p cells := by
  have hbegin : howMany p "| " = 0 := howMany_fixed hp rfl
  have hbetween : howMany p " | " = 0 := howMany_fixed hp rfl
  have hend : howMany p " |" = 0 := howMany_fixed hp rfl
  have hcells : (howMany p ∘ fun cell => String.ofList (escapeBars cell.toList)) = howMany p := by
    funext cell
    rw [Function.comp_apply, howMany_escapeBars hp]
  rw [row, howMany_append, howMany_append, howMany_joined hbetween, hbegin, hend, howManyIn,
    List.map_map, hcells, Nat.zero_add, Nat.add_zero]
  rfl

/-- All line ends in the row of a diagnostic stand in texts from outside. -/
theorem howMany_row_cells (d : Diagnostic) :
    howMany p (row (cells d)) = howManyIn p [d.file, d.rule, d.message] := by
  have hquote : howMany p "`" = 0 := howMany_fixed hp rfl
  rw [howMany_row hp]
  show howMany p ("`" ++ d.file ++ "`") + (howMany p d.span.toText + (howMany p d.severity.name +
    (howMany p d.label + (howMany p d.message + 0)))) =
      howMany p d.file + (howMany p d.rule + (howMany p d.message + 0))
  rw [howMany_append, howMany_append, hquote, howMany_spanText hp, howMany_severityName hp,
    howMany_label hp]
  omega

theorem howManyIn_tableHead (results : List FileResult) :
    howManyIn p (tableHead results ++ tableColumns) = 0 := by
  have htitle : howMany p "# Convention Lint Report" = 0 := howMany_fixed hp rfl
  have hempty : howMany p "" = 0 := rfl
  have hstars : howMany p "**" = 0 := howMany_fixed hp rfl
  have hsummary : howMany p ("**" ++ (Summary.ofResults results).headline ++ "**") = 0 := by
    rw [howMany_append, howMany_append, hstars, howMany_headline hp]
  have hcolumns : howManyIn p tableColumns = 0 := by
    rw [howManyIn_eq_zero_iff, tableColumns, List.forall_mem_cons, List.forall_mem_singleton]
    exact ⟨howMany_fixed hp rfl, howMany_fixed hp rfl⟩
  have hhead : howManyIn p (tableHead results) = 0 := by
    show howMany p "# Convention Lint Report" + (howMany p "" +
      (howMany p ("**" ++ (Summary.ofResults results).headline ++ "**") + (howMany p "" + 0))) = 0
    rw [htitle, hempty, hsummary]
  rw [howManyIn_append, hhead, hcolumns]

/-- All line ends in the lines of the table stand in texts from outside. -/
theorem howManyIn_tableLines {results : List FileResult}
    (hsome : Summary.diagnostics results ≠ []) :
    howManyIn p (tableLines results) = howManyIn p (tableTexts results) := by
  rw [tableLines_eq hsome, howManyIn_append, howManyIn_tableHead hp, Nat.zero_add,
    List.map_eq_flatMap]
  exact howManyIn_flatMap_congr fun d _ => (Nat.add_zero _).trans (howMany_row_cells hp d)

end LineEnds

/-! ## Rows -/

variable {results : List FileResult}

theorem isLineFeed_of_not_isLineEnd (c : Char) (hc : isLineEnd c = false) :
    isLineFeed c = false := by
  rw [isLineFeed, beq_eq_false_iff_ne]
  rintro rfl
  exact nomatch hc

/-- A text has no line feeds exactly if counting finds none. -/
theorem howManyIn_isLineFeed_eq_zero_iff {texts : List String} :
    howManyIn isLineFeed texts = 0 ↔ ∀ s ∈ texts, '\n' ∉ s.toList := by
  rw [howManyIn_eq_zero_iff]
  exact forall₂_congr fun s _ => List.count_eq_zero

theorem howManyIn_isLineEnd_eq_zero {texts : List String}
    (htexts : ∀ s ∈ texts, ∀ c ∈ s.toList, isLineEnd c = false) :
    howManyIn isLineEnd texts = 0 :=
  howManyIn_eq_zero_iff.mpr fun s hs => howMany_eq_zero_iff.mpr (htexts s hs)

theorem hasPlainRows_plainLines (results : List FileResult) :
    HasPlainRows results (plainLines results) := by
  have hblocks : (results.flatMap plainBlock).length =
      results.length + (Summary.diagnostics results).length := by
    induction results with
    | nil => rfl
    | cons r results ih =>
        have hdiagnostics : Summary.diagnostics (r :: results) =
            r.diagnostics ++ Summary.diagnostics results := List.flatMap_cons
        rw [List.flatMap_cons, List.length_append, ih, plainBlock, List.length_cons,
          List.length_map, List.length_cons, hdiagnostics, List.length_append]
        omega
  rw [HasPlainRows, plainLines, List.length_append, hblocks]
  rfl

/-- The plain report has a line more than it is to have for each line feed from outside. -/
theorem length_feedLines_plain (results : List FileResult) :
    (feedLines (plain results)).length =
      results.length + (Summary.diagnostics results).length + 2 +
        howManyIn isLineFeed (plainTexts results) := by
  have hlength : (plainLines results).length = _ := hasPlainRows_plainLines results
  rw [plain, length_feedLines_joined (by simp [plainLines]), hlength,
    howManyIn_plainLines isLineFeed_of_not_isLineEnd]

theorem hasPlainRows_feedLines_iff (results : List FileResult) :
    HasPlainRows results (feedLines (plain results)) ↔
      ∀ s ∈ plainTexts results, '\n' ∉ s.toList := by
  rw [← howManyIn_isLineFeed_eq_zero_iff, HasPlainRows, length_feedLines_plain]
  omega

theorem hasTableRows_tableLines (hsome : Summary.diagnostics results ≠ []) :
    HasTableRows results (tableLines results) := by
  refine ⟨(Summary.diagnostics results).map fun d => row (cells d), tableLines_eq hsome, ?_⟩
  have hrow : ∀ d, readRow (row (cells d)) = some (cells d) :=
    fun d => readRow_row (List.cons_ne_nil _ _)
  rw [List.map_map]
  refine List.map_congr_left fun d _ => ?_
  rw [Function.comp_apply, hrow]
  rfl

theorem HasTableRows.length_eq {lines : List String} (h : HasTableRows results lines) :
    lines.length = 6 + (Summary.diagnostics results).length := by
  obtain ⟨rows, rfl, hrows⟩ := h
  have hlength := congrArg List.length hrows
  rw [List.length_map, List.length_map] at hlength
  rw [List.length_append, hlength]
  rfl

/-- The table has a line more than it is to have for each line feed from outside. -/
theorem length_feedLines_table (hsome : Summary.diagnostics results ≠ []) :
    (feedLines (table results)).length =
      6 + (Summary.diagnostics results).length + howManyIn isLineFeed (tableTexts results) := by
  rw [table, length_feedLines_joined (by simp [tableLines_eq hsome, tableColumns]),
    (hasTableRows_tableLines hsome).length_eq,
    howManyIn_tableLines isLineFeed_of_not_isLineEnd hsome]

theorem hasTableRows_feedLines_iff (hsome : Summary.diagnostics results ≠ []) :
    HasTableRows results (feedLines (table results)) ↔
      ∀ s ∈ tableTexts results, '\n' ∉ s.toList := by
  rw [← howManyIn_isLineFeed_eq_zero_iff]
  constructor
  · intro h
    have hlength := h.length_eq
    rw [length_feedLines_table hsome] at hlength
    omega
  · intro hnone
    rw [← howManyIn_tableLines isLineFeed_of_not_isLineEnd hsome, howManyIn_eq_zero_iff] at hnone
    rw [table, feedLines_joined (by simp [tableLines_eq hsome, tableColumns]) hnone]
    exact hasTableRows_tableLines hsome

/-! ## Lines in the other sense -/

theorem headline_ne_empty (s : Summary) : s.headline ≠ "" := by
  intro hempty
  have hend : (", " ++ toString s.failed ++ " failed") = "" := (String.append_eq_empty_iff.mp hempty).2
  exact absurd (String.append_eq_empty_iff.mp hend).2 (by decide)

theorem row_ne_empty (cells : List String) : row cells ≠ "" := by
  intro hempty
  exact absurd (String.append_eq_empty_iff.mp hempty).2 (by decide)

/-- Without line ends from outside the lines of the plain report are the same in either sense. -/
theorem lines_plain (htexts : ∀ s ∈ plainTexts results, ∀ c ∈ s.toList, isLineEnd c = false) :
    lines (plain results) = plainLines results := by
  have hnone := howManyIn_isLineEnd_eq_zero htexts
  rw [← howManyIn_plainLines fun _ hc => hc, howManyIn_eq_zero_iff] at hnone
  refine lines_joined hnone ?_
  rw [plainLines, List.getLast?_append]
  exact fun hlast => headline_ne_empty _ (Option.some.inj hlast)

theorem lines_table (hsome : Summary.diagnostics results ≠ [])
    (htexts : ∀ s ∈ tableTexts results, ∀ c ∈ s.toList, isLineEnd c = false) :
    lines (table results) = tableLines results := by
  have hnone := howManyIn_isLineEnd_eq_zero htexts
  rw [← howManyIn_tableLines (fun _ hc => hc) hsome, howManyIn_eq_zero_iff] at hnone
  refine lines_joined hnone ?_
  rw [tableLines_eq hsome, List.getLast?_append, List.getLast?_map,
    List.getLast?_eq_some_getLast hsome]
  exact fun hlast => row_ne_empty _ (Option.some.inj hlast)

/-! ## A row for each diagnostic -/

/-- A report on one file with one diagnostic, which shows a message. -/
def oneWarning (message : String) : List FileResult :=
  [⟨"a.tsx", [⟨"a.tsx", "solid/reactivity", .warning, ⟨30, 37, 2, 10, 3, 3⟩, message, .finding⟩]⟩]

/-- The plain report has its lines exactly if no line feed stands in the name of a file, in a
message or in the name of a rule, and for each that does it has one line more.  The table has its
lines exactly if none stands in the texts of its rows.  If the texts hold no line ends of any other
kind either, the lines are the same for those who count these.  Whatever the cells of a row hold,
the row gives them back. -/
theorem has_rows_iff (rules : List Rule) (results : List FileResult) :
    (feedLines (render rules results .plain)).length =
        results.length + (Summary.diagnostics results).length + 2 +
          howManyIn isLineFeed (plainTexts results) ∧
      (HasPlainRows results (feedLines (render rules results .plain)) ↔
        ∀ s ∈ plainTexts results, '\n' ∉ s.toList) ∧
      ((∀ s ∈ plainTexts results, ∀ c ∈ s.toList, isLineEnd c = false) →
        HasPlainRows results (lines (render rules results .plain))) ∧
      (Summary.diagnostics results ≠ [] →
        (HasTableRows results (feedLines (render rules results .table)) ↔
            ∀ s ∈ tableTexts results, '\n' ∉ s.toList) ∧
          ((∀ s ∈ tableTexts results, ∀ c ∈ s.toList, isLineEnd c = false) →
            HasTableRows results (lines (render rules results .table)))) ∧
      ∀ cells, cells ≠ [] → readRow (row cells) = some cells := by
  refine ⟨length_feedLines_plain results, hasPlainRows_feedLines_iff results, fun htexts => ?_,
    fun hsome => ⟨hasTableRows_feedLines_iff hsome, fun htexts => ?_⟩, fun cells => readRow_row⟩
  · show HasPlainRows results (lines (plain results))
    rw [lines_plain htexts]
    exact hasPlainRows_plainLines results
  · show HasTableRows results (lines (table results))
    rw [lines_table hsome htexts]
    exact hasTableRows_tableLines hsome

/-- A message may hold bars, also behind backslashes. -/
theorem has_rows_bars :
    HasPlainRows (oneWarning "a \\| b") (lines (render [] (oneWarning "a \\| b") .plain)) ∧
      HasTableRows (oneWarning "a \\| b") (lines (render [] (oneWarning "a \\| b") .table)) := by
  obtain ⟨-, -, hplain, htable, -⟩ := has_rows_iff [] (oneWarning "a \\| b")
  have hsome : Summary.diagnostics (oneWarning "a \\| b") ≠ [] := List.cons_ne_nil _ _
  refine ⟨hplain ?_, (htable hsome).2 ?_⟩
  · simp [plainTexts, oneWarning, isLineEnd]
  · simp [tableTexts, Summary.diagnostics, oneWarning, isLineEnd]

/-- A message that shows a piece of the source may hold a line feed, and then neither report has its
rows. -/
theorem no_rows_lineFeed :
    ¬ HasPlainRows (oneWarning "props.\nx") (feedLines (render [] (oneWarning "props.\nx") .plain)) ∧
      ¬ HasTableRows (oneWarning "props.\nx")
        (feedLines (render [] (oneWarning "props.\nx") .table)) := by
  have hsome : Summary.diagnostics (oneWarning "props.\nx") ≠ [] := List.cons_ne_nil _ _
  have hfeed : '\n' ∈ "props.\nx".toList := by simp
  refine ⟨fun hplain => ?_, fun htable => ?_⟩
  · exact (hasPlainRows_feedLines_iff _).mp hplain "props.\nx"
      (by simp [plainTexts, oneWarning]) hfeed
  · exact (hasTableRows_feedLines_iff hsome).mp htable "props.\nx"
      (by simp [tableTexts, Summary.diagnostics, oneWarning]) hfeed

end CodeConventions.Report
