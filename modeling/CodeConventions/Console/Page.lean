import CodeConventions.Console.Pictograph
import CodeConventions.Text.Columns
import CodeConventions.Text.Lines
import CodeConventions.Text.Words

/-!
# Text on a page

What becomes of a text and of a table when they are printed on the console.
-/

namespace CodeConventions.Console

/-!
## Text on a page

What becomes of a text when it is printed on the console.  Control characters that move the print
position leave no trace, a tab fills up to the next stop, and the names of pictographs show as
pictographs.  Every printed text ends its line.

A control sequence tells a terminal what to do: it is an escape character and an opening bracket,
then digits, semicolons and question marks, and a letter.  A text that is written for another place
than a terminal has its control sequences taken out.
-/

/-- The control characters that are left out. -/
def isDropped (c : Char) : Bool := [7, 8, 11, 12, 13].contains c.toNat

/-- The distance of tab stops. -/
def tabStop : Nat := 8

/-- A part of a line up to a tab, with blanks for the tab up to the next stop.  One blank is always
there and is measured with the part. -/
def filled (cs : List Char) : List Char :=
  let part := cs ++ [' ']
  part ++ List.replicate ((tabStop - Text.columns part % tabStop) % tabStop) ' '

/-- A line with blanks in the place of tabs. -/
def untabbed (cs : List Char) : List Char :=
  match (Text.splitAtChar '\t' cs).reverse with
  | [] => []
  | last :: before => (before.reverse.map filled).flatten ++ last

/-- A text with blanks in the place of tabs. -/
def expandTabs (cs : List Char) : List Char :=
  List.intercalate ['\n'] ((Text.splitAtChar '\n' cs).map untabbed)

/-- The characters that are printed for a text. -/
def printed (cs : List Char) : List Char :=
  expandTabs ((Pictograph.expand cs).filter fun c => !isDropped c) ++ ['\n']

/-- What is printed for a text. -/
def line (s : String) : String := String.ofList (printed s.toList)

/-! ### Control sequences -/

/-- A character that may stand between the bracket and the letter. -/
def isParameter (c : Char) : Bool := c.isDigit || c == ';' || c == '?'

/-- The length of the control sequence that a text begins with, if it begins with one. -/
def sequenceLength? : List Char → Option Nat
  | '\x1b' :: '[' :: rest =>
    match rest.dropWhile isParameter with
    | c :: _ => if c.isAlpha then some ((rest.takeWhile isParameter).length + 3) else none
    | [] => none
  | _ => none

/-- A text without its control sequences, of which the first `skipped` characters belong to one that
has been read. -/
def withoutSequencesFrom : Nat → List Char → List Char
  | _, [] => []
  | k + 1, _ :: rest => withoutSequencesFrom k rest
  | 0, c :: rest =>
    match sequenceLength? (c :: rest) with
    | some n => withoutSequencesFrom (n - 1) rest
    | none => c :: withoutSequencesFrom 0 rest

/-- A text without its control sequences. -/
def withoutSequences (s : String) : String := String.ofList (withoutSequencesFrom 0 s.toList)

/-!
## Tables on a page

A table has a title, the names of its columns, and rows of cells.  Each column is as wide as its
widest cell with a blank on either side.  The title stands in the middle, a little to the left where
it cannot stand exactly there.
-/

/-- A table. -/
structure Grid where
  title : String
  heads : List String
  rows : List (List String)
  deriving Repr

/-- The strokes of a line of a table: at its left end, along it, between columns, at its right
end. -/
structure Stroke where
  left : String
  along : Char
  between : String
  right : String
  deriving Repr

namespace Grid

/-- The columns of the page that a cell takes. -/
def cellWidth (cell : String) : Nat := Text.columns cell.toList

/-- The widest of some cells. -/
def widest (cells : List String) : Nat := (cells.map cellWidth).foldl max 0

/-- The widths of the columns, blanks included. -/
def widths (g : Grid) : List Nat :=
  g.heads.zipIdx.map fun (head, i) => widest (head :: g.rows.map fun r => r[i]?.getD "") + 2

/-- A number of copies of a character. -/
def copies (n : Nat) (c : Char) : String := String.ofList (List.replicate n c)

/-- A ruled line. -/
def rule (widths : List Nat) (s : Stroke) : String :=
  s.left ++ Text.joined s.between (widths.map fun w => copies w s.along) ++ s.right

/-- A line of cells with upright strokes around them. -/
def cellLine (widths : List Nat) (bar : String) (cells : List String) : String :=
  let filled := (widths.zip cells).map fun (w, c) => " " ++ c ++ copies (w - 1 - cellWidth c) ' '
  bar ++ Text.joined bar filled ++ bar

/-- A text in the middle of a line. -/
def centered (width : Nat) (s : String) : String :=
  let spare := width - cellWidth s
  -- an odd blank goes to the right
  copies (spare / 2) ' ' ++ s ++ copies (spare - spare / 2) ' '

/-- The lines of the table. -/
def lines (g : Grid) : List String :=
  let ws := g.widths
  let total := ws.foldl (· + ·) (ws.length + 1)
  [centered total g.title, rule ws ⟨"┏", '━', "┳", "┓"⟩, cellLine ws "┃" g.heads,
    rule ws ⟨"┡", '━', "╇", "┩"⟩]
    ++ g.rows.map (cellLine ws "│")
    ++ [rule ws ⟨"└", '─', "┴", "┘"⟩]

/-- What is printed for the table. -/
def toText (g : Grid) : String := String.join (g.lines.map fun l => l ++ "\n")

end Grid

end CodeConventions.Console
