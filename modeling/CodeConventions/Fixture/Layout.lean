import CodeConventions.Number.Digits
import CodeConventions.Text.Blank
import CodeConventions.Text.Letters
import CodeConventions.Text.Lines
import CodeConventions.Text.Words

/-!
# The layout of a fixture

A fixture is a source file that says itself what is to be found in it.  Two comments divide it into
three regions: a prelude, a region of valid code behind the comment with the word `VALID`, and a
region of invalid code behind the comment with the word `INVALID`.  In the last region comments
with a number and a closing parenthesis begin the sub-cases, and each sub-case reaches to the line
before the next one.

Lines are counted from one.  The numbers of the sub-cases increase, and every sub-case has code.
-/

namespace CodeConventions

/-- A numbered sub-case, from the line of its comment to its last line. -/
structure SubCase where
  number : Nat
  description : String
  firstLine : Nat
  lastLine : Nat
  deriving DecidableEq, Repr, Inhabited

/-- The regions of a fixture: the lines of the two comments, and the sub-cases. -/
structure Layout where
  validLine : Nat
  invalidLine : Nat
  cases : List SubCase
  deriving DecidableEq, Repr, Inhabited

/-- Why a text is no fixture. -/
inductive LayoutFault where
  | noValid
  | noInvalid
  | invalidBeforeValid
  | outsideCases (line : Nat)
  | noCases
  | outOfSequence (number line : Nat)
  | noCode (number line : Nat)
  /-- The number of a sub-case has too many digits to be read. -/
  | longNumber (digits : Nat)
  deriving DecidableEq, Repr

/-- The text of a fault. -/
def LayoutFault.message : LayoutFault → String
  | .noValid => "missing VALID marker"
  | .noInvalid => "missing INVALID marker"
  | .invalidBeforeValid => "INVALID marker precedes VALID marker"
  | .outsideCases line => s!"line {line} is outside every sub-case"
  | .noCases => "INVALID region has no numbered sub-cases"
  | .outOfSequence number line => s!"sub-case {number} at line {line} is out of sequence"
  | .noCode number line => s!"sub-case {number} at line {line} has no code"
  | .longNumber digits => NumberLimit.readingFault digits

/-- The text of a fault in a file, given the path of the file. -/
def LayoutFault.report (path : String) : LayoutFault → String
  | .longNumber digits => (LayoutFault.longNumber digits).message
  | reason => s!"Malformed fixture {path}: {reason.message}"

namespace Layout

/-! ## Comments -/

/-- What follows the two slashes of a comment that begins the line, blanks aside. -/
def comment? (line : List Char) : Option (List Char) :=
  Text.after? "//" (line.dropWhile Text.isBlank)

/-- A word stands on its own somewhere in a text; `before` is the character before the text. -/
def standsIn (word : String) (before : Char) : List Char → Bool
  | [] => false
  | c :: rest =>
    (!Text.isWordChar before && (Text.after? word (c :: rest)).any fun after =>
        !Text.isWordChar? after.head?)
      || standsIn word c rest

/-- The line is a comment with a word in it. -/
def marks (word : String) (line : List Char) : Bool :=
  (comment? line).any (standsIn word '/')

/-- The digits and the description of a comment that begins a sub-case. -/
def heading? (line : List Char) : Option (List Char × List Char) := do
  let cs := (← comment? line).dropWhile Text.isBlank
  let digits := cs.takeWhile Text.isDigit
  match cs.dropWhile Text.isDigit with
  | ')' :: rest => if digits.isEmpty then none else some (digits, Text.trim rest)
  | _ => none

/-! ## Regions -/

/-- A comment that begins a sub-case. -/
structure Heading where
  line : Nat
  number : Nat
  description : String
  deriving DecidableEq, Repr

/-- The number of the first line that satisfies a condition. -/
def lineWith? (p : List Char → Bool) (lines : List (List Char)) : Option Nat :=
  (lines.findIdx? p).map (· + 1)

/-- The headings among some lines with their numbers. -/
def headings : List (List Char × Nat) → Except LayoutFault (List Heading)
  | [] => .ok []
  | (line, n) :: rest =>
    match heading? line with
    | none => headings rest
    | some (digits, description) =>
      if digits.length > NumberLimit.digits then .error (.longNumber digits.length)
      else
        (headings rest).map
          (⟨n, Text.numberOfDigits digits, String.ofList description⟩ :: ·)

/-- The headings of the last region, which begins with one, blank lines aside. -/
def regionHeadings (region : List (List Char × Nat)) : Except LayoutFault (List Heading) :=
  match region.dropWhile fun l => Text.allBlank l.1 with
  | [] => .error .noCases
  | (line, n) :: rest =>
    -- code before the first heading belongs to no sub-case
    if (heading? line).isNone then .error (.outsideCases n) else headings ((line, n) :: rest)

/-- The last line of a sub-case before the headings that follow it. -/
def lastLineBefore (total : Nat) : List Heading → Nat
  | [] => total
  | next :: _ => next.line - 1

/-- The sub-cases that some headings begin; `previous` is the number of the sub-case before. -/
def subCases (lines : List (List Char)) (previous : Option Nat) :
    List Heading → Except LayoutFault (List SubCase)
  | [] => .ok []
  | h :: rest =>
    let last := lastLineBefore lines.length rest
    if previous.any (h.number ≤ ·) then .error (.outOfSequence h.number h.line)
    else if ((lines.drop h.line).take (last - h.line)).all Text.allBlank then
      .error (.noCode h.number h.line)
    else
      (subCases lines (some h.number) rest).map
        (⟨h.number, h.description, h.line, last⟩ :: ·)

/-- The layout of a text of some lines. -/
def ofLines (lines : List (List Char)) : Except LayoutFault Layout :=
  match lineWith? (marks "VALID") lines, lineWith? (marks "INVALID") lines with
  | none, _ => .error .noValid
  | some _, none => .error .noInvalid
  | some valid, some invalid =>
    if invalid < valid then .error .invalidBeforeValid
    else do
      let found ← regionHeadings ((lines.zipIdx 1).drop invalid)
      let cases ← subCases lines none found
      return ⟨valid, invalid, cases⟩

/-- The layout of a text. -/
def ofText (source : String) : Except LayoutFault Layout :=
  ofLines (Text.linesFrom [] false source.toList)

end Layout

end CodeConventions
