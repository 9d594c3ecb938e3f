import CodeConventions.Number.Binary64
import CodeConventions.Number.Digits

/-!
# Numeric literals

The value of a number written in a source.  Underscores between digits do not count.  A whole
number may be written in base ten, or in base two, eight or sixteen after a prefix; it is exact,
however long.  In base ten it must not begin with a zero unless it is zero, and the number of its
digits is limited.  Everything else is read as a decimal fraction, if it has that form.
-/

namespace CodeConventions

/-- The value of a numeric literal: exact, or rounded to a binary fraction. -/
inductive LiteralNumber where
  | whole (value : Int)
  | fraction (value : Binary64)
  deriving DecidableEq, Repr

namespace LiteralNumber

/-- The whole number that is written in some base. -/
def wholeIn? (base : Nat) (ds : List Char) : Option Int :=
  if !ds.isEmpty && ds.all (Digits.isDigitOf base) then some (Digits.number base ds) else none

/-- The whole number that a text is written as. -/
def whole? (cs : List Char) : Option Int :=
  match cs with
  | '0' :: 'x' :: ds | '0' :: 'X' :: ds => wholeIn? 16 ds
  | '0' :: 'o' :: ds | '0' :: 'O' :: ds => wholeIn? 8 ds
  | '0' :: 'b' :: ds | '0' :: 'B' :: ds => wholeIn? 2 ds
  | '0' :: ds => if ds.all (· == '0') && ds.length < NumberLimit.digits then some 0 else none
  | ds => if ds.length ≤ NumberLimit.digits then wholeIn? 10 ds else none

/-- The exponent that a text is written as; nothing at all means zero. -/
def exponent? (cs : List Char) : Option Int :=
  match cs with
  | [] => some 0
  | e :: rest =>
    if e = 'e' || e = 'E' then
      match rest with
      | '-' :: ds => (wholeIn? 10 ds).map (- ·)
      | '+' :: ds => wholeIn? 10 ds
      | ds => wholeIn? 10 ds
    else none

/-- The decimal fraction that a text is written as. -/
def fraction? (cs : List Char) : Option Binary64 :=
  let whole := cs.takeWhile Digits.isDecimal
  let rest := cs.dropWhile Digits.isDecimal
  let (part, rest) :=
    match rest with
    | '.' :: rest => (rest.takeWhile Digits.isDecimal, rest.dropWhile Digits.isDecimal)
    | rest => ([], rest)
  if whole.isEmpty && part.isEmpty then none
  else
    (exponent? rest).map fun e =>
      .ofDecimal false (Digits.number 10 (whole ++ part)) (e - part.length)

/-- The number that a literal is written as. -/
def read? (s : String) : Option LiteralNumber :=
  let cs := s.toList.filter (· != '_')
  match whole? cs with
  | some n => some (.whole n)
  | none => (fraction? cs).map .fraction

/-- The number with the other sign. -/
def neg : LiteralNumber → LiteralNumber
  | .whole n => .whole (-n)
  | .fraction x => .fraction x.neg

/-- The number is zero. -/
def isZero : LiteralNumber → Bool
  | .whole n => n == 0
  | .fraction x => x.isZero

/-- The number as a message shows it; a whole number with too many digits cannot be shown. -/
def toText? : LiteralNumber → Option String
  | .whole n => NumberLimit.shown? n
  | .fraction x => some x.toText

end LiteralNumber

end CodeConventions
