/-!
# Digits

The digits of ASCII in the usual bases, and the number that a sequence of them stands for.

Whole numbers are read and shown in base ten only up to a limit of digits.  Zeros at the beginning
count when a number is read.
-/

namespace CodeConventions

namespace Digits

/-- The value of a digit in bases up to sixteen. -/
def value? (c : Char) : Option Nat :=
  if '0' ≤ c && c ≤ '9' then some (c.toNat - 48)
  else if 'a' ≤ c && c ≤ 'f' then some (c.toNat - 87)
  else if 'A' ≤ c && c ≤ 'F' then some (c.toNat - 55)
  else none

/-- A digit of the base, which is at most sixteen. -/
def isDigitOf (base : Nat) (c : Char) : Bool := (value? c).any (· < base)

/-- A decimal digit. -/
def isDecimal (c : Char) : Bool := '0' ≤ c && c ≤ '9'

/-- The number that digits of a base stand for. -/
def number (base : Nat) (ds : List Char) : Nat :=
  ds.foldl (fun n d => n * base + (value? d).getD 0) 0

theorem foldl_digits (base : Nat) (es : List Char) (n : Nat) :
    es.foldl (fun n d => n * base + (value? d).getD 0) n
      = n * Nat.pow base es.length + number base es := by
  induction es generalizing n with
  | nil => simp [number]
  | cons e es ih =>
    have power : Nat.pow base (es.length + 1) = base * Nat.pow base es.length :=
      Nat.mul_comm (Nat.pow base es.length) base
    simp only [number, List.foldl_cons, List.length_cons, Nat.zero_mul, Nat.zero_add]
    rw [ih, ih ((value? e).getD 0), power, Nat.add_mul, Nat.mul_assoc, Nat.add_assoc]

theorem number_append (base : Nat) (ds es : List Char) :
    number base (ds ++ es) = number base ds * Nat.pow base es.length + number base es := by
  rw [number, List.foldl_append, foldl_digits]
  rfl

end Digits

/-! ## The length of numbers -/

namespace NumberLimit

/-- The most digits that a whole number is read from or shown with. -/
def digits : Nat := 4300

/-- Why a number that is written with some digits is not read. -/
def readingFault (written : Nat) : String :=
  s!"Exceeds the limit (4300 digits) for integer string conversion: value has {written} digits; "
    ++ "use sys.set_int_max_str_digits() to increase the limit"

/-- Why a number is not shown. -/
def showingFault : String :=
  "Exceeds the limit (4300 digits) for integer string conversion; "
    ++ "use sys.set_int_max_str_digits() to increase the limit"

/-- The text of a whole number, unless it has too many digits. -/
def shown? (n : Int) : Option String :=
  if n.natAbs < Nat.pow 10 digits then some (toString n) else none

end NumberLimit

end CodeConventions
