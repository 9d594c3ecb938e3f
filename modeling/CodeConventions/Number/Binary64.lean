/-!
# Binary floating-point numbers

Binary numbers of 64 bits, how a decimal is read as one and how one is written as a decimal.
-/

namespace CodeConventions

/-!
## Binary floating-point numbers

A number is a sign and an integer `mantissa` scaled by a power of two; a mantissa has at most 53
bits and the exponent is at least -1074.  Numbers too large for that are infinite.  Everything is
exact arithmetic on natural numbers: a decimal number is read by rounding a quotient to the
nearest mantissa, a tie going to the even one.
-/

/-- A binary floating-point number of 64 bits. -/
inductive Binary64 where
  | finite (negative : Bool) (mantissa : Nat) (exponent : Int)
  | infinite (negative : Bool)
  | notANumber
  deriving DecidableEq, Repr, Inhabited

namespace Binary64

/-- The quotient rounded to the nearest natural number, a tie going to the even one. -/
def roundDiv (num den : Nat) : Nat :=
  let q := num / den
  let r := num % den
  if 2 * r < den then q
  else if den < 2 * r then q + 1
  else if q % 2 = 0 then q else q + 1

/-- The rounded quotient is one of the two neighbours of the exact one. -/
theorem roundDiv_le (num den : Nat) : num / den ≤ roundDiv num den := by
  simp only [roundDiv]
  repeat' split
  all_goals omega

theorem roundDiv_le_succ (num den : Nat) : roundDiv num den ≤ num / den + 1 := by
  simp only [roundDiv]
  repeat' split
  all_goals omega

/-- The quotient of two natural numbers as numerator and denominator of the same value divided by
`2 ^ exponent`. -/
def scaleDown (num den : Nat) (exponent : Int) : Nat × Nat :=
  if exponent < 0 then (num * Nat.pow 2 (-exponent).toNat, den)
  else (num, den * Nat.pow 2 exponent.toNat)

/-- The exponent at which the quotient has a mantissa of exactly 53 bits, or -1074 when it would
be smaller. -/
def exponentOf (num den : Nat) : Int :=
  let guess : Int := (Nat.log2 num : Int) - (Nat.log2 den : Int) - 53
  let (n, d) := scaleDown num den guess
  -- the guess is right or one too low
  let fitted := if n / d < Nat.pow 2 53 then guess else guess + 1
  max fitted (-1074)

/-- The number nearest to a positive quotient. -/
def ofRatio (negative : Bool) (num den : Nat) : Binary64 :=
  let e := exponentOf num den
  let (n, d) := scaleDown num den e
  let m := roundDiv n d
  -- rounding up may carry into one more bit
  let (m, e) := if m = Nat.pow 2 53 then (Nat.pow 2 52, e + 1) else (m, e)
  if 971 < e then .infinite negative else .finite negative m e

/-- The number nearest to `digits * 10 ^ exponent`. -/
def ofDecimal (negative : Bool) (digits : Nat) (exponent : Int) : Binary64 :=
  if digits = 0 then .finite negative 0 0
  else
    let magnitude : Int := ((Nat.toDigits 10 digits).length : Int) + exponent
    -- beyond these magnitudes the result is known without any powers
    if 310 < magnitude then .infinite negative
    else if magnitude < -330 then .finite negative 0 0
    else if exponent < 0 then ofRatio negative digits (Nat.pow 10 (-exponent).toNat)
    else ofRatio negative (digits * Nat.pow 10 exponent.toNat) 1

/-- The number with the other sign. -/
def neg : Binary64 → Binary64
  | .finite s m e => .finite (!s) m e
  | .infinite s => .infinite (!s)
  | .notANumber => .notANumber

/-- The number is zero, of either sign. -/
def isZero : Binary64 → Bool
  | .finite _ m _ => m == 0
  | _ => false

/-- The integer that the number is, if it is one. -/
def toInt? : Binary64 → Option Int
  | .finite s m e =>
    let signed (n : Nat) : Int := if s then -(n : Int) else n
    if 0 ≤ e then some (signed (m * Nat.pow 2 e.toNat))
    else
      let d := Nat.pow 2 (-e).toNat
      if m % d = 0 then some (signed (m / d)) else none
  | _ => none

/-- The number is neither infinite nor undefined. -/
def isFinite : Binary64 → Bool
  | .finite .. => true
  | _ => false

end Binary64

end CodeConventions

namespace CodeConventions.Binary64

/-!
## The shortest decimal that reads back

A binary number is written with the fewest decimal digits that still read back as the same number,
and among those with the digits nearest to its value.  The reals that read back as `m · 2 ^ e` form
an interval around it; for one, two, … digits the two neighbours of the value on that decimal grid
are tested against the interval, and the first grid with a hit wins.

The layout is a decision of its own: values from `0.0001` up to `10 ^ 16` are written
positionally, always with a fractional part, and all others with an exponent of at least two
digits.
-/

/-- The value, and the interval that rounds to it, over one common denominator: the lower end, the
value and the upper end as numerators, the denominator, and whether the ends belong to it. -/
structure Interval where
  low : Nat
  value : Nat
  high : Nat
  den : Nat
  closed : Bool
  deriving Repr

/-- The interval of reals that are rounded to `m · 2 ^ e`, for positive `m`. -/
def interval (m : Nat) (e : Int) : Interval :=
  -- below a power of two the next number is only half as far away
  let low := if m = Nat.pow 2 52 && decide (-1074 < e) then 4 * m - 1 else 4 * m - 2
  let up := Nat.pow 2 (e - 2).toNat
  let den := Nat.pow 2 (2 - e).toNat
  ⟨low * up, 4 * m * up, (4 * m + 2) * up, den, m % 2 == 0⟩

/-- The decimal `k * 10 ^ scale` lies in the interval. -/
def Interval.holds (i : Interval) (k : Nat) (scale : Int) : Bool :=
  let x := k * Nat.pow 10 scale.toNat * i.den
  let f := Nat.pow 10 (-scale).toNat
  if i.closed then i.low * f ≤ x && x ≤ i.high * f else i.low * f < x && x < i.high * f

/-- The number of decimal digits before the point; for a value below one, minus the number of
zeros that follow the point. -/
def pointPosition (num den : Nat) : Int :=
  let guess : Int := ((Nat.toDigits 10 num).length : Int) - ((Nat.toDigits 10 den).length : Int)
  -- the value lies between the powers of ten on either side of the guess
  if num * Nat.pow 10 (-guess).toNat < den * Nat.pow 10 guess.toNat then guess else guess + 1

/-- The shortest decimal in the interval with at most `left` further digits, from grids with `n`
digits on: the digits as a number, and the power of ten they are scaled by. -/
def Interval.shortest (i : Interval) (point : Int) : Nat → Nat → Nat × Int
  | 0, n => (i.value / i.den, point - n)
  | left + 1, n =>
    let scale := point - n
    let num := i.value * Nat.pow 10 (-scale).toNat
    let den := i.den * Nat.pow 10 scale.toNat
    let below := num / den
    let rest := num % den
    match i.holds below scale, i.holds (below + 1) scale with
    | true, true =>
      if 2 * rest < den || (2 * rest == den && below % 2 == 0) then (below, scale)
      else (below + 1, scale)
    | true, false => (below, scale)
    | false, true => (below + 1, scale)
    | false, false => i.shortest point left (n + 1)

/-- The shortest digits of `m · 2 ^ e`, for positive `m`, and the position of the point in
them. -/
def shortestDigits (m : Nat) (e : Int) : List Char × Int :=
  let i := interval m e
  let point := pointPosition i.value i.den
  let (k, scale) := i.shortest point 17 1
  let digits := Nat.toDigits 10 k
  let position := (digits.length : Int) + scale
  ((digits.reverse.dropWhile (· == '0')).reverse, position)

/-- Digits with a decimal point after the first `position` of them. -/
def positional (digits : List Char) (position : Int) : List Char :=
  if position ≤ 0 then '0' :: '.' :: (List.replicate (-position).toNat '0' ++ digits)
  else
    let whole := digits.take position.toNat
    let zeros := List.replicate (position.toNat - digits.length) '0'
    let part := digits.drop position.toNat
    whole ++ zeros ++ '.' :: (if part.isEmpty then ['0'] else part)

/-- Digits with a point after the first of them and an exponent. -/
def scientific (digits : List Char) (exponent : Int) : List Char :=
  let mantissa :=
    match digits with
    | [] => ['0']
    | [d] => [d]
    | d :: rest => d :: '.' :: rest
  let magnitude := Nat.toDigits 10 exponent.natAbs
  let filled := if magnitude.length < 2 then '0' :: magnitude else magnitude
  mantissa ++ 'e' :: (if exponent < 0 then '-' else '+') :: filled

/-- The text of a number. -/
def toText : Binary64 → String
  | .notANumber => "nan"
  | .infinite s => if s then "-inf" else "inf"
  | .finite s m e =>
    let body :=
      if m = 0 then ['0', '.', '0']
      else
        let (digits, position) := shortestDigits m e
        if -4 < position && position ≤ 16 then positional digits position
        else scientific digits (position - 1)
    String.ofList (if s then '-' :: body else body)

end CodeConventions.Binary64
