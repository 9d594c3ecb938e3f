import CodeConventions.Json.Basic
import CodeConventions.Number.Digits

/-!
# Reading values

The grammar of the data format, with the words `NaN`, `Infinity` and `-Infinity` for the numbers
that have no digits.  Nothing may follow the value but blanks.  In an object with equal keys the
last one wins.  Two calls at most lie between one character that is read and the next, so that twice
the length of the input bounds the fuel.

Reading stops at the first fault.  Besides an offence against the grammar this can be an integer
with too many digits, or a list or an object inside too many others.  How many are too many is given
to the reader; values are read with the usual limits everywhere.
-/

namespace CodeConventions

/-- Why a text is not the written form of a value. -/
inductive JsonFault where
  | malformed
  /-- An integer has too many digits. -/
  | longNumber (digits : Nat)
  /-- A list or an object is nested too deep. -/
  | deepList
  | deepObject
  deriving DecidableEq, Repr

namespace Json

/-- What a reader takes at most. -/
structure Limits where
  /-- The digits of an integer. -/
  digits : Nat
  /-- The lists and objects that lie inside each other. -/
  depth : Nat
  deriving DecidableEq, Repr

/-- The limits with which values are read. -/
def Limits.usual : Limits := ⟨NumberLimit.digits, 990⟩

/-- The characters that may stand between the parts of a value. -/
def isSpace (c : Char) : Bool := c == ' ' || c == '\t' || c == '\n' || c == '\r'

/-- The rest of a text after the blanks it begins with. -/
def skip (cs : List Char) : List Char := cs.dropWhile isSpace

/-- The number written as four hexadecimal digits. -/
def hex4? (a b c d : Char) : Option Nat := do
  let a ← Digits.value? a
  let b ← Digits.value? b
  let c ← Digits.value? c
  let d ← Digits.value? d
  return ((a * 16 + b) * 16 + c) * 16 + d

/-- The character that a one-letter escape stands for. -/
def escaped? (c : Char) : Option Char :=
  match c with
  | '"' => some '"'
  | '\\' => some '\\'
  | '/' => some '/'
  | 'b' => some (Char.ofNat 8)
  | 'f' => some (Char.ofNat 12)
  | 'n' => some '\n'
  | 'r' => some '\r'
  | 't' => some '\t'
  | _ => none

/-- The code points of a text up to the closing quote, and what follows the quote; `seen` holds
the code points already read, last one first. -/
def codePoints (seen : List Nat) : List Char → Except JsonFault (List Nat × List Char)
  | [] => .error .malformed
  | '"' :: rest => .ok (seen.reverse, rest)
  | '\\' :: 'u' :: a :: b :: c :: d :: rest =>
    match hex4? a b c d with
    | some n => codePoints (n :: seen) rest
    | none => .error .malformed
  | '\\' :: c :: rest =>
    match escaped? c with
    | some e => codePoints (e.toNat :: seen) rest
    | none => .error .malformed
  -- control characters cannot stand between quotes as they are
  | c :: rest => if c.toNat < 32 then .error .malformed else codePoints (c.toNat :: seen) rest

/-- The code points of a text after its opening quote. -/
def readPoints (cs : List Char) : Except JsonFault (List Nat × List Char) :=
  (codePoints [] cs).map fun (points, rest) => (Text.Surrogate.joined points, rest)

/-- The digits after a decimal point, if there is a point with digits after it. -/
def fraction (cs : List Char) : Option (List Char × List Char) :=
  match cs with
  | '.' :: rest =>
    let ds := rest.takeWhile Digits.isDecimal
    if ds.isEmpty then none else some (ds, rest.dropWhile Digits.isDecimal)
  | _ => none

/-- The exponent, if there is one with digits. -/
def exponent (cs : List Char) : Option (Int × List Char) :=
  let unsigned (negative : Bool) (rest : List Char) : Option (Int × List Char) :=
    let ds := rest.takeWhile Digits.isDecimal
    if ds.isEmpty then none
    else
      let n : Int := Digits.number 10 ds
      some (if negative then -n else n, rest.dropWhile Digits.isDecimal)
  match cs with
  | e :: rest =>
    if e = 'e' || e = 'E' then
      match rest with
      | '-' :: rest => unsigned true rest
      | '+' :: rest => unsigned false rest
      | rest => unsigned false rest
    else none
  | [] => none

/-- The digits before the point: a zero stands alone. -/
def wholePart (cs : List Char) : Option (List Char × List Char) :=
  match cs with
  | '0' :: rest => some (['0'], rest)
  | _ =>
    let ds := cs.takeWhile Digits.isDecimal
    if ds.isEmpty then none else some (ds, cs.dropWhile Digits.isDecimal)

/-- A number after its sign; as an integer it has at most `longest` digits. -/
def readUnsigned (longest : Nat) (negative : Bool) (cs : List Char) :
    Except JsonFault (Json × List Char) :=
  match wholePart cs with
  | none => .error .malformed
  | some (whole, rest) =>
    let number := Digits.number 10
    let (digits, rest, hasFraction) :=
      match fraction rest with
      | some (ds, rest) => (ds, rest, true)
      | none => ([], rest, false)
    match exponent rest with
    | some (e, rest) =>
      .ok (.real (.ofDecimal negative (number (whole ++ digits)) (e - digits.length)), rest)
    | none =>
      if hasFraction then
        let scale : Int := -(digits.length : Int)
        .ok (.real (.ofDecimal negative (number (whole ++ digits)) scale), rest)
      else if longest < whole.length then .error (.longNumber whole.length)
      else
        -- without a fraction and an exponent the number stays exact
        let n : Int := Digits.number 10 whole
        .ok (.int (if negative then -n else n), rest)

/-- The rest of a text after a word it begins with. -/
def afterWord? (word cs : List Char) : Option (List Char) :=
  if word.isPrefixOf cs then some (cs.drop word.length) else none

/-- The words of the format. -/
def words : List (List Char × Json) :=
  [("null".toList, .null), ("true".toList, .bool true), ("false".toList, .bool false),
    ("NaN".toList, .real .notANumber), ("Infinity".toList, .real (.infinite false)),
    ("-Infinity".toList, .real (.infinite true))]

/-- A word of the format or a number. -/
def readScalar (longest : Nat) (cs : List Char) : Except JsonFault (Json × List Char) :=
  match words.findSome? fun (w, j) => (afterWord? w cs).map (j, ·) with
  | some r => .ok r
  | none =>
    match cs with
    | '-' :: rest => readUnsigned longest true rest
    | _ => readUnsigned longest false cs

/-- The object with some entries, in which the last of equal keys wins. -/
def ofPointEntries (entries : List (List Nat × Json)) : Json :=
  match entries.find? fun e => (Text.Surrogate.text? e.1).isNone with
  | some (key, _) => .unkeyed key (entries.map Prod.fst).eraseDups
  | none => ofEntries (entries.map fun (key, v) => (Text.Surrogate.repaired key, v))

mutual

/-- A value with at most `room` lists and objects inside each other, and the text after it. -/
def readValue (longest : Nat) : Nat → Nat → List Char → Except JsonFault (Json × List Char)
  | 0, _, _ => .error .malformed
  | _ + 1, _, '"' :: rest => (readPoints rest).map fun (points, rest) => (ofPoints points, rest)
  | _ + 1, 0, '[' :: _ => .error .deepList
  | fuel + 1, room + 1, '[' :: rest =>
    match skip rest with
    | ']' :: rest => .ok (.list [], rest)
    | rest => (readItems longest fuel room rest).map fun (xs, rest) => (.list xs, rest)
  | _ + 1, 0, '\x7b' :: _ => .error .deepObject
  | fuel + 1, room + 1, '\x7b' :: rest =>
    match skip rest with
    | '\x7d' :: rest => .ok (.object [], rest)
    | rest => (readEntries longest fuel room rest).map fun (es, rest) => (ofPointEntries es, rest)
  | _ + 1, _, cs => readScalar longest cs

/-- The items of a list from one item on, up to the closing bracket. -/
def readItems (longest : Nat) : Nat → Nat → List Char → Except JsonFault (List Json × List Char)
  | 0, _, _ => .error .malformed
  | fuel + 1, room, cs =>
    match readValue longest fuel room cs with
    | .error fault => .error fault
    | .ok (x, rest) =>
      match skip rest with
      | ']' :: rest => .ok ([x], rest)
      | ',' :: rest =>
        (readItems longest fuel room (skip rest)).map fun (xs, rest) => (x :: xs, rest)
      | _ => .error .malformed

/-- The entries of an object from one key on, up to the closing brace. -/
def readEntries (longest : Nat) :
    Nat → Nat → List Char → Except JsonFault (List (List Nat × Json) × List Char)
  | 0, _, _ => .error .malformed
  | fuel + 1, room, '"' :: rest =>
    match readPoints rest with
    | .error fault => .error fault
    | .ok (k, rest) =>
      match skip rest with
      | ':' :: rest =>
        match readValue longest fuel room (skip rest) with
        | .error fault => .error fault
        | .ok (v, rest) =>
          match skip rest with
          | '\x7d' :: rest => .ok ([(k, v)], rest)
          | ',' :: rest =>
            (readEntries longest fuel room (skip rest)).map fun (es, rest) => ((k, v) :: es, rest)
          | _ => .error .malformed
      | _ => .error .malformed
  | _ + 1, _, _ => .error .malformed

end

/-- The value that a text is written as, within some limits. -/
def ofCharsWithin (limits : Limits) (cs : List Char) : Except JsonFault Json :=
  match readValue limits.digits (2 * cs.length + 2) limits.depth (skip cs) with
  | .ok (j, rest) => if (skip rest).isEmpty then .ok j else .error .malformed
  | .error fault => .error fault

/-- The value that a text is written as. -/
def ofChars (cs : List Char) : Except JsonFault Json := ofCharsWithin .usual cs

/-- The value that a text is written as. -/
def read (s : String) : Except JsonFault Json := ofChars s.toList

end Json

end CodeConventions
