import CodeConventions.Json.Basic
import CodeConventions.Number.Digits
import CodeConventions.Options.Issue
import CodeConventions.Text.Blank
import CodeConventions.Text.Letters

/-!
# Reading values from outside

The readers of single values.  Flags and integers are read leniently, also from texts and from
numbers of the other sort; texts and lists must be what they are.
-/

namespace CodeConventions.Checked

/-- The texts that stand for a flag, in small letters. -/
def flagWords : List (String × Bool) :=
  [("1", true), ("true", true), ("t", true), ("yes", true), ("y", true), ("on", true),
    ("0", false), ("false", false), ("f", false), ("no", false), ("n", false), ("off", false)]

/-- A word in small Latin letters. -/
def smallLatin (s : String) : String := String.ofList (s.toList.map Char.toLower)

/-- The number fits into a signed word of 64 bits. -/
def fitsWord (i : Int) : Bool := -(Nat.pow 2 63 : Nat) ≤ i && i < (Nat.pow 2 63 : Nat)

/-- A flag given as a number. -/
def flagOfInt (i : Int) : Checked Bool :=
  if i = 0 then .good false
  else if i = 1 then .good true
  else if fitsWord i then fail .unreadableFlag
  else fail .notFlag

/-- The number lies strictly between the ends of the signed words of 64 bits. -/
def insideWord (i : Int) : Bool := i.natAbs < Nat.pow 2 63

/-- A flag. -/
def flag : Json → Checked Bool
  | .bool b => .good b
  | .int i => flagOfInt i
  | .real x =>
    match x.toInt? with
    | some i => if insideWord i then flagOfInt i else fail .notFlag
    | none => fail .notFlag
  | .text s =>
    match flagWords.lookup (smallLatin s) with
    | some b => .good b
    | none => fail .unreadableFlag
  | .unpaired _ => fail .brokenText
  | _ => fail .notFlag

/-- A text, in which lone halves of characters are replaced. -/
def text (j : Json) : Checked String :=
  match j.text? with
  | some s => .good s
  | none => fail .notText

/-- A list of which each item is read. -/
def listOf {α : Type} (read : Json → Checked α) : Json → Checked (List α)
  | .list items => all read (indexed items)
  | _ => fail .notList

/-- The entries of an object. -/
def entries : Json → Checked Json.Entries
  | .object es => .good es
  | .unkeyed .. => .good []
  | _ => fail .notObject

/-- An object of which each value is read. -/
def objectOf {α : Type} (read : Json → Checked α) (j : Json) : Checked (List (String × α)) :=
  match j with
  | .object es => map (fun values => (es.map Prod.fst).zip values) (all read es)
  | .unkeyed .. => .good []
  | _ => fail .notObject

/-- One of some named values; `kind` says what is wrong with anything else. -/
def named {α : Type} (kind : IssueKind) (names : List (String × α)) : Json → Checked α
  | .text s =>
    match names.lookup s with
    | some a => .good a
    | none => fail kind
  | .unpaired _ => fail .brokenText
  | _ => fail kind

/-! ## Integers -/

/-- A space around an integer: a blank that is no separator of records. -/
def isOuterSpace (c : Char) : Bool := Text.isBlank c && !(28 ≤ c.toNat && c.toNat ≤ 31)

/-- A text without the spaces around it. -/
def withoutSpaces (cs : List Char) : List Char :=
  ((cs.dropWhile isOuterSpace).reverse.dropWhile isOuterSpace).reverse

/-- A text without its first point, if that is followed by zeros and by nothing else. -/
def withoutZeroFraction (cs : List Char) : List Char :=
  match cs.dropWhile (· != '.') with
  | '.' :: '0' :: zeros => if zeros.all (· == '0') then cs.takeWhile (· != '.') else cs
  | _ => cs

/-- A number without the zeros that it begins with and the underscores among them.  Other digits or
a minus must follow, if it is not zero; of zero the last character is left. -/
def withoutZeros? : List Char → Option (List Char)
  | '0' :: rest =>
    match rest.dropWhile fun c => c == '0' || c == '_' with
    | [] => some [rest.getLast?.getD '0']
    | c :: more => if Digits.isDecimal c || c == '-' then some (c :: more) else none
  | c :: rest => if Digits.isDecimal c then some (c :: rest) else none
  | [] => none

/-- Two underscores stand side by side. -/
def hasDoubled : List Char → Bool
  | '_' :: '_' :: _ => true
  | _ :: rest => hasDoubled rest
  | [] => false

/-- A number without underscores, which may only stand between other characters, one by one. -/
def withoutUnderscores? (cs : List Char) : Option (List Char) :=
  if cs.head? == some '_' || cs.getLast? == some '_' || hasDoubled cs then none
  else some (cs.filter (· != '_'))

/-- A natural number. -/
def natural? (cs : List Char) : Option Nat :=
  if cs.isEmpty || !cs.all Digits.isDecimal then none else some (Digits.number 10 cs)

/-- A number that is negative already, or that may be negative itself. -/
def signed? (negative : Bool) (cs : List Char) : Option Int :=
  match negative, cs with
  | true, cs => (natural? cs).map fun n => -(n : Int)
  | false, '-' :: ds => (natural? ds).map fun n => -(n : Int)
  | false, cs => (natural? cs).map fun n => (n : Int)

/-- The integer that a text is. -/
def integerText (s : String) : Checked Int :=
  let (negative, unsigned) :=
    match withoutZeroFraction (withoutSpaces s.toList) with
    | '-' :: rest => (true, rest)
    | '+' :: '-' :: _ => (false, [])
    | '+' :: rest => (false, rest)
    | cs => (false, cs)
  match (withoutZeros? unsigned).bind withoutUnderscores? with
  | none => fail .unreadableInteger
  | some ds =>
    if NumberLimit.digits < ds.length then fail .tooLongInteger
    else
      match signed? negative ds with
      | some i => .good i
      | none => fail .unreadableInteger

/-- An integer. -/
def integer : Json → Checked Int
  | .bool b => .good (if b then 1 else 0)
  | .int i => .good i
  | .real x =>
    if !x.isFinite then fail .notFinite
    else
      match x.toInt? with
      | some i => if insideWord i then .good i else fail .tooLongInteger
      | none => fail .fractional
  | .text s => integerText s
  | .unpaired _ => fail .brokenText
  | _ => fail .notInteger

/-- An integer that is at least one. -/
def positive (j : Json) : Checked Int :=
  match integer j with
  | .good i => if 1 ≤ i then .good i else fail .notPositive
  | .bad issues => .bad issues

end CodeConventions.Checked
