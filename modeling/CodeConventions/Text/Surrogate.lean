import CodeConventions.Text.Quoted

/-!
# Halves of characters

The code points from D800 to DFFF are halves.  A high half and a low half after it stand for one
character beyond FFFF; a half alone stands for none.  A sequence of code points with a lone half in
it is no text, and it cannot be encoded.
-/

namespace CodeConventions.Text.Surrogate

/-- The first half of a character. -/
def isHigh (n : Nat) : Bool := 0xD800 ≤ n && n < 0xDC00

/-- The second half of a character. -/
def isLow (n : Nat) : Bool := 0xDC00 ≤ n && n < 0xE000

/-- A half of a character. -/
def isHalf (n : Nat) : Bool := isHigh n || isLow n

/-- The code points of some code points after matching halves are joined. -/
def joined : List Nat → List Nat
  | [] => []
  | [n] => [n]
  | hi :: lo :: rest =>
    if isHigh hi && isLow lo then (0x10000 + (hi - 0xD800) * 0x400 + (lo - 0xDC00)) :: joined rest
    else hi :: joined (lo :: rest)

/-- The text that some code points are, if there is no half among them. -/
def text? (points : List Nat) : Option String :=
  if points.any isHalf then none else some (String.ofList (points.map Char.ofNat))

/-- The text with the replacement character in the place of each half. -/
def repaired (points : List Nat) : String :=
  String.ofList (points.map fun n => if isHalf n then Char.ofNat 0xFFFD else Char.ofNat n)

/-- Why some code points with a half among them cannot be encoded: it names the first halves. -/
def encodingFault (points : List Nat) : String :=
  let first := points.findIdx isHalf
  match (points.drop first).takeWhile isHalf with
  | [n] =>
    s!"'utf-8' codec can't encode character '\\u{String.ofList (Quoted.hex 4 n)}' in position "
      ++ s!"{first}: surrogates not allowed"
  | run =>
    s!"'utf-8' codec can't encode characters in position {first}-{first + run.length - 1}: "
      ++ "surrogates not allowed"

end CodeConventions.Text.Surrogate
