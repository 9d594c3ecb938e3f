import CodeConventions.Text.Printable

/-!
# Quoted text

The form in which a message shows a text that is at fault: between single quotes, or between
double quotes when it holds single quotes only.  The quote that encloses the text, the backslash
and every character that is not printable are written as escapes.
-/

namespace CodeConventions.Text.Quoted

/-- A number in hexadecimal, filled up with zeros to a width. -/
def hex (width n : Nat) : List Char :=
  let digits := Nat.toDigits 16 n
  List.replicate (width - digits.length) '0' ++ digits

/-- One character between quotes. -/
def escape (quote c : Char) : List Char :=
  if c = quote || c = '\\' then ['\\', c]
  else if c = '\n' then ['\\', 'n']
  else if c = '\r' then ['\\', 'r']
  else if c = '\t' then ['\\', 't']
  else if !isPrintable c then
    if c.toNat < 0x100 then '\\' :: 'x' :: hex 2 c.toNat
    else if c.toNat < 0x10000 then '\\' :: 'u' :: hex 4 c.toNat
    else '\\' :: 'U' :: hex 8 c.toNat
  else [c]

/-- A text between quotes. -/
def encode (s : String) : String :=
  let cs := s.toList
  let quote := if cs.contains '\'' && !cs.contains '"' then '"' else '\''
  String.ofList (quote :: (cs.flatMap (escape quote) ++ [quote]))

end CodeConventions.Text.Quoted
