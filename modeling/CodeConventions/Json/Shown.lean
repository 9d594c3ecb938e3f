import CodeConventions.Json.Basic
import CodeConventions.Number.Binary64
import CodeConventions.Text.Words

/-!
# Values in messages

The sort of a value by its name, and what a message shows of a value.
-/

namespace CodeConventions

/-!
## Sorts of values

The sort of a value, by the name under which messages know it.
-/

/-- The sort of a value. -/
inductive ValueShape where
  | nothing
  | flag
  | integer
  | real
  | text
  | list
  | object
  deriving DecidableEq, Repr

/-- The name of a sort of values. -/
def ValueShape.name : ValueShape → String
  | .nothing => "NoneType"
  | .flag => "bool"
  | .integer => "int"
  | .real => "float"
  | .text => "str"
  | .list => "list"
  | .object => "dict"

/-- The sort of a value. -/
def Json.shape : Json → ValueShape
  | .null => .nothing
  | .bool _ => .flag
  | .int _ => .integer
  | .real _ => .real
  | .text _ => .text
  | .list _ => .list
  | .object _ => .object
  | .unpaired _ => .text
  | .unkeyed .. => .object

/-!
## Values in messages

How a message shows a value that is at fault: texts in quotes, truth values and null as words, lists
in brackets and objects in braces.  What is shown is cut in the middle if it takes more than fifty
bytes.
-/

namespace Json

mutual

/-- A value as a message shows it. -/
def shown : Json → String
  | .null => "None"
  | .bool b => if b then "True" else "False"
  | .int i => toString i
  | .real x => x.toText
  | .text s => Text.Quoted.encode s
  | .list items => "[" ++ shownItems items ++ "]"
  | .object es => "\x7b" ++ shownEntries es ++ "\x7d"
  | .unpaired points => Text.Quoted.encode (Text.Surrogate.repaired points)
  | .unkeyed key _ => "\x7b" ++ Text.Quoted.encode (Text.Surrogate.repaired key) ++ ": None\x7d"

/-- The items of a list with commas between them. -/
def shownItems : List Json → String
  | [] => ""
  | [x] => shown x
  | x :: rest => shown x ++ ", " ++ shownItems rest

/-- The entries of an object with commas between them. -/
def shownEntries : List (String × Json) → String
  | [] => ""
  | [(k, v)] => Text.Quoted.encode k ++ ": " ++ shown v
  | (k, v) :: rest => Text.Quoted.encode k ++ ": " ++ shown v ++ ", " ++ shownEntries rest

end

end Json

namespace Text

/-- The characters at the beginning of a text that take at most a number of bytes together. -/
def firstBytes (n : Nat) : List Char → List Char
  | [] => []
  | c :: rest => if c.utf8Size ≤ n then c :: firstBytes (n - c.utf8Size) rest else []

/-- A text that is cut in the middle if it is long. -/
def abbreviated (s : String) : String :=
  if s.utf8ByteSize ≤ 50 then s
  else
    let cs := s.toList
    String.ofList (firstBytes 25 cs ++ "...".toList ++ (firstBytes 24 cs.reverse).reverse)

end Text

end CodeConventions
