import CodeConventions.Json.Basic
import CodeConventions.Number.Binary64

/-!
# Printing values

Values are printed in ASCII: every other character is written as one escape, or as two when it
needs a surrogate pair.  The layout says what stands between the parts.  An empty list or object
takes no room inside its brackets.
-/

namespace CodeConventions.Json

/-- What stands between the parts of a value: before an item at some depth, and after the colon
of an entry. -/
structure Layout where
  gap : Nat → List Char
  afterColon : List Char

/-- One item a line, two spaces further in for each level. -/
def Layout.indented : Layout :=
  ⟨fun depth => '\n' :: List.replicate (2 * depth) ' ', [' ']⟩

/-- Everything on one line. -/
def Layout.compact : Layout := ⟨fun _ => [], []⟩

/-- A number below `16 ^ 4` as four hexadecimal digits. -/
def hex4 (n : Nat) : List Char :=
  [Nat.digitChar (n / 4096 % 16), Nat.digitChar (n / 256 % 16), Nat.digitChar (n / 16 % 16),
    Nat.digitChar (n % 16)]

/-- An escape for one unit of sixteen bits. -/
def unitEscape (n : Nat) : List Char := '\\' :: 'u' :: hex4 n

/-- One character of a text between quotes. -/
def escapeChar (c : Char) : List Char :=
  if c = '"' then ['\\', '"']
  else if c = '\\' then ['\\', '\\']
  else if c = '\n' then ['\\', 'n']
  else if c = '\r' then ['\\', 'r']
  else if c = '\t' then ['\\', 't']
  else if c = Char.ofNat 8 then ['\\', 'b']
  else if c = Char.ofNat 12 then ['\\', 'f']
  else
    let n := c.toNat
    if 32 ≤ n && n < 127 then [c]
    else if n < 0x10000 then unitEscape n
    else
      unitEscape (0xD800 + (n - 0x10000) / 0x400) ++ unitEscape (0xDC00 + (n - 0x10000) % 0x400)

/-- A text between quotes. -/
def printText (s : String) : List Char :=
  '"' :: (s.toList.flatMap escapeChar ++ ['"'])

/-- One code point between quotes; a half of a character has an escape of its own. -/
def escapePoint (n : Nat) : List Char :=
  if Text.Surrogate.isHalf n then unitEscape n else escapeChar (Char.ofNat n)

/-- Some code points between quotes. -/
def printPoints (points : List Nat) : List Char :=
  '"' :: (points.flatMap escapePoint ++ ['"'])

/-- An integer in decimal. -/
def printInt (i : Int) : List Char :=
  (if i < 0 then ['-'] else []) ++ Nat.toDigits 10 i.natAbs

/-- A number that is not an integer. -/
def printReal : Binary64 → List Char
  | .notANumber => "NaN".toList
  | .infinite s => if s then "-Infinity".toList else "Infinity".toList
  | x => x.toText.toList

mutual

/-- A value at some depth. -/
def print (layout : Layout) (depth : Nat) : Json → List Char
  | .null => "null".toList
  | .bool b => if b then "true".toList else "false".toList
  | .int i => printInt i
  | .real x => printReal x
  | .text s => printText s
  | .unpaired points => printPoints points
  | .unkeyed key _ =>
    '\x7b' :: (layout.gap (depth + 1) ++ printPoints key ++ ':' :: layout.afterColon
      ++ "null".toList ++ layout.gap depth ++ ['\x7d'])
  | .list [] => ['[', ']']
  | .list (x :: xs) =>
    '[' :: (layout.gap (depth + 1) ++ print layout (depth + 1) x ++ printItems layout depth xs)
  | .object [] => ['\x7b', '\x7d']
  | .object ((k, v) :: es) =>
    '\x7b' :: (layout.gap (depth + 1) ++ printText k ++ ':' :: layout.afterColon
      ++ print layout (depth + 1) v ++ printEntries layout depth es)

/-- The items after the first, and the closing bracket. -/
def printItems (layout : Layout) (depth : Nat) : List Json → List Char
  | [] => layout.gap depth ++ [']']
  | x :: xs =>
    ',' :: (layout.gap (depth + 1) ++ print layout (depth + 1) x ++ printItems layout depth xs)

/-- The entries after the first, and the closing brace. -/
def printEntries (layout : Layout) (depth : Nat) : Entries → List Char
  | [] => layout.gap depth ++ ['\x7d']
  | (k, v) :: es =>
    ',' :: (layout.gap (depth + 1) ++ printText k ++ ':' :: layout.afterColon
      ++ print layout (depth + 1) v ++ printEntries layout depth es)

end

section Parts

variable (layout : Layout) (depth : Nat)

theorem print_int (i : Int) : print layout depth (.int i) = printInt i := rfl

theorem print_text (s : String) : print layout depth (.text s) = printText s := rfl

theorem print_list (x : Json) (xs : List Json) :
    print layout depth (.list (x :: xs)) =
      '[' :: (layout.gap (depth + 1) ++ print layout (depth + 1) x
        ++ printItems layout depth xs) := rfl

theorem print_object (k : String) (v : Json) (es : Entries) :
    print layout depth (.object ((k, v) :: es)) =
      '\x7b' :: (layout.gap (depth + 1) ++ printText k ++ ':' :: layout.afterColon
        ++ print layout (depth + 1) v ++ printEntries layout depth es) := rfl

theorem printItems_nil : printItems layout depth [] = layout.gap depth ++ [']'] := rfl

theorem printItems_cons (x : Json) (xs : List Json) :
    printItems layout depth (x :: xs) =
      ',' :: (layout.gap (depth + 1) ++ print layout (depth + 1) x
        ++ printItems layout depth xs) := rfl

theorem printEntries_nil : printEntries layout depth [] = layout.gap depth ++ ['\x7d'] := rfl

theorem printEntries_cons (k : String) (v : Json) (es : Entries) :
    printEntries layout depth ((k, v) :: es) =
      ',' :: (layout.gap (depth + 1) ++ printText k ++ ':' :: layout.afterColon
        ++ print layout (depth + 1) v ++ printEntries layout depth es) := rfl

end Parts

/-- A value over several lines. -/
def pretty (j : Json) : String := String.ofList (print .indented 0 j)

/-- A value on one line. -/
def compact (j : Json) : String := String.ofList (print .compact 0 j)

end CodeConventions.Json
