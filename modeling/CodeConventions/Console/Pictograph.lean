import CodeConventions.Console.Pictograph.Flag
import CodeConventions.Console.Pictograph.Nature
import CodeConventions.Console.Pictograph.Person
import CodeConventions.Console.Pictograph.Symbol
import CodeConventions.Text.Blank
import CodeConventions.Text.Case
import CodeConventions.Text.Words

/-!
# Pictographs by name

In a printed text a name between colons shows as the pictograph of that name.  The case of the name
does not matter.  The name may end in a hyphen and the kind of form that is asked for, as plain text
or as a picture.  What is not the name of a pictograph stays as it is.

Besides the pictographs that are listed there are two families: a person or a part of the body in
one of five skin tones, and the flags of regions.
-/

namespace CodeConventions.Console.Pictograph

/-- The skin tones and the characters that give a person the tone. -/
def skinTones : List (String × Nat) :=
  [("light", 0x1F3FB), ("medium-light", 0x1F3FC), ("medium", 0x1F3FD), ("medium-dark", 0x1F3FE),
    ("dark", 0x1F3FF)]

/-- A person in a skin tone: the tone follows the first character, where it takes the place of the
mark that asks for a picture. -/
def toned (tone : Nat) : List Nat → List Nat
  | [] => []
  | person :: 0xFE0F :: rest => person :: tone :: rest
  | person :: rest => person :: tone :: rest

/-- The flag of the region with a code. -/
def flag (code : String) : List Nat :=
  code.toList.map fun c => 0x1F1E6 + (c.toNat - 'A'.toNat)

/-- The entry of a table under a name. -/
def named? {α : Type} (table : Array (String × α)) (name : String) : Option α :=
  (table.find? fun e => e.1 == name).map (·.2)

/-- The person or part of the body in a skin tone that a name stands for. -/
def person? (name : String) : Option (List Nat) :=
  persons.findSome? fun (person, points) =>
    skinTones.findSome? fun (tone, mark) =>
      if name == person ++ "_" ++ tone ++ "_skin_tone" then some (toned mark points) else none

/-- The flag that a name stands for. -/
def flag? (name : String) : Option (List Nat) :=
  let flagged (table : Array (String × String)) :=
    (table.find? fun e => name == "flag_for_" ++ e.1).map (·.2)
  (named? regions name <|> named? regionsOnly name
    <|> flagged regions <|> flagged flagsOnly).map flag

/-- The code points of the pictograph that a name in small letters stands for. -/
def points? (name : String) : Option (List Nat) :=
  ([symbols, nature, life, tools, faces, vehicles, supplement, persons].findSome? fun table =>
    named? table name) <|> person? name <|> flag? name

/-- A name without the form that is asked for, and the mark of that form. -/
def nameAndForm (s : String) : String × List Nat :=
  let withoutEnd (n : Nat) := String.ofList (s.toList.take (s.length - n))
  if Text.endsWith "-text" s then (withoutEnd 5, [0xFE0E])
  else if Text.endsWith "-emoji" s then (withoutEnd 6, [0xFE0F])
  else (s, [])

/-- What stands for the text between two colons. -/
def shown (cs : List Char) : List Char :=
  let (name, form) := nameAndForm (String.ofList cs)
  match points? (Text.lower name) with
  | some points => (points ++ form).map Char.ofNat
  | none => ':' :: (cs ++ [':'])

/-- The text up to the next colon, if there is no blank before it. -/
def beforeColon? (cs : List Char) : Option (List Char) :=
  match cs.dropWhile fun c => c != ':' && !Text.isBlank c with
  | ':' :: _ => some (cs.takeWhile fun c => c != ':' && !Text.isBlank c)
  | _ => none

/-- A text with pictographs in the place of their names; the first `skipped` characters belong to a
name that has been read. -/
def expandFrom : Nat → List Char → List Char
  | _, [] => []
  | k + 1, _ :: rest => expandFrom k rest
  | 0, c :: rest =>
    if c = ':' then
      match beforeColon? rest with
      -- the colon behind the name belongs to it
      | some name => shown name ++ expandFrom (name.length + 1) rest
      | none => c :: expandFrom 0 rest
    else c :: expandFrom 0 rest

/-- A text with pictographs in the place of their names. -/
def expand (cs : List Char) : List Char := expandFrom 0 cs

end CodeConventions.Console.Pictograph
