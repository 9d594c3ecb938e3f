import CodeConventions.Text.Case
import CodeConventions.Text.Letters

/-!
# Words in a text

Small tests on names and other short texts: how they begin and end, and whether some word stands in
them on its own.
-/

namespace CodeConventions.Text

/-- A text without one line feed at its end. -/
def dropFinalLineFeed (s : String) : String :=
  match s.toList.reverse with
  | '\n' :: rest => String.ofList rest.reverse
  | _ => s

/-- The text begins with a word. -/
def beginsWith (word : String) (s : String) : Bool := word.toList.isPrefixOf s.toList

/-- The text ends with a word. -/
def endsWith (word : String) (s : String) : Bool := word.toList.isSuffixOf s.toList

/-- The rest of a text after a word that it begins with. -/
def after? (word : String) (cs : List Char) : Option (List Char) :=
  if word.toList.isPrefixOf cs then some (cs.drop word.length) else none

/-- The first character after a word that the text begins with satisfies the condition. -/
def continuesWith (word : String) (p : Char → Bool) (s : String) : Bool :=
  ((after? word s.toList).bind List.head?).any p

/-- The text begins with a word, whatever the case of its letters; what follows. -/
def afterFolded? : List Char → List Char → Option (List Char)
  | [], cs => some cs
  | _ :: _, [] => none
  | w :: ws, c :: cs => if foldCase c = w then afterFolded? ws cs else none

/-- The character, if there is one, is a word character. -/
def isWordChar? (c : Option Char) : Bool := c.any isWordChar

/-- One of the words, whatever the case of its letters, begins at a place and ends there as a
word. -/
def wordHere (words : List String) (before : Option Char) (cs : List Char) : Bool :=
  (isWordChar? before != isWordChar? cs.head?) &&
    words.any fun w =>
      match afterFolded? w.toList cs with
      | some rest => isWordChar? w.toList.getLast? != isWordChar? rest.head?
      | none => false

/-- One of the words stands in the text, from a place on. -/
def hasWordFrom (words : List String) (before : Option Char) : List Char → Bool
  | [] => false
  | c :: cs => wordHere words before (c :: cs) || hasWordFrom words (some c) cs

/-- One of the words stands in the text on its own, whatever the case of its letters. -/
def hasWord (words : List String) (s : String) : Bool := hasWordFrom words none s.toList

/-- The texts with a separator between them. -/
def joined (sep : String) (parts : List String) : String := sep.intercalate parts

end CodeConventions.Text
