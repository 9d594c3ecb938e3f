import CodeConventions.Console.Argument
import CodeConventions.Console.Page
import CodeConventions.Console.Style

/-!
# Text with styles

A text for the console may hold tags: a description of a style in brackets opens the style, and the
description after a slash closes it.  The slash alone closes the style that was opened last.  The
name of a tag ends at an equals sign, behind which it has a parameter.  A tag whose name begins with
an at sign stands for an action.  A backslash before a tag makes it plain text, and two backslashes
are one of them.

Styles leave no trace in what is printed here, but it is an error to close a style that is not open,
to close an action whose parameter gives none, or to open a style with a broken colour.
-/

namespace CodeConventions.Console

/-- A part of a text with tags. -/
inductive Piece where
  | text (cs : List Char)
  | tag (name : List Char) (parameter : Option (List Char))
  deriving DecidableEq, Repr

/-- A character that a tag may begin with. -/
def beginsTag (c : Char) : Bool :=
  ('a' ≤ c && c ≤ 'z') || c == '#' || c == '/' || c == '@'

/-- The content of a tag that begins after an opening bracket. -/
def tagContent? (cs : List Char) : Option (List Char) :=
  let content := cs.takeWhile fun c => c != ']' && c != '['
  match content, cs.dropWhile fun c => c != ']' && c != '[' with
  | c :: _, ']' :: _ => if beginsTag c then some content else none
  | _, _ => none

/-- The backslashes before a tag that a text begins with, and the content of the tag. -/
def tagAt? (cs : List Char) : Option (Nat × List Char) :=
  let slashes := (cs.takeWhile (· == '\\')).length
  match cs.drop slashes with
  | '[' :: rest => (tagContent? rest).map (slashes, ·)
  | _ => none

/-- Plain text, in which a backslash before a bracket does not show. -/
def unescaped : List Char → List Char
  | '\\' :: '[' :: rest => '[' :: unescaped rest
  | c :: rest => c :: unescaped rest
  | [] => []

/-- The pieces of a tag with some backslashes before it. -/
def tagPieces (slashes : Nat) (content : List Char) : List Piece :=
  let kept := List.replicate (slashes / 2) '\\'
  -- the odd backslash belongs to the tag
  if slashes % 2 = 1 then [.text kept, .text (unescaped ('[' :: (content ++ [']'])))]
  else
    match content.dropWhile (· != '=') with
    | [] => [.text kept, .tag content none]
    | _ :: parameter => [.text kept, .tag (content.takeWhile (· != '=')) (some parameter)]

/-- The pieces of a text; `plain` holds the plain text read so far, last character first, and the
first `skipped` characters belong to a tag that has been read. -/
def piecesFrom (plain : List Char) : Nat → List Char → List Piece
  | _, [] => [.text (unescaped plain.reverse)]
  | k + 1, _ :: rest => piecesFrom plain k rest
  | 0, c :: rest =>
    match tagAt? (c :: rest) with
    | some (slashes, content) =>
      .text (unescaped plain.reverse) :: tagPieces slashes content
        ++ piecesFrom [] (slashes + content.length + 1) rest
    | none => piecesFrom (c :: plain) 0 rest

/-! ## Styles and actions -/

/-- A tag that is open. -/
structure OpenTag where
  name : String
  parameter : Option (List Char)
  deriving DecidableEq, Repr

namespace OpenTag

/-- The name of a tag in the form in which names are compared: the name of the style, or the text
itself in small letters where it describes no style. -/
def nameOf? (cs : List Char) : Option String :=
  match Style.ofText cs with
  | .ok s => some s.name
  | .error .unknown => some (Text.lower (String.ofList (Text.trim cs)))
  | .error .broken => none

/-- The tag stands for an action. -/
def isAction (t : OpenTag) : Bool := t.name.toList.head? == some '@'

/-- The text that the tag gives for a style. -/
def description (t : OpenTag) : List Char :=
  t.name.toList ++
    match t.parameter with
    | some p => ' ' :: p
    | none => []

/-- The tag has an effect that can be shown: its colours are not broken. -/
def canShow (t : OpenTag) : Bool :=
  match Style.ofText t.description with
  | .error .broken => false
  | _ => true

/-- The tag can be closed: an action needs a parameter that gives it, or none. -/
def canClose (t : OpenTag) : Bool :=
  if t.isAction then t.parameter.all fun p => p.isEmpty || Argument.isAction p else t.canShow

end OpenTag

/-- The tag that a closing tag closes and the others, the last one first. -/
def closed? (name : List Char) (opened : List OpenTag) : Option (OpenTag × List OpenTag) :=
  if Text.allBlank name then
    match opened with
    | [] => none
    | t :: others => some (t, others)
  else do
    let wanted ← OpenTag.nameOf? (Text.trim name)
    let t ← opened.find? (·.name == wanted)
    return (t, opened.eraseP (·.name == wanted))

/-- The printed text of some pieces, given the tags that are open, the last one first. -/
def withoutTags (opened : List OpenTag) : List Piece → Option (List Char)
  | [] => if opened.all OpenTag.canShow then some [] else none
  | .text cs :: rest => (withoutTags opened rest).map (Pictograph.expand cs ++ ·)
  | .tag ('/' :: name) _ :: rest => do
    let (t, others) ← closed? name opened
    if t.canClose then withoutTags others rest else none
  | .tag name parameter :: rest => do
    let name ← OpenTag.nameOf? name
    withoutTags (⟨name, parameter⟩ :: opened) rest

/-- What is printed for a text with tags, unless its tags are faulty. -/
def styledLine? (s : String) : Option String :=
  (withoutTags [] (piecesFrom [] 0 s.toList)).map fun cs =>
    String.ofList (expandTabs (cs.filter fun c => !isDropped c) ++ ['\n'])

end CodeConventions.Console
