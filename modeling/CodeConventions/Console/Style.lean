import CodeConventions.Console.Color
import CodeConventions.Text.Blank
import CodeConventions.Text.Case
import CodeConventions.Text.Lines
import CodeConventions.Text.Words

/-!
# Styles of text

A style is described by words: its attributes, each of which can also be denied, the colour of the
text, the colour behind it, and the address that it links to.  The name of a style puts these into a
fixed order, so two descriptions of one style have one name.
-/

namespace CodeConventions.Console

/-- A style. -/
structure Style where
  /-- The attributes that are given or denied. -/
  attributes : List (String × Bool)
  color : Option String
  background : Option String
  link : Option String
  deriving DecidableEq, Repr

namespace Style

/-- The attributes of styles in the order of names, each with the words for it. -/
def attributeWords : List (String × List String) :=
  [("bold", ["bold", "b"]), ("dim", ["dim", "d"]), ("italic", ["italic", "i"]),
    ("underline", ["underline", "u"]), ("blink", ["blink"]), ("blink2", ["blink2"]),
    ("reverse", ["reverse", "r"]), ("conceal", ["conceal", "c"]), ("strike", ["strike", "s"]),
    ("underline2", ["underline2", "uu"]), ("frame", ["frame"]), ("encircle", ["encircle"]),
    ("overline", ["overline", "o"])]

/-- The attribute that a word stands for. -/
def attribute? (word : String) : Option String :=
  (attributeWords.find? fun (_, words) => words.contains word).map (·.1)

/-- The style without any property. -/
def plain : Style := ⟨[], none, none, none⟩

/-- A style with an attribute given or denied; what was said of it before does not count. -/
def withAttribute (s : Style) (a : String) (given : Bool) : Style :=
  { s with attributes := (a, given) :: s.attributes.filter (·.1 != a) }

/-- Why a text describes no style. -/
inductive Fault where
  /-- A word is out of place. -/
  | unknown
  /-- A colour has a component that is no number. -/
  | broken
  deriving DecidableEq, Repr

/-- The name of a colour in small letters. -/
def colorName (word : String) : Except Fault String :=
  let name := Text.lower word
  match ColorWord.ofWord name with
  | .color => .ok name
  | .other => .error .unknown
  | .broken => .error .broken

/-- What the next word of a description has to be. -/
inductive Awaited where
  /-- A colour behind the text, after the word for it. -/
  | background
  /-- An attribute that is denied. -/
  | denied
  /-- The address of a link. -/
  | link
  deriving DecidableEq, Repr

/-- The property that a word announces. -/
def awaited? (word : String) : Option Awaited :=
  [("on", Awaited.background), ("not", .denied), ("link", .link)].lookup word

/-- A style with the property that one more word describes, and what the next word has to be. -/
def addWord (s : Style) (awaited : Option Awaited) (word : String) :
    Except Fault (Style × Option Awaited) :=
  match awaited with
  | some .background => do return ({ s with background := some (← colorName word) }, none)
  | some .denied =>
    match attribute? word with
    | some a => .ok (s.withAttribute a false, none)
    | none => .error .unknown
  | some .link => .ok ({ s with link := some word }, none)
  | none =>
    match awaited? (Text.lower word), attribute? (Text.lower word) with
    | some next, _ => .ok (s, some next)
    | none, some a => .ok (s.withAttribute a true, none)
    | none, none => do return ({ s with color := some (← colorName word) }, none)

/-- The style that some words describe. -/
def ofWords (words : List String) : Except Fault Style := do
  let (s, awaited) ← words.foldlM (fun (s, awaited) word => addWord s awaited word) (plain, none)
  if awaited.isSome then .error .unknown else return s

/-- The words of a text. -/
def wordsOf (cs : List Char) : List String :=
  let parts := Text.splitAtChar ' ' (cs.map fun c => if Text.isBlank c then ' ' else c)
  (parts.filter (· != [])).map String.ofList

/-- The style that a text describes. -/
def ofText (cs : List Char) : Except Fault Style :=
  match wordsOf cs with
  | ["none"] => .ok plain
  | words => ofWords words

/-- The parts of the name of a style. -/
def nameParts (s : Style) : List String :=
  (attributeWords.filterMap fun (a, _) =>
    (s.attributes.lookup a).map fun given => if given then a else "not " ++ a)
    ++ s.color.toList
    ++ (s.background.map ("on " ++ ·)).toList
    ++ (s.link.map ("link " ++ ·)).toList

/-- The name of a style. -/
def name (s : Style) : String :=
  match s.nameParts with
  | [] => "none"
  | parts => Text.joined " " parts

end Style

end CodeConventions.Console
