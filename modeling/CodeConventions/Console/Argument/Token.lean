import CodeConventions.Number.Digits
import CodeConventions.Text.Blank
import CodeConventions.Text.Lines
import CodeConventions.Text.Words

/-!
# Tokens of arguments

The arguments of an action are written as numbers, quoted texts, words and marks.  A line ends only
where no parenthesis or brace is open, and nothing but remarks may follow it.  Which number or text
it is does not matter here, only that it is well written.
-/

namespace CodeConventions.Console.Argument

/-- A token. -/
inductive Token where
  /-- A number, or a multiple of the imaginary unit. -/
  | number (imaginary : Bool)
  /-- A quoted text of characters, or of bytes. -/
  | text (bytes : Bool)
  | word (name : String)
  | mark (c : Char)
  /-- Three dots. -/
  | dots
  deriving DecidableEq, Repr

/-! ## Numbers -/

/-- A decimal digit. -/
def isDecimal (c : Char) : Bool := '0' ≤ c && c ≤ '9'

/-- A character of words. -/
def isNameChar (c : Char) : Bool := c.isAlphanum || c == '_'

/-- The digits that follow, with single underscores between them, and the rest. -/
def moreDigits (p : Char → Bool) : List Char → List Char × List Char
  | [] => ([], [])
  | '_' :: c :: rest =>
    if p c then
      let (ds, r) := moreDigits p rest
      (c :: ds, r)
    else ([], '_' :: c :: rest)
  | c :: rest =>
    if p c then
      let (ds, r) := moreDigits p rest
      (c :: ds, r)
    else ([], c :: rest)

/-- The digits that a text begins with, and the rest. -/
def digits (p : Char → Bool) (cs : List Char) : List Char × List Char :=
  match cs with
  | '_' :: _ => ([], cs)
  | _ => moreDigits p cs

/-- The digits of the bases that a letter after a zero announces. -/
def baseDigit? (letter : Char) : Option (Char → Bool) :=
  match letter.toLower with
  | 'x' => some fun c => isDecimal c || ('a' ≤ c.toLower && c.toLower ≤ 'f')
  | 'o' => some fun c => '0' ≤ c && c ≤ '7'
  | 'b' => some fun c => c == '0' || c == '1'
  | _ => none

/-- The text after an exponent, if a text begins with one. -/
def afterExponent? : List Char → Option (List Char)
  | e :: rest =>
    if e.toLower = 'e' then
      let unsigned :=
        match rest with
        | '+' :: r | '-' :: r => r
        | r => r
      match digits isDecimal unsigned with
      | ([], _) => none
      | (_, r) => some r
    else none
  | [] => none

/-- A decimal number and the rest. -/
def decimal? (cs : List Char) : Option (Token × List Char) :=
  let (whole, r) := digits isDecimal cs
  let (dotted, part, r) :=
    match r with
    | '.' :: r => (true, digits isDecimal r)
    | r => (false, [], r)
  let (raised, r) :=
    match afterExponent? r with
    | some r => (true, r)
    | none => (false, r)
  if whole.isEmpty && part.isEmpty then none
  else
    match r with
    | 'j' :: r | 'J' :: r => some (.number true, r)
    | r =>
      -- a whole number has no zeros before other digits, and not too many digits
      let padded := whole.head? == some '0' && whole.any (· != '0')
      let isWhole := !dotted && !raised
      if isWhole && (padded || NumberLimit.digits < whole.length) then none
      else some (.number false, r)

/-- A number and the rest, unless a letter or digit follows. -/
def number? (cs : List Char) : Option (Token × List Char) := do
  let (t, rest) ←
    match cs with
    | '0' :: letter :: r =>
      match baseDigit? letter with
      | some p =>
        match digits p (if r.head? == some '_' then r.drop 1 else r) with
        | ([], _) => none
        | (_, r) => some (.number false, r)
      | none => decimal? cs
    | _ => decimal? cs
  if rest.head?.any isNameChar then none else some (t, rest)

/-! ## Quoted texts -/

/-- The content of a text up to its closing quote, and the rest. -/
def shortText? (quote : Char) : List Char → Option (List Char × List Char)
  | [] => none
  | '\\' :: c :: rest => (shortText? quote rest).map fun (s, r) => ('\\' :: c :: s, r)
  | c :: rest =>
    if c = quote then some ([], rest)
    else if c = '\n' then none
    else (shortText? quote rest).map fun (s, r) => (c :: s, r)

/-- The content of a text up to three closing quotes, and the rest. -/
def longText? (quote : Char) : List Char → Option (List Char × List Char)
  | [] => none
  | '\\' :: c :: rest => (longText? quote rest).map fun (s, r) => ('\\' :: c :: s, r)
  | c :: rest =>
    if c = quote && rest.take 2 == [quote, quote] then some ([], rest.drop 2)
    else (longText? quote rest).map fun (s, r) => (c :: s, r)

/-- The text begins with some hexadecimal digits. -/
def beginsHex (n : Nat) (cs : List Char) : Bool :=
  let ds := cs.take n
  ds.length == n && ds.all fun c => isDecimal c || ('a' ≤ c.toLower && c.toLower ≤ 'f')

/-- Every escape in a text is well written. -/
def escapesHold (bytes : Bool) : List Char → Bool
  | [] => true
  | '\\' :: c :: rest =>
    let holds :=
      if c = 'x' then beginsHex 2 rest
      else if bytes then true
      else if c = 'u' then beginsHex 4 rest
      -- the last character is at 10FFFF
      else if c = 'U' then
        beginsHex 8 rest && (rest.take 3 == ['0', '0', '0'] || rest.take 4 == ['0', '0', '1', '0'])
      else if c = 'N' then
        rest.head? == some '\x7b' && rest.contains '\x7d' && (rest.drop 1).head? != some '\x7d'
      else true
    holds && escapesHold bytes rest
  | _ :: rest => escapesHold bytes rest

/-- The letters that may stand before a quoted text. -/
def literalMarks : List String := ["", "r", "u", "b", "br", "rb"]

/-- A quoted text after its letters, from its first quote on, and the rest. -/
def quoted? (letters : String) (cs : List Char) : Option (Token × List Char) := do
  if !literalMarks.contains letters then none
  else
    let bytes := letters.toList.contains 'b'
    let (content, rest) ←
      match cs with
      | q :: r => if r.take 2 == [q, q] then longText? q (r.drop 2) else shortText? q r
      | [] => none
    if bytes && content.any fun c => 0x80 ≤ c.toNat then none
    else if letters.toList.contains 'r' || escapesHold bytes content then
      some (.text bytes, rest)
    else none

/-! ## All tokens -/

/-- A character that begins or ends a quoted text. -/
def isQuote (c : Char) : Bool := c == '\'' || c == '"'

/-- The token that a text begins with, and the rest. -/
def token? (cs : List Char) : Option (Token × List Char) :=
  match cs with
  | [] => none
  | '.' :: '.' :: '.' :: rest => some (.dots, rest)
  | c :: rest =>
    if ['(', ')', '\x7b', '\x7d', ',', ':', '+', '-'].contains c then some (.mark c, rest)
    else if isDecimal c || c == '.' then number? cs
    else
      let name := cs.takeWhile isNameChar
      let behind := cs.dropWhile isNameChar
      if behind.head?.any isQuote then quoted? (String.ofList (name.map Char.toLower)) behind
      else if name.isEmpty then none
      else some (.word (String.ofList name), behind)

/-- A blank between tokens. -/
def isGap (c : Char) : Bool := c == ' ' || c == '\t' || c == '\x0c'

/-- The line holds nothing but blanks and a remark. -/
def isRemark (line : List Char) : Bool :=
  match line.dropWhile isGap with
  | [] => true
  | c :: _ => c == '#'

/-- Nothing but blanks and remarks is left. -/
def onlyRemarks (cs : List Char) : Bool := (Text.splitAtChar '\n' cs).all isRemark

/-- A text without the lines before its first token, which must not stand further in than they
do. -/
def withoutRemarks? (cs : List Char) : Option (List Char) :=
  let lines := Text.splitAtChar '\n' cs
  let kept := lines.dropWhile isRemark
  let indented := kept.head?.any fun l => l.head?.any fun c => c == ' ' || c == '\t'
  if kept.length < lines.length && indented then none
  else some (List.intercalate ['\n'] kept)

/-- The tokens of a text; `opened` counts the parentheses and braces that are open, and the fuel
exceeds the number of characters. -/
def tokensFrom (opened : Nat) : Nat → List Char → Option (List Token)
  | 0, _ => none
  | _, [] => some []
  | fuel + 1, c :: rest =>
    if isGap c then tokensFrom opened fuel rest
    else if c = '#' then tokensFrom opened fuel (rest.dropWhile (· != '\n'))
    else if c = '\\' then
      if rest.head? == some '\n' then tokensFrom opened fuel (rest.drop 1) else none
    else if c = '\n' then
      if opened = 0 then if onlyRemarks rest then some [] else none
      else tokensFrom opened fuel rest
    else
      match token? (c :: rest) with
      | none => none
      | some (t, r) =>
        let opened :=
          if t = .mark '(' || t = .mark '\x7b' then opened + 1
          else if t = .mark ')' || t = .mark '\x7d' then opened - 1
          else opened
        (tokensFrom opened fuel r).map (t :: ·)

/-- The tokens of a text. -/
def tokens? (cs : List Char) : Option (List Token) := do
  let cs ← withoutRemarks? (Text.normalizeLineEnds cs)
  tokensFrom 0 (cs.length + 1) cs

end CodeConventions.Console.Argument
