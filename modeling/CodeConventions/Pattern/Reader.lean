import CodeConventions.Number.Digits
import CodeConventions.Pattern.Basic

/-!
# Reading patterns

The written form of a pattern.  A sequence is read item by item; a quantifier applies to the item
before it, which must not be an anchor or already be repeated.  A brace that opens no quantifier
stands for itself.  Every error carries the position of the character at fault.

The reader goes from left to right and reports the first fault it meets.  A backslash at the very
end of a pattern is met one character early, as the reader looks one character ahead.
-/

namespace CodeConventions

/-- Why a text is not a pattern. -/
inductive PatternFault where
  | unclosedGroup
  | unclosedSet
  | unclosedComment
  | nothingToRepeat
  | multipleRepeat
  | unbalanced
  | loneBackslash
  | badEscape (written : String)
  | incompleteEscape (written : String)
  | octalTooLarge (written : String)
  | badRange (low high : String)
  | reversedBounds
  /-- A bound of a quantifier is beyond what can be counted. -/
  | hugeBound
  /-- A bound of a quantifier has too many digits to be read. -/
  | longBound (digits : Nat)
  | unexpectedEnd
  | unknownExtension (written : String)
  | unknownGroup (number : Nat)
  deriving Repr, DecidableEq

/-- A fault of a pattern and the position of the character at fault, with the pattern itself. -/
structure PatternError where
  fault : PatternFault
  position : Nat
  pattern : String
  deriving Repr, DecidableEq

/-- The wording of a fault. -/
def PatternFault.message : PatternFault → String
  | .unclosedGroup => "missing ), unterminated subpattern"
  | .unclosedSet => "unterminated character set"
  | .unclosedComment => "missing ), unterminated comment"
  | .nothingToRepeat => "nothing to repeat"
  | .multipleRepeat => "multiple repeat"
  | .unbalanced => "unbalanced parenthesis"
  | .loneBackslash => "bad escape (end of pattern)"
  | .badEscape written => s!"bad escape {written}"
  | .incompleteEscape written => s!"incomplete escape {written}"
  | .octalTooLarge written => s!"octal escape value {written} outside of range 0-0o377"
  | .badRange low high => s!"bad character range {low}-{high}"
  | .reversedBounds => "min repeat greater than max repeat"
  | .hugeBound => "the repetition number is too large"
  | .longBound digits => NumberLimit.readingFault digits
  | .unexpectedEnd => "unexpected end of pattern"
  | .unknownExtension written => s!"unknown extension {written}"
  | .unknownGroup number => s!"invalid group reference {number}"

/-- The wording of an error with its place: the position counts characters, and a pattern of several
lines also gets its line and column. -/
def PatternError.located (e : PatternError) : String :=
  let text := s!"{e.fault.message} at position {e.position}"
  let cs := e.pattern.toList
  if cs.contains '\n' then
    let before := cs.take e.position
    let line := before.count '\n' + 1
    let column := (before.reverse.takeWhile (· != '\n')).length + 1
    s!"{text} (line {line}, column {column})"
  else text

/-- The wording of an error with its kind: numbers that are out of bounds have kinds of their own
and no place. -/
def PatternError.message (e : PatternError) : String :=
  match e.fault with
  | .hugeBound => s!"OverflowError: {e.fault.message}"
  | .longBound _ => s!"ValueError: {e.fault.message}"
  | _ => s!"error: {e.located}"

namespace Pattern.Reader

/-- A result, or a fault with the number of characters from the one at fault to the end. -/
abbrev Faulty := Except (PatternFault × Nat)

/-- A fault at the character before `rest`, `width` characters earlier; a backslash that ends the
pattern takes precedence when it comes next. -/
def fail {α : Type} (fault : PatternFault) (width : Nat) (rest : List Char) :
    Faulty (α × List Char) :=
  if rest = ['\\'] then .error (.loneBackslash, 1) else .error (fault, rest.length + width)

/-- The first digits of a text, at most `n` of them. -/
def leading (n : Nat) (digit : Char → Bool) (cs : List Char) : List Char :=
  (cs.take n).takeWhile digit

/-- A character given by exactly `n` hexadecimal digits. -/
def hexEscape (letter : Char) (n : Nat) (rest : List Char) : Faulty (CharSet × List Char) :=
  let ds := leading n (Digits.isDigitOf 16) rest
  let rest := rest.drop ds.length
  if ds.length = n then .ok (.only (Char.ofNat (Digits.number 16 ds)), rest)
  else fail (.incompleteEscape (String.ofList ('\\' :: letter :: ds))) (2 + ds.length) rest

/-- A character given by up to three octal digits, of which `c` is the first. -/
def octalEscape (c : Char) (rest : List Char) : Faulty (CharSet × List Char) :=
  let ds := c :: leading 2 (Digits.isDigitOf 8) rest
  let rest := rest.drop (ds.length - 1)
  if Digits.number 8 ds ≤ 255 then .ok (.only (Char.ofNat (Digits.number 8 ds)), rest)
  else fail (.octalTooLarge (String.ofList ('\\' :: ds))) (1 + ds.length) rest

/-- The class of characters that a letter after a backslash stands for. -/
def category? (c : Char) : Option CharSet :=
  match c with
  | 'd' => some .digit
  | 'D' => some (.complement .digit)
  | 'w' => some .word
  | 'W' => some (.complement .word)
  | 's' => some .blank
  | 'S' => some (.complement .blank)
  | _ => none

/-- The control character that a letter after a backslash stands for. -/
def control? (c : Char) : Option Char :=
  match c with
  | 'a' => some (Char.ofNat 7)
  | 'f' => some (Char.ofNat 12)
  | 'n' => some '\n'
  | 'r' => some '\r'
  | 't' => some '\t'
  | 'v' => some (Char.ofNat 11)
  | _ => none

/-- A character written as `\` and a character without a meaning of its own. -/
def plainEscape (c : Char) (rest : List Char) : Faulty (CharSet × List Char) :=
  if Text.isLatinLetter c then fail (.badEscape (String.ofList ['\\', c])) 2 rest
  else .ok (.only c, rest)

/-- An escape inside a set of characters: `c` follows the backslash. -/
def setEscape (c : Char) (rest : List Char) : Faulty (CharSet × List Char) :=
  if let some set := category? c then .ok (set, rest)
  else if let some d := control? c then .ok (.only d, rest)
  else if c = 'b' then .ok (.only (Char.ofNat 8), rest)
  else if c = 'x' then hexEscape 'x' 2 rest
  else if c = 'u' then hexEscape 'u' 4 rest
  else if c = 'U' then hexEscape 'U' 8 rest
  else if Digits.isDigitOf 8 c then
    octalEscape c rest
  else if Digits.isDecimal c then fail (.badEscape (String.ofList ['\\', c])) 2 rest
  else plainEscape c rest

/-- One member of a set of characters, with its written form. -/
def setMember (c : Char) (rest : List Char) : Faulty ((CharSet × List Char) × List Char) :=
  if c = '\\' then
    match rest with
    | [] => .error (.loneBackslash, 1)
    | d :: rest => (setEscape d rest).map fun (s, rest) => ((s, ['\\', d]), rest)
  else .ok ((.only c, [c]), rest)

/-- The members of a set up to the closing bracket.  `opened` is the number of characters from the
opening bracket to the end of the pattern. -/
def setMembers (opened : Nat) : Nat → Option CharSet → List Char → Faulty (CharSet × List Char)
  | 0, _, _ => .error (.unclosedSet, opened)
  | _ + 1, _, [] => .error (.unclosedSet, opened)
  | fuel + 1, seen, c :: rest =>
    -- a bracket that comes first in a set is a member of it
    if c = ']' && seen.isSome then .ok (seen.getD .none, rest)
    else do
      let add (s : CharSet) : Option CharSet :=
        match seen with
        | some t => some (.union t s)
        | none => some s
      let ((low, lowText), rest) ← setMember c rest
      match rest with
      -- a hyphen makes a range, unless the set ends right after it
      | '-' :: [] => .error (.unclosedSet, opened)
      | '-' :: ']' :: rest => .ok (((add low).getD low).union (.only '-'), rest)
      | '-' :: d :: rest =>
        let ((high, highText), rest) ← setMember d rest
        let bad : Faulty (CharSet × List Char) :=
          fail (.badRange (String.ofList lowText) (String.ofList highText))
            (lowText.length + 1 + highText.length) rest
        match low, high with
        | .only a, .only b =>
          if b < a then bad else setMembers opened fuel (add (.between a b)) rest
        | _, _ => bad
      | rest => setMembers opened fuel (add low) rest

/-- A set of characters after its opening bracket. -/
def readSet (rest : List Char) : Faulty (Pattern × List Char) :=
  let opened := rest.length + 1
  match rest with
  | '^' :: rest =>
    (setMembers opened (rest.length + 1) none rest).map fun (s, rest) =>
      (.oneOf (.complement s), rest)
  | rest => (setMembers opened (rest.length + 1) none rest).map fun (s, rest) => (.oneOf s, rest)

/-- An item of a sequence: whether a quantifier may follow it. -/
inductive ItemKind where
  | plain
  | anchor
  | repeated
  deriving DecidableEq

/-- The item that a quantifier would apply to. -/
structure Item where
  pattern : Pattern
  kind : ItemKind

/-- An escape outside sets: `c` follows the backslash. -/
def readEscape (c : Char) (rest : List Char) : Faulty (Item × List Char) :=
  let item (set : CharSet) : Item := ⟨.oneOf set, .plain⟩
  let wrap (r : Faulty (CharSet × List Char)) : Faulty (Item × List Char) :=
    r.map fun (s, rest) => (item s, rest)
  let anchor (a : Anchor) : Faulty (Item × List Char) := .ok (⟨.anchor a, .anchor⟩, rest)
  if let some set := category? c then .ok (item set, rest)
  else if let some d := control? c then .ok (item (.only d), rest)
  else if c = 'b' then anchor (.boundary false)
  else if c = 'B' then anchor (.boundary true)
  else if c = 'A' then anchor .start
  else if c = 'Z' then anchor .absoluteFinish
  else if c = 'x' then wrap (hexEscape 'x' 2 rest)
  else if c = 'u' then wrap (hexEscape 'u' 4 rest)
  else if c = 'U' then wrap (hexEscape 'U' 8 rest)
  -- a zero or three octal digits make a number; any other digits refer back to a group
  else if c = '0' then
    let ds := leading 2 (Digits.isDigitOf 8) rest
    .ok (item (.only (Char.ofNat (Digits.number 8 ds))), rest.drop ds.length)
  else if (leading 3 (Digits.isDigitOf 8) (c :: rest)).length = 3 then wrap (octalEscape c rest)
  else if Digits.isDecimal c then
    let ds := c :: leading 1 Digits.isDecimal rest
    let rest := rest.drop (ds.length - 1)
    fail (.unknownGroup (Digits.number 10 ds)) ds.length rest
  else wrap (plainEscape c rest)

/-- The bounds of a quantifier. -/
structure Bounds where
  least : Nat
  most : Option Nat

/-- The least number that is no bound any more. -/
def boundLimit : Nat := 4294967295

/-- The bound written as some digits, if there are any. -/
def bound (ds : List Char) : Except PatternFault (Option Nat) :=
  if ds.isEmpty then .ok none
  else if NumberLimit.digits < ds.length then .error (.longBound ds.length)
  else if boundLimit ≤ Digits.number 10 ds then .error .hugeBound
  else .ok (some (Digits.number 10 ds))

/-- The bounds written as digits; the lower one is read first. -/
def bounds (low high : List Char) : Except PatternFault Bounds := do
  let least ← bound low
  return ⟨least.getD 0, ← bound high⟩

/-- The bounds written in braces, after the opening brace; nothing if it opens no quantifier. -/
def readBounds (rest : List Char) : Option (Except PatternFault Bounds × List Char) :=
  match rest with
  -- braces with nothing between them stand for themselves
  | '\x7d' :: _ => none
  | _ =>
    let low := rest.takeWhile Digits.isDecimal
    let rest := rest.dropWhile Digits.isDecimal
    match rest with
    | ',' :: rest =>
      let high := rest.takeWhile Digits.isDecimal
      match rest.dropWhile Digits.isDecimal with
      | '\x7d' :: rest => some (bounds low high, rest)
      | _ => none
    | '\x7d' :: rest => some (bounds low low, rest)
    | _ => none

/-- The text begins with a quantifier: its bounds, and the text after it. -/
def quantifier? (cs : List Char) : Option (Except PatternFault Bounds × List Char) :=
  match cs with
  | '*' :: rest => some (.ok ⟨0, none⟩, rest)
  | '+' :: rest => some (.ok ⟨1, none⟩, rest)
  | '?' :: rest => some (.ok ⟨0, some 1⟩, rest)
  | '\x7b' :: rest => readBounds rest
  | _ => none

/-- The item under a quantifier; `written` is the text from the quantifier on. -/
def quantify (item : Option Item) (bounds : Bounds) (written rest : List Char) :
    Faulty (Item × List Char) :=
  let here := written.length - rest.length
  if bounds.most.any (· < bounds.least) then fail .reversedBounds (here - 1) rest
  else
    match item with
    | none => fail .nothingToRepeat here rest
    | some ⟨_, .anchor⟩ => fail .nothingToRepeat here rest
    | some ⟨_, .repeated⟩ => fail .multipleRepeat here rest
    | some ⟨body, .plain⟩ =>
      let (manner, rest) : Repetition × List Char :=
        match rest with
        | '?' :: rest => (.lazy, rest)
        | '+' :: rest => (.final, rest)
        | rest => (.greedy, rest)
      .ok (⟨.repeated body bounds.least bounds.most manner, .repeated⟩, rest)

/-- What stands between an opening parenthesis and the pattern inside it. -/
inductive GroupHead where
  | plain
  /-- Its first match is the only one. -/
  | final
  | ahead (negated : Bool)
  | comment

/-- The fault of a group whose head goes on with `rest` after some characters that promise something
else.  A backslash and the character after it are at fault together. -/
def unknownHead (seen rest : List Char) : Faulty (GroupHead × List Char) :=
  match rest with
  | [] => .error (.unexpectedEnd, 0)
  | ['\\'] => .error (.loneBackslash, 1)
  | '\\' :: c :: rest =>
    fail (.unknownExtension (String.ofList (seen ++ ['\\', c]))) (seen.length + 2) rest
  | c :: rest => fail (.unknownExtension (String.ofList (seen ++ [c]))) (seen.length + 1) rest

/-- The head of a group, after its opening parenthesis. -/
def groupHead (rest : List Char) : Faulty (GroupHead × List Char) :=
  match rest with
  | '?' :: ':' :: rest => .ok (.plain, rest)
  | '?' :: '>' :: rest => .ok (.final, rest)
  | '?' :: '=' :: rest => .ok (.ahead false, rest)
  | '?' :: '!' :: rest => .ok (.ahead true, rest)
  | '?' :: '#' :: rest => .ok (.comment, rest)
  | '?' :: 'P' :: '<' :: rest => .ok (.plain, (rest.dropWhile (· != '>')).drop 1)
  | '?' :: 'P' :: rest => unknownHead ['?', 'P'] rest
  | '?' :: rest => unknownHead ['?'] rest
  | rest => .ok (.plain, rest)

mutual

/-- Alternatives up to a closing parenthesis or the end. -/
def alternatives : Nat → List Char → Faulty (Pattern × List Char)
  | 0, cs => .ok (.empty, cs)
  | fuel + 1, cs => do
    let (first, rest) ← sequence fuel .empty none cs
    match rest with
    | '|' :: rest =>
      let (others, rest) ← alternatives fuel rest
      .ok (.either first others, rest)
    | rest => .ok (first, rest)

/-- A sequence of items, of which `before` and then `last` are already read. -/
def sequence : Nat → Pattern → Option Item → List Char → Faulty (Pattern × List Char)
  | 0, _, _, cs => .ok (.empty, cs)
  | fuel + 1, before, last, cs =>
    let all := match last with
      | some item => Pattern.seq before item.pattern
      | none => before
    match cs with
    | [] => .ok (all, [])
    | c :: rest =>
      if c = '|' || c = ')' then .ok (all, cs)
      else
        match quantifier? cs with
        | some (.error fault, after) => fail fault 0 after
        | some (.ok bounds, after) => do
          let (item, rest) ← quantify last bounds cs after
          sequence fuel before (some item) rest
        | none => do
          let (item, rest) ← readItem fuel c rest
          match item with
          | some item => sequence fuel all (some item) rest
          | none => sequence fuel before last rest

/-- One item that begins with `c`; a comment is none. -/
def readItem : Nat → Char → List Char → Faulty (Option Item × List Char)
  | 0, _, cs => .ok (none, cs)
  | fuel + 1, c, rest =>
    let item (kind : ItemKind) (p : Pattern) (rest : List Char) :
        Faulty (Option Item × List Char) :=
      .ok (some ⟨p, kind⟩, rest)
    match c with
    | '.' => item .plain (.oneOf .exceptLineFeed) rest
    | '^' => item .anchor (.anchor .start) rest
    | '$' => item .anchor (.anchor .finish) rest
    | '[' => (readSet rest).map fun (p, rest) => (some ⟨p, .plain⟩, rest)
    | '\\' =>
      match rest with
      | [] => .error (.loneBackslash, 1)
      | d :: rest => (readEscape d rest).map fun (i, rest) => (some i, rest)
    | '(' => do
      let opened := rest.length + 1
      let (head, rest) ← groupHead rest
      match head with
      | .comment =>
        match rest.dropWhile (· != ')') with
        | _ :: rest => .ok (none, rest)
        | [] => .error (.unclosedComment, opened)
      | head =>
        let (body, rest) ← alternatives fuel rest
        match rest with
        | ')' :: rest =>
          let p := match head with
            | .ahead negated => Pattern.ahead negated body
            | .final => Pattern.repeated body 1 (some 1) .final
            | _ => body
          item .plain p rest
        | _ => .error (.unclosedGroup, opened)
    | c => item .plain (.oneOf (.only c)) rest

end

end Pattern.Reader

/-- The pattern that a text is the written form of. -/
def Pattern.read (s : String) : Except PatternError Pattern :=
  let cs := s.toList
  let error (fault : PatternFault) (fromEnd : Nat) : PatternError :=
    ⟨fault, cs.length - fromEnd, s⟩
  match Pattern.Reader.alternatives (3 * cs.length + 3) cs with
  | .error (fault, fromEnd) => .error (error fault fromEnd)
  | .ok (p, []) => .ok p
  | .ok (_, rest) => .error (error .unbalanced rest.length)

end CodeConventions
