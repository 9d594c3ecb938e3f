import CodeConventions.Console.Argument.Token

/-!
# Arguments of actions

A tag can name an action.  The action is given by its name with arguments in parentheses after it,
by the name alone, or by the arguments alone.  Arguments are literals: numbers, which can have a
sign or an imaginary part, quoted texts, the truth values, nothing at all, and tuples, sets and
dictionaries of literals.  What is a member of a set or a key of a dictionary must not hold a set or
a dictionary itself.
-/

namespace CodeConventions.Console.Argument

/-- What is written, as far as the rules of combining ask. -/
inductive Kind where
  /-- A number without a sign. -/
  | real
  /-- A multiple of the imaginary unit without a sign. -/
  | imaginary
  /-- A real number with a sign. -/
  | signed
  /-- Any other literal that can be a key. -/
  | fixed
  /-- A literal that holds a set or a dictionary. -/
  | changing
  /-- The word that makes an empty set, which is no literal by itself. -/
  | maker
  deriving DecidableEq, Repr

namespace Kind

/-- It is a literal. -/
def isLiteral (k : Kind) : Bool := k != .maker

/-- It is a literal that can be a key. -/
def isKey (k : Kind) : Bool := k != .maker && k != .changing

/-- A tuple of some elements. -/
def tuple? (ks : List Kind) : Option Kind :=
  if ks.all isKey then some .fixed else if ks.all isLiteral then some .changing else none

/-- A number with a sign before it. -/
def withSign? : Kind → Option Kind
  | .real => some .signed
  | .imaginary => some .fixed
  | _ => none

/-- A sum or difference. -/
def sum? : Kind → Kind → Option Kind
  | .real, .imaginary | .signed, .imaginary => some .fixed
  | _, _ => none

end Kind

/-- A plus or minus. -/
def isSign (t : Token) : Bool := t == .mark '+' || t == .mark '-'

/-- A quoted text. -/
def isText : Token → Bool
  | .text _ => true
  | _ => false

/-- An empty set where the word that makes one is followed by a pair of parentheses. -/
def made (k : Kind) (ts : List Token) : Kind × List Token :=
  match k, ts with
  | .maker, .mark '(' :: .mark ')' :: rest => (.changing, rest)
  | _, _ => (k, ts)

mutual

/-- A literal without sign or sum, and the tokens after it. -/
def atom? : Nat → List Token → Option (Kind × List Token)
  | fuel + 1, .mark '(' :: rest => do
    let (ks, listed, after) ← elements? fuel ')' rest
    match ks, listed with
    | [k], false => some (made k after)
    | _, _ => return (← Kind.tuple? ks, after)
  | fuel + 1, .mark '\x7b' :: rest =>
    (members? fuel none rest).map fun after => (.changing, after)
  | _ + 1, .text bytes :: rest =>
    if (rest.takeWhile isText).all (· == .text bytes) then some (.fixed, rest.dropWhile isText)
    else none
  | _ + 1, .word name :: rest =>
    if name = "set" then some (made .maker rest)
    else if ["True", "False", "None"].contains name then some (.fixed, rest)
    else none
  | _ + 1, .number imaginary :: rest => some (if imaginary then .imaginary else .real, rest)
  | _ + 1, .dots :: rest => some (.fixed, rest)
  | _, _ => none

/-- A literal and the tokens after it. -/
def element? : Nat → List Token → Option (Kind × List Token)
  | 0, _ => none
  | fuel + 1, ts => do
    let (k, rest) ←
      match ts with
      | t :: after =>
        if isSign t then (atom? fuel after).bind fun (k, r) => (k.withSign?).map (·, r)
        else atom? fuel ts
      | [] => none
    match rest with
    | t :: after =>
      if isSign t then
        let (other, r) ← atom? fuel after
        return (← Kind.sum? k other, r)
      else return (k, rest)
    | [] => return (k, rest)

/-- Literals with commas between them up to a closing mark, whether there was a comma, and the
tokens after the mark. -/
def elements? : Nat → Char → List Token → Option (List Kind × Bool × List Token)
  | 0, _, _ => none
  | fuel + 1, closing, ts =>
    if ts.head? == some (.mark closing) then some ([], false, ts.drop 1)
    else do
      let (k, rest) ← element? fuel ts
      if rest.head? == some (.mark ',') then
        let (ks, _, after) ← elements? fuel closing (rest.drop 1)
        return (k :: ks, true, after)
      else if rest.head? == some (.mark closing) then return ([k], false, rest.drop 1)
      else none

/-- The tokens after the members of a set, or the entries of a dictionary, and the closing brace;
`keyed` tells which of them it is, once that is known. -/
def members? : Nat → Option Bool → List Token → Option (List Token)
  | 0, _, _ => none
  | fuel + 1, keyed, ts =>
    if ts.head? == some (.mark '\x7d') then some (ts.drop 1)
    else do
      let (key, rest) ← element? fuel ts
      let withValue := rest.head? == some (.mark ':')
      if !key.isKey || keyed.any (· != withValue) then none
      else
        let rest ←
          if withValue then
            (element? fuel (rest.drop 1)).bind fun (v, r) => if v.isLiteral then some r else none
          else some rest
        if rest.head? == some (.mark ',') then members? fuel (some withValue) (rest.drop 1)
        else if rest.head? == some (.mark '\x7d') then some (rest.drop 1)
        else none

end

/-- The text is a literal, or several with commas between them. -/
def isLiteral (cs : List Char) : Bool :=
  match tokens? cs with
  | none => false
  | some ts =>
    -- the end closes the list
    match elements? (4 * (ts.length + 2)) ')' (ts ++ [.mark ')']) with
    | some (ks, _, []) => !ks.isEmpty && ks.all Kind.isLiteral
    | _ => false

/-- The text is in parentheses, on one line. -/
def isCall (cs : List Char) : Bool :=
  cs.head? == some '(' && 1 < cs.length && cs.getLast? == some ')' && !cs.contains '\n'

/-- The text gives an action. -/
def isAction (cs : List Char) : Bool :=
  let action := Text.trim cs
  match action.dropWhile fun c => Text.isWordChar c || c == '.' with
  | [] => true
  | rest => if isCall rest then isLiteral rest else isLiteral action

end CodeConventions.Console.Argument
