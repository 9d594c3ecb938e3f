import CodeConventions.Text.Blank
import CodeConventions.Text.Letters

/-!
# Text patterns

Patterns over characters: sets of characters, sequences, alternatives, repetitions and conditions
on the place between two characters.  A pattern relates a place in a text to the places where a
match that begins there may end; `ends` lists them.  A pattern is *found* in a text when a match
begins at some place of it.

The places after a repetition are found round by round.  A place is known by the length of the
text after it, so a round keeps each place once and the work stays polynomial.

A repetition can also be *final*: whatever its rounds have taken they do not give back.  Then it
matters which match comes first, and `first?` finds that one, by trying one way after the other.
-/

namespace CodeConventions

/-- A set of characters. -/
inductive CharSet where
  | only (c : Char)
  | between (low high : Char)
  | digit
  | word
  | blank
  | exceptLineFeed
  | none
  | union (s t : CharSet)
  | complement (s : CharSet)
  deriving Repr, DecidableEq

/-- The character belongs to the set. -/
def CharSet.holds (c : Char) : CharSet → Bool
  | .only d => c == d
  | .between low high => low ≤ c && c ≤ high
  | .digit => Text.isDigit c
  | .word => Text.isWordChar c
  | .blank => Text.isBlank c
  | .exceptLineFeed => c != '\n'
  | .none => false
  | .union s t => s.holds c || t.holds c
  | .complement s => !s.holds c

/-- A condition on a place in a text. -/
inductive Anchor where
  /-- Nothing comes before. -/
  | start
  /-- Nothing comes after, or only a line feed that ends the text. -/
  | finish
  /-- Nothing comes after. -/
  | absoluteFinish
  /-- A word begins or ends here, or, with `negated`, none does. -/
  | boundary (negated : Bool)
  deriving Repr, DecidableEq

/-- How a repetition chooses the number of its rounds. -/
inductive Repetition where
  /-- More rounds are tried first. -/
  | greedy
  /-- Fewer rounds are tried first. -/
  | lazy
  /-- There are as many rounds as can be, each in the way that is tried first. -/
  | final
  deriving Repr, DecidableEq

/-- A pattern. -/
inductive Pattern where
  | empty
  | oneOf (set : CharSet)
  | anchor (condition : Anchor)
  | seq (first second : Pattern)
  /-- The left pattern is tried first. -/
  | either (left right : Pattern)
  | repeated (body : Pattern) (least : Nat) (most : Option Nat) (manner : Repetition)
  /-- The body matches from here on, or, with `negated`, it does not; no text is taken. -/
  | ahead (negated : Bool) (body : Pattern)
  deriving Repr, DecidableEq

namespace Pattern

/-- A place in a text: the character before it and the text after it. -/
structure Place where
  before : Option Char
  after : List Char
  deriving Repr, DecidableEq

/-- The place holds the condition. -/
def Anchor.holds (p : Place) : Anchor → Bool
  | .start => p.before.isNone
  | .finish => p.after.isEmpty || p.after == ['\n']
  | .absoluteFinish => p.after.isEmpty
  -- an empty text has no words and no place between them
  | .boundary negated =>
    let wordBefore := p.before.any Text.isWordChar
    let wordAfter := p.after.head?.any Text.isWordChar
    (wordBefore != wordAfter) != negated && (p.before.isSome || !p.after.isEmpty)

/-- Each place of one text once. -/
def distinct (places : List Place) : List Place :=
  places.foldr
    (fun p kept => if kept.any fun q => q.after.length == p.after.length then kept else p :: kept)
    []

/-- The places reached by taking exactly `n` steps. -/
def exactly (step : Place → List Place) : Nat → List Place → List Place
  | 0, places => places
  | n + 1, places =>
    if places.isEmpty then [] else exactly step n (distinct (places.flatMap step))

/-- The places reached by taking at most `n` steps. -/
def atMost (step : Place → List Place) : Nat → List Place → List Place
  | 0, places => places
  | n + 1, places =>
    if places.isEmpty then []
    else distinct (places ++ atMost step n (distinct (places.flatMap step)))

/-- Two places of one text are not the same. -/
def Place.differs (p q : Place) : Bool := p.after.length != q.after.length

/-! ## The match that comes first -/

/-- The place reached by `least` rounds and then by more of them, at most `extra`, each of which is
settled once it is found. -/
def settled (round : Place → Option Place) : Nat → Nat → Place → Option Place
  | 0, 0, p => some p
  | 0, extra + 1, p =>
    match round p with
    | some q => if p.differs q then settled round 0 extra q else some p
    | none => some p
  | least + 1, extra, p => (round p).bind (settled round least extra)

/-- The first way through `least` rounds, then at most `extra` more of them, and what comes next.
A round that takes no text is the last one. -/
def firstRounds (round : (Place → Option Place) → Place → Option Place)
    (next : Place → Option Place) (eager : Bool) : Nat → Nat → Place → Option Place
  | 0, 0, p => next p
  | 0, extra + 1, p =>
    let onward (q : Place) : Option Place :=
      if p.differs q then firstRounds round next eager 0 extra q else next q
    if eager then round onward p <|> next p else next p <|> round onward p
  | least + 1, extra, p => round (firstRounds round next eager least extra) p

/-- The number of rounds that a repetition needs at a place, and the number of those that it may
have beyond them.  Rounds that take no text can be left out, so the text bounds both. -/
def roundsAt (p : Place) (least : Nat) (most : Option Nat) : Nat × Nat :=
  let extra :=
    match most with
    | some m => min (m - least) p.after.length
    | none => p.after.length
  (min least (p.after.length + 1), extra)

/-- The first way through the pattern and what comes next. -/
def first? : Pattern → (Place → Option Place) → Place → Option Place
  | .empty, next, p => next p
  | .oneOf s, next, p =>
    match p.after with
    | c :: rest => if s.holds c then next ⟨some c, rest⟩ else none
    | [] => none
  | .anchor a, next, p => if Anchor.holds p a then next p else none
  | .seq f s, next, p => first? f (first? s next) p
  | .either l r, next, p => first? l next p <|> first? r next p
  | .repeated body least most manner, next, p =>
    let (least, extra) := roundsAt p least most
    match manner with
    | .greedy => firstRounds (first? body) next true least extra p
    | .lazy => firstRounds (first? body) next false least extra p
    | .final => (settled (first? body some) least extra p).bind next
  | .ahead negated body, next, p => if (first? body some p).isNone == negated then next p else none

/-! ## All matches -/

/-- The places where a match that begins at `p` may end. -/
def ends : Pattern → Place → List Place
  | .empty, p => [p]
  | .oneOf s, p =>
    match p.after with
    | c :: rest => if s.holds c then [⟨some c, rest⟩] else []
    | [] => []
  | .anchor a, p => if Anchor.holds p a then [p] else []
  | .seq f s, p => distinct ((ends f p).flatMap (ends s))
  | .either l r, p => distinct (ends l p ++ ends r p)
  | .repeated body least most manner, p =>
    let (least, extra) := roundsAt p least most
    match manner with
    | .final => (settled (first? body some) least extra p).toList
    | _ => atMost (ends body) extra (exactly (ends body) least [p])
  | .ahead negated body, p => if (ends body p).isEmpty == negated then [p] else []

/-- The places of a text, from the one after `before` on. -/
def placesFrom (before : Option Char) : List Char → List Place
  | [] => [⟨before, []⟩]
  | c :: rest => ⟨before, c :: rest⟩ :: placesFrom (some c) rest

/-- The pattern matches somewhere in the text. -/
def foundIn (pattern : Pattern) (s : String) : Bool :=
  (placesFrom none s.toList).any fun p => !(pattern.ends p).isEmpty

end Pattern

end CodeConventions
