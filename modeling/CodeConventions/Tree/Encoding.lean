import CodeConventions.Json.Basic
import CodeConventions.Tree.Basic

/-!
# Trees as lists

A parser hands over a tree as the flat list of its labels in document order, each with its number
of children.  The list determines the tree: after a label with `n` children come `n` trees, one
after the other.
-/

namespace CodeConventions.ParseTree

/-- A label and the number of its children. -/
abbrev Entry := Label × Nat

mutual

/-- The tree at the head of a list, and the entries after it. -/
def ofEntries : Nat → List Entry → Option (ParseTree × List Entry)
  | 0, _ => none
  | _ + 1, [] => none
  | fuel + 1, (l, n) :: rest =>
    (forestOfEntries fuel n rest).map fun (cs, rest) => (.node l cs, rest)

/-- The first `n` trees of a list, and the entries after them. -/
def forestOfEntries : Nat → Nat → List Entry → Option (List ParseTree × List Entry)
  | _, 0, es => some ([], es)
  | 0, _ + 1, _ => none
  | fuel + 1, n + 1, es =>
    match ofEntries fuel es with
    | none => none
    | some (c, rest) =>
      (forestOfEntries fuel n rest).map fun (cs, rest) => (c :: cs, rest)

end

mutual

/-- The entries of a tree in document order. -/
def toEntries : ParseTree → List Entry
  | .node l cs => (l, cs.length) :: forestToEntries cs

/-- The entries of several trees, one after the other. -/
def forestToEntries : List ParseTree → List Entry
  | [] => []
  | c :: cs => toEntries c ++ forestToEntries cs

end

/-- The tree that a list of entries is, with nothing left over. -/
def ofEntries? (es : List Entry) : Option ParseTree :=
  match ofEntries (2 * es.length + 1) es with
  | some (t, []) => some t
  | _ => none

/-- One entry of the written form: kind, start, stop and number of children, then the field and
the flags where there are any.  A kind that begins with an apostrophe is that of a token. -/
def entryOfJson? (j : Json) : Option Entry := do
  let items ← j.items?
  match items with
  | .text kind :: .int start :: .int stop :: .int children :: more =>
    let (named, kind) :=
      match kind.toList with
      -- an apostrophe marks a token
      | '\'' :: rest => (false, String.ofList rest)
      | _ => (true, kind)
    let text (k : Nat) : String := (more[k]?.bind Json.text?).getD ""
    let field := text 0
    let flags := text 1
    some (⟨kind, named, flags.toList.contains 'm', if field = "" then none else some field,
      start.toNat, stop.toNat⟩, children.toNat)
  | _ => none

/-- The tree that a list of written entries is. -/
def ofJson? (j : Json) : Option ParseTree := do
  let items ← j.items?
  ofEntries? (← items.mapM entryOfJson?)

end CodeConventions.ParseTree
