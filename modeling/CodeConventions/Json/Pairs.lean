import CodeConventions.Json.Basic

/-!
# Pairs of keys and values

Where entries are wanted, a value can give them in two ways: as an object, or as a list of pairs.
A list of pairs is any value that has parts, each of which has two parts in turn: the key and the
value.  The parts of a text are its characters, and those of an object its keys.
-/

namespace CodeConventions

/-- Why a value gives no pairs. -/
inductive PairsFault where
  /-- The value or one of its parts has no parts, or a key is a list or an object. -/
  | noEntries
  /-- A part is no pair. -/
  | notPair (index length : Nat)
  deriving DecidableEq, Repr

/-- The text of a fault that has one. -/
def PairsFault.message? : PairsFault → Option String
  | .noEntries => none
  | .notPair index length =>
    some s!"dictionary update sequence element #{index} has length {length}; 2 is required"

namespace Json

/-- The parts of a value: the items of a list, the characters of a text, the keys of an object. -/
def parts? : Json → Option (List Json)
  | .list items => some items
  | .text s => some (s.toList.map fun c => .text (String.ofList [c]))
  | .unpaired points => some (points.map fun n => ofPoints [n])
  | .object es => some (es.map fun e => .text e.1)
  | .unkeyed _ keys => some (keys.map ofPoints)
  | _ => none

/-- A value that cannot be a key. -/
def isCompound : Json → Bool
  | .list _ => true
  | .object _ => true
  | .unkeyed .. => true
  | _ => false

/-- The pairs that some items are, the first of them at an index. -/
def pairsFrom (index : Nat) : List Json → Except PairsFault (List (Json × Json))
  | [] => .ok []
  | item :: rest =>
    match parts? item with
    | none => .error .noEntries
    | some [k, v] =>
      if isCompound k then .error .noEntries else (pairsFrom (index + 1) rest).map ((k, v) :: ·)
    | some ps => .error (.notPair index ps.length)

/-- The pairs that a value gives. -/
def pairs? : Json → Except PairsFault (List (Json × Json))
  | .object es => .ok (es.map fun (k, v) => (.text k, v))
  | .unkeyed .. => .error .noEntries
  | j =>
    match parts? j with
    | none => .error .noEntries
    | some items => pairsFrom 0 items

/-- The pairs with texts as keys, in which the last of equal keys wins. -/
def textEntries (pairs : List (Json × Json)) : Entries :=
  Entries.update [] (pairs.filterMap fun (k, v) => k.text?.map fun s => (s, v))

end Json

end CodeConventions
