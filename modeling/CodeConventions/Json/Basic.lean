import CodeConventions.Number.Binary64
import CodeConventions.Text.Surrogate

/-!
# Values of the data format

The values that configuration and reports are written in.  Integers are unbounded and kept apart
from numbers with a fraction or an exponent.  An object keeps its keys in the order in which they
were first written.

What stands between quotes may hold a half of a character that has no other half.  It is no text
then, but it is a value.  An object with such a key is kept without what it holds.

Of two values one may be laid over the other: objects are joined key by key, at every depth, and
anywhere else the upper value hides the lower one.
-/

namespace CodeConventions

/-- A value: null, a truth value, a number, a text, a list or an object. -/
inductive Json where
  | null
  | bool (value : Bool)
  | int (value : Int)
  | real (value : Binary64)
  | text (value : String)
  | list (items : List Json)
  | object (entries : List (String × Json))
  /-- Code points between quotes with a lone half among them. -/
  | unpaired (points : List Nat)
  /-- An object with a key that is no text: the code points of the first such key, and those of all
  keys. -/
  | unkeyed (key : List Nat) (keys : List (List Nat))
  deriving Inhabited, Repr

namespace Json

/-- The entries of an object, keyed by name. -/
abbrev Entries := List (String × Json)

/-- Entries in which `key` has the value given; a new key goes to the end. -/
def Entries.set (entries : Entries) (key : String) (value : Json) : Entries :=
  match entries with
  | [] => [(key, value)]
  | (k, v) :: rest => if k = key then (k, value) :: rest else (k, v) :: Entries.set rest key value

/-- Entries after the others have been written over them, one after the other. -/
def Entries.update (entries others : Entries) : Entries :=
  others.foldl (fun acc e => acc.set e.1 e.2) entries

/-- The value of a key. -/
def Entries.get? (entries : Entries) (key : String) : Option Json :=
  entries.lookup key

theorem Entries.get?_set (entries : Entries) (key other : String) (value : Json) :
    (entries.set key value).get? other =
      if other = key then some value else entries.get? other := by
  induction entries with
  | nil =>
    by_cases h : other = key
    · simp [Entries.set, Entries.get?, h]
    · simp [Entries.set, Entries.get?, List.lookup_cons, h, beq_false_of_ne h]
  | cons e rest ih =>
    obtain ⟨k, v⟩ := e
    unfold Entries.set
    by_cases hk : k = key
    · subst hk
      by_cases h : other = k
      · simp [Entries.get?, h]
      · simp [Entries.get?, List.lookup_cons, h, beq_false_of_ne h]
    · by_cases h : other = k
      · subst h
        simp [Entries.get?, hk]
      · simp only [hk, if_false, Entries.get?, List.lookup_cons, beq_false_of_ne h]
        exact ih

/-- The keys of an object in which the last of equal keys wins. -/
def ofEntries (entries : Entries) : Json :=
  .object (Entries.update [] entries)

/-- The value of a key, if the value is an object that has it. -/
def get? (j : Json) (key : String) : Option Json :=
  match j with
  | .object entries => Entries.get? entries key
  | _ => none

/-- The value that some code points between quotes are. -/
def ofPoints (points : List Nat) : Json :=
  match Text.Surrogate.text? points with
  | some s => .text s
  | none => .unpaired points

/-- The text that the value is; lone halves in it are replaced. -/
def text? : Json → Option String
  | .text s => some s
  | .unpaired points => some (Text.Surrogate.repaired points)
  | _ => none

/-- The items of the list that the value is. -/
def items? : Json → Option (List Json)
  | .list xs => some xs
  | _ => none

/-- The entries of the object that the value is. -/
def entries? : Json → Option Entries
  | .object es => some es
  | _ => none

/-- The integer that the value is written as. -/
def int? : Json → Option Int
  | .int i => some i
  | _ => none

/-- A list of texts. -/
def texts (xs : List String) : Json := .list (xs.map .text)

/-- A natural number. -/
def nat (n : Nat) : Json := .int n

/-- Values that are neither null nor false nor zero nor empty. -/
def isTruthy : Json → Bool
  | .null => false
  | .bool b => b
  | .int i => i != 0
  | .real x => !x.isZero
  | .text s => s != ""
  | .list xs => !xs.isEmpty
  | .object es => !es.isEmpty
  | .unpaired _ => true
  | .unkeyed .. => true

/-! ## One value laid over another -/

mutual

/-- The upper value over the lower one. -/
def overlay (lower : Json) : Json → Json
  | .object upper =>
    match lower with
    | .object es => .object (overlayEntries es upper)
    | _ => .object upper
  | upper => upper

/-- The entries of the upper object over those of the lower one. -/
def overlayEntries (lower : Entries) : Entries → Entries
  | [] => lower
  | (k, v) :: rest => overlayEntries (lower.set k (overlay ((lower.get? k).getD .null) v)) rest

end

end Json

end CodeConventions
