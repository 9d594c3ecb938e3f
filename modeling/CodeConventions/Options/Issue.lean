import CodeConventions.Json.Shown

/-!
# Issues

What is wrong with values that come from outside, and how a user is told.
-/

namespace CodeConventions

/-!
## Issues

What is wrong with values that come from outside: where the value is, and what was expected there.
Values are checked as a whole, so that one look finds all issues.  `Checked` is a value or the
issues found, and two checked parts together have the issues of both.
-/

/-- What is wrong with a value. -/
inductive IssueKind where
  | unreadableFlag
  | notFlag
  | notText
  | notList
  | notObject
  | notTypeFamily
  /-- The value is none of those that are allowed here. -/
  | notOneOf (allowed : List String)
  /-- The value is none of the names of a kind. -/
  | notNameOf (names : List String)
  | unknownKey
  /-- The key of an entry is no text. -/
  | notTextKey
  /-- Halves of characters stand where a text must be looked at. -/
  | brokenText
  | notPositive
  | unreadableInteger
  | notInteger
  | tooLongInteger
  | fractional
  | notFinite
  deriving DecidableEq, Repr

namespace IssueKind

/-- Some values in words: quoted, the last one after an `or`. -/
def inWords : List String → String
  | [] => ""
  | [a] => s!"'{a}'"
  | [a, b] => s!"'{a}' or '{b}'"
  | a :: rest => s!"'{a}', {inWords rest}"

/-- The name of a kind of issue. -/
def name : IssueKind → String
  | .unreadableFlag => "bool_parsing"
  | .notFlag => "bool_type"
  | .notText => "string_type"
  | .notList => "list_type"
  | .notObject => "dict_type"
  | .notTypeFamily => "model_type"
  | .notOneOf _ => "literal_error"
  | .notNameOf _ => "enum"
  | .unknownKey => "extra_forbidden"
  | .notTextKey => "invalid_key"
  | .brokenText => "string_unicode"
  | .notPositive => "greater_than_equal"
  | .unreadableInteger => "int_parsing"
  | .notInteger => "int_type"
  | .tooLongInteger => "int_parsing_size"
  | .fractional => "int_from_float"
  | .notFinite => "finite_number"

/-- What a reader is told. -/
def message : IssueKind → String
  | .unreadableFlag => "Input should be a valid boolean, unable to interpret input"
  | .notFlag => "Input should be a valid boolean"
  | .notText => "Input should be a valid string"
  | .notList => "Input should be a valid list"
  | .notObject => "Input should be a valid dictionary"
  | .notTypeFamily => "Input should be a valid dictionary or instance of TypeCategoryOptions"
  | .notOneOf allowed => "Input should be " ++ inWords allowed
  | .notNameOf names => "Input should be " ++ inWords names
  | .unknownKey => "Extra inputs are not permitted"
  | .notTextKey => "Keys should be strings"
  | .brokenText =>
    "Input should be a valid string, unable to parse raw data as a unicode string"
  | .notPositive => "Input should be greater than or equal to 1"
  | .unreadableInteger => "Input should be a valid integer, unable to parse string as an integer"
  | .notInteger => "Input should be a valid integer"
  | .tooLongInteger => "Unable to parse input string as an integer, exceeded maximum size"
  | .fractional => "Input should be a valid integer, got a number with a fractional part"
  | .notFinite => "Input should be a finite number"

end IssueKind

/-- Something that is wrong, and the keys and indices that lead to it. -/
structure Issue where
  path : List String
  kind : IssueKind
  deriving DecidableEq, Repr

/-- The issue as seen from further outside. -/
def Issue.under (key : String) (i : Issue) : Issue := ⟨key :: i.path, i.kind⟩

/-- A value, or what is wrong with it. -/
inductive Checked (α : Type) where
  | good (value : α)
  | bad (issues : List Issue)
  deriving Repr, Inhabited

namespace Checked

variable {α β : Type}

/-- The items of a list under their indices. -/
def indexed (items : List α) : List (String × α) := items.zipIdx.map fun (a, i) => (toString i, a)

/-- The value with a function applied to it. -/
def map (f : α → β) : Checked α → Checked β
  | .good a => .good (f a)
  | .bad issues => .bad issues

/-- The issues, none for a value. -/
def issues : Checked α → List Issue
  | .good _ => []
  | .bad issues => issues

/-- The value, if nothing is wrong. -/
def value? : Checked α → Option α
  | .good a => some a
  | .bad _ => none

/-- Two parts put together, with the issues of both. -/
def combine {γ : Type} (f : α → β → γ) : Checked α → Checked β → Checked γ
  | .good a, .good b => .good (f a b)
  | .good _, .bad more => .bad more
  | .bad found, .good _ => .bad found
  | .bad found, .bad more => .bad (found ++ more)

/-- The value as seen from further outside. -/
def under (key : String) : Checked α → Checked α
  | .good a => .good a
  | .bad issues => .bad (issues.map (Issue.under key))

/-- One issue. -/
def fail (kind : IssueKind) : Checked α := .bad [⟨[], kind⟩]

/-- All values of a list, each with its key. -/
def all (read : α → Checked β) : List (String × α) → Checked (List β)
  | [] => .good []
  | (key, a) :: rest => combine List.cons ((read a).under key) (all read rest)

theorem map_good (f : α → β) (a : α) : map f (.good a) = .good (f a) := rfl

theorem under_good (key : String) (a : α) : under key (.good a) = .good a := rfl

theorem all_good (read : α → Checked β) (f : α → β) (items : List (String × α))
    (h : ∀ e ∈ items, read e.2 = .good (f e.2)) :
    all read items = .good (items.map fun e => f e.2) := by
  induction items with
  | nil => rfl
  | cons e rest ih =>
    have he := h e (by simp)
    have hr := ih fun x hx => h x (by simp [hx])
    simp [all, he, hr, under, combine]

end Checked

/-!
## Issues in words

What a user is told about the issues of some entries: for each issue the place, what was expected
there, and the value that was found.
-/

namespace Json

/-- What some keys and indices lead to. -/
def at? : List String → Json → Option Json
  | [], j => some j
  | key :: rest, .object es => (es.lookup key).bind (at? rest)
  | key :: rest, .list items => ((Checked.indexed items).lookup key).bind (at? rest)
  | _ :: _, _ => none

end Json

namespace Issue

/-- A key or an index in the place of an issue; a key with a dot in it is set off. -/
def placePart (key : String) : String := if key.toList.contains '.' then s!"`{key}`" else key

/-- What is said of an issue of some entries. -/
def toText (entries : Json.Entries) (i : Issue) : String :=
  let found := (Json.at? i.path (.object entries)).getD .null
  Text.joined "." (i.path.map placePart) ++ "\n  " ++ i.kind.message
    ++ s!" [type={i.kind.name}, input_value={Text.abbreviated found.shown}, "
    ++ s!"input_type={found.shape.name}]"

/-- What is said of some issues of some entries. -/
def allToText (entries : Json.Entries) (issues : List Issue) : String :=
  let noun := if issues.length = 1 then "validation error" else "validation errors"
  Text.joined "\n" (s!"{issues.length} {noun}" :: issues.map (toText entries))

end Issue

end CodeConventions
