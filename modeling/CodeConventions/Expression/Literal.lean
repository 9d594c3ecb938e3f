import CodeConventions.Expression.Member
import CodeConventions.Number.Literal

/-!
# Literals

The value of an expression that is written out in the source: a string, a template without
substitutions, a number, a truth value, null, or a number with a minus sign.  What a name stands
for is a question of its own, so the reading of names is a parameter.  The content of a string is
the text between its quotes, escapes and all.
-/

namespace CodeConventions

/-- A value known from the source. -/
inductive StaticValue where
  | text (value : String)
  | number (value : LiteralNumber)
  | truth (value : Bool)
  | null
  deriving DecidableEq, Repr

/-- The text that the value is. -/
def StaticValue.text? : StaticValue → Option String
  | .text s => some s
  | _ => none

/-- The number that the value is. -/
def StaticValue.number? : StaticValue → Option LiteralNumber
  | .number x => some x
  | _ => none

/-- A text without its first and its last character. -/
def withoutQuotes (s : String) : String := String.ofList (s.toList.drop 1).dropLast

namespace Document

/-- The content of a string, or of a template without substitutions. -/
def stringValue? (d : Document) (n : Node) : Option String :=
  let m := n.unwrap
  if m.kind = "string" then some (withoutQuotes (d.text m))
  else if m.kind = "template_string" then
    if m.parts.any fun p => p.kind == "template_substitution" then none
    else some (withoutQuotes (d.text m))
  else none

/-- The value of an expression, where `name` gives the values of names. -/
def valueWith (d : Document) (name : Node → Option StaticValue) (n : Node) : Option StaticValue :=
  let m := n.unwrap
  match d.stringValue? m with
  | some s => some (.text s)
  | none =>
    if m.kind = "number" then (LiteralNumber.read? (d.text m)).map .number
    else if m.kind = "true" then some (.truth true)
    else if m.kind = "false" then some (.truth false)
    else if m.kind = "null" then some .null
    else if m.kind = "unary_expression" && d.operator m == "-" then
      match _h : m.child? "argument" with
      | some a =>
        match valueWith d name a with
        | some (.number x) => some (.number x.neg)
        | _ => none
      | none => none
    else if m.kind = "identifier" then name m
    else none
termination_by n.size
decreasing_by
  exact Nat.lt_of_lt_of_le (Node.size_child?_lt (by assumption)) n.size_unwrap_le

/-- The value of a literal. -/
def literalValue? (d : Document) (n : Node) : Option StaticValue := d.valueWith (fun _ => none) n

end Document

end CodeConventions
