import CodeConventions.Expression.Literal

/-!
# Object literals

An object literal is a list of properties in the order in which they are written.  A property has a
name when its key is one, or a computed key with a literal text.  Spreads are entries too; they
bear the name of what is spread, if it has one.

An *order* is a list of groups of names.  The rank of a name is the first group that holds it, and
names without a rank may stand anywhere.  A property is misplaced when a property of lower rank
comes after it.
-/

namespace CodeConventions

/-- An entry of an object literal. -/
structure Property where
  name : Option String
  key : Option Node
  node : Node
  value : Option Node
  spread : Bool

namespace Document

/-- The name that a key gives to its property. -/
def keyName? (d : Document) (key : Node) : Option String :=
  if key.isOneOf ["property_identifier", "identifier", "private_property_identifier",
      "shorthand_property_identifier", "number"] then some (d.text key)
  else if key.kind = "string" then d.stringValue? key
  else if key.kind = "computed_property_name" then
    (key.firstPart?.bind d.literalValue?).bind StaticValue.text?
  else none

/-- The entry that a part of an object literal is. -/
def property? (d : Document) (part : Node) : Option Property :=
  if part.kind = "pair" then
    let key := part.child? "key"
    some ⟨key.bind d.keyName?, key, part, part.child? "value", false⟩
  else if part.kind = "shorthand_property_identifier" then
    some ⟨some (d.text part), some part, part, some part, false⟩
  else if part.kind = "method_definition" then
    let key := part.child? "name"
    some ⟨key.bind d.keyName?, key, part, some part, false⟩
  else if part.kind = "spread_element" then
    let argument := part.firstPart?.map Node.unwrap
    let name := (argument.filter fun a => a.kind == "identifier").map d.text
    some ⟨name, some part, part, argument, true⟩
  else none

/-- The entries of an object literal. -/
def properties (d : Document) (object : Node) : List Property :=
  object.parts.filterMap d.property?

/-- The first property with a name, spreads aside. -/
def property (d : Document) (object : Node) (name : String) : Option Property :=
  (d.properties object).find? fun p => p.name == some name && !p.spread

end Document

/-! ## The order of properties -/

/-- A chain of pairs of groups: the names of the first group come before those of the second. -/
abbrev PropertyOrder := List (List String × List String)

/-- The groups of a chain, one after the other. -/
def PropertyOrder.groups (order : PropertyOrder) : List (List String) :=
  order.flatMap fun (earlier, later) => [earlier, later]

/-- The first of the groups that holds the name. -/
def rankIn (groups : List (List String)) (name : String) : Option Nat :=
  groups.findIdx? fun g => g.contains name

/-- The rank of a name in a chain. -/
def PropertyOrder.rank (order : PropertyOrder) (name : Option String) : Option Nat :=
  name.bind (rankIn order.groups)

/-- The ranked items that have a later item of lower rank, each with the first such item. -/
def misplaced {α : Type} (rank : α → Option Nat) : List α → List (α × α)
  | [] => []
  | p :: rest =>
    let found := (rank p).bind fun r => rest.find? fun q => (rank q).any (· < r)
    (match found with
      | some q => [(p, q)]
      | none => []) ++ misplaced rank rest

/-- The properties that a property of lower rank follows, each with the first such property. -/
def misorderedProperties (order : PropertyOrder) (props : List Property) :
    List (Property × Property) :=
  misplaced (fun p => order.rank p.name) props

end CodeConventions
