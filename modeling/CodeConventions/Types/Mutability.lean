import CodeConventions.Tree.Document
import CodeConventions.Vocabulary.Functional

/-!
# Types that permit change

Whether a value of a type may be changed is a matter of three answers: yes, no and unknown.  The
members of an object type, the brackets of an array and the names of well-known generic types
decide the leaves.  A union or an intersection permits change as soon as one of its members does,
and forbids it when all of them do.
-/

namespace CodeConventions

/-- The answer for something with several members: yes if one is, no if none is, and otherwise
unknown. -/
def anyOf (answers : List (Option Bool)) : Option Bool :=
  if answers.contains (some true) then some true
  else if answers.all (· == some false) then some false
  else none

theorem anyOf_eq_some_true (answers : List (Option Bool)) :
    anyOf answers = some true ↔ some true ∈ answers := by
  unfold anyOf
  by_cases h : some true ∈ answers
  · simp [h]
  · simp only [List.contains_eq_mem, h, decide_false, Bool.false_eq_true, if_false, iff_false]
    split <;> simp

/-- The kinds of nodes that list the members of an object type. -/
def shapeKinds : List String := ["object_type", "interface_body"]

/-- The kinds of nodes that combine several types. -/
def combinedTypeKinds : List String := ["union_type", "intersection_type"]

/-- The kinds of types whose values cannot be changed. -/
def constantTypeKinds : List String :=
  ["predefined_type", "literal_type", "function_type", "template_literal_type"]

/-- The member of an object type can be written to. -/
def ParseTree.isWritableMember (t : ParseTree) : Bool :=
  (t.label.kind == "property_signature" || t.label.kind == "index_signature")
    && !t.children.any (isToken "readonly")

/-- The member of an object type can be written to. -/
def Node.isWritableMember (n : Node) : Bool := n.tree.isWritableMember

/-- The answer for a generic type with a name. -/
def genericPermitsChange? (name : String) : Option Bool :=
  if mutableGenericTypes.contains name then some true
  else if readonlyGenericTypes.contains name then some false
  else none

namespace Document

mutual

/-- Whether the values of a type may be changed. -/
def typePermitsChange? (d : Document) : ParseTree → Option Bool
  | .node l cs =>
    if shapeKinds.contains l.kind then
      some (cs.any fun c => c.isSignificant && c.isWritableMember)
    else if l.kind = "array_type" || l.kind = "tuple_type" then some true
    else if l.kind = "readonly_type" then some false
    else if l.kind = "generic_type" then
      genericPermitsChange? (d.text? (Node.child? ⟨.node l cs, []⟩ "name"))
    else if combinedTypeKinds.contains l.kind then anyOf (membersPermitChange d cs)
    else if l.kind = "parenthesized_type" then firstPermitsChange? d cs
    else if constantTypeKinds.contains l.kind then some false
    else none

/-- The answers for the members of a combined type. -/
def membersPermitChange (d : Document) : List ParseTree → List (Option Bool)
  | [] => []
  | c :: cs =>
    if c.isSignificant then typePermitsChange? d c :: membersPermitChange d cs
    else membersPermitChange d cs

/-- The answer for the type between parentheses. -/
def firstPermitsChange? (d : Document) : List ParseTree → Option Bool
  | [] => none
  | c :: cs => if c.isSignificant then typePermitsChange? d c else firstPermitsChange? d cs

end

/-- Whether the values of a type may be changed. -/
def permitsChange? (d : Document) (type : Node) : Option Bool := d.typePermitsChange? type.tree

end Document

end CodeConventions
