import CodeConventions.Tree.Document
import CodeConventions.Vocabulary.Markup

/-!
# Markup

Elements, their tags and attributes, and the expressions among their children.  An element opens
with a tag, or it is a tag that closes itself.  An attribute is a name with or without a value, or
an object spread into the tag.
-/

namespace CodeConventions

/-- The kinds of nodes that are elements. -/
def elementKinds : List String := ["jsx_element", "jsx_self_closing_element", "jsx_fragment"]

namespace Node

/-- The tag that opens an element. -/
def tag? (element : Node) : Option Node :=
  if element.kind = "jsx_element" then
    match element.child? "open_tag" with
    | some tag => some tag
    | none => element.parts.find? fun c => c.kind == "jsx_opening_element"
  else if element.isOneOf ["jsx_self_closing_element", "jsx_opening_element"] then some element
  else none

/-- The element that a tag belongs to. -/
def element? (tag : Node) : Option Node :=
  if tag.kind = "jsx_opening_element" then tag.parent? else some tag

/-- The expression in braces spreads an object. -/
def isSpreadAttribute (n : Node) : Bool :=
  n.firstPart?.any fun inner => inner.kind == "spread_element"

/-- The attributes of a tag, spreads among them. -/
def attributes (tag : Node) : List Node :=
  tag.parts.filter fun c =>
    c.kind == "jsx_attribute" || (c.kind == "jsx_expression" && c.isSpreadAttribute)

/-- The attributes of a tag that have a name. -/
def namedAttributes (tag : Node) : List Node :=
  tag.attributes.filter fun a => a.kind == "jsx_attribute"

/-- The value of an attribute as written: a string, an expression in braces or an element. -/
def attributeValue? (attr : Node) : Option Node := attr.parts[1]?

/-- The expression inside braces. -/
def braced? (n : Node) : Option Node :=
  if n.kind = "jsx_expression" then n.firstPart?.map unwrap else none

/-- The value of an attribute without braces around it. -/
def attributeExpression? (attr : Node) : Option Node :=
  match attr.attributeValue? with
  | none => none
  | some v => if v.kind = "jsx_expression" then v.braced? else some v

/-- The name of an attribute has a namespace. -/
def isNamespaced (attr : Node) : Bool :=
  attr.firstPart?.any fun name => name.kind == "jsx_namespace_name"

end Node

namespace Document

/-- The name of a tag. -/
def tagName? (d : Document) (tag : Node) : Option String := (tag.child? "name").map d.text

/-- The tags that have a name, in document order. -/
def tags (d : Document) : List Node :=
  (d.find ["jsx_opening_element", "jsx_self_closing_element"]).filter fun t =>
    (t.child? "name").isSome

/-- The tag is that of an element the browser knows. -/
def isNative (d : Document) (tag : Node) : Bool := (d.tagName? tag).any isNativeName

/-- The name of an attribute. -/
def attributeName? (d : Document) (attr : Node) : Option String :=
  if attr.kind = "jsx_attribute" then attr.firstPart?.map d.text else none

/-- The first attribute with a name. -/
def attribute? (d : Document) (tag : Node) (name : String) : Option Node :=
  tag.attributes.find? fun a => d.attributeName? a == some name

/-- The children of an element other than blank text. -/
def content (d : Document) (element : Node) : List Node :=
  if element.isOneOf ["jsx_element", "jsx_fragment"] then
    element.parts.filter fun c =>
      !c.isOneOf ["jsx_opening_element", "jsx_closing_element"] &&
        !(c.kind == "jsx_text" && Text.allBlank (d.text c).toList)
  else []

/-- The element that a tag belongs to has children. -/
def hasContent (d : Document) (tag : Node) : Bool :=
  tag.element?.any fun e => !(d.content e).isEmpty

/-- The expressions among the children of elements. -/
def contentExpressions (d : Document) : List Node :=
  (d.find ["jsx_expression"]).filterMap fun container =>
    match container.parent? with
    | none => none
    | some p =>
      if p.isOneOf ["jsx_element", "jsx_fragment"] then
        container.braced?.filter fun inner => inner.kind != "spread_element"
      else none

end Document

end CodeConventions
