import CodeConventions.Markup.Basic
import CodeConventions.Rules.Remark

/-!
# Elements without children

An element with nothing between its tags, or with blanks that hold a line feed, can be written as
one tag.
-/

namespace CodeConventions

/-- Which components must be written as one tag. -/
inductive ComponentClosing where
  | all
  | off
  deriving DecidableEq, Repr

/-- Which native elements must be written as one tag. -/
inductive NativeClosing where
  | all
  | void
  | off
  deriving DecidableEq, Repr

/-- Which elements must be written as one tag. -/
structure EmptyElementOptions where
  component : ComponentClosing := .all
  html : NativeClosing := .all
  deriving DecidableEq, Repr

/-- Elements with the name must be written as one tag. -/
def EmptyElementOptions.covers (options : EmptyElementOptions) (name : String) : Bool :=
  if isNativeName name then
    match options.html with
    | .all => true
    | .void => voidElements.contains name
    | .off => false
  else options.component == .all

namespace Document

/-- The tag that closes an element. -/
def closingTag? (element : Node) : Option Node :=
  match element.child? "close_tag" with
  | some tag => some tag
  | none => element.children.find? fun c => c.isNamed && c.kind == "jsx_closing_element"

/-- Nothing is lost when the text between two tags is left out. -/
def isNothing (between : String) : Bool :=
  between == "" || (Text.allBlank between.toList && between.toList.contains '\n')

/-- The element can be written as one tag. -/
def canCloseItself (d : Document) (element : Node) : Bool :=
  match element.tag?, closingTag? element with
  | some opening, some closing => isNothing (d.source.textIn opening.stop closing.start)
  | _, _ => false

/-- The remarks about elements without children. -/
def emptyElements (d : Document) (options : EmptyElementOptions) : List Remark :=
  let found := (d.find ["jsx_element"]).filter fun e =>
    (e.tag?.bind d.tagName?).any options.covers && d.canCloseItself e
  found.map fun e => d.remark e "Empty components are self-closing."

end Document

end CodeConventions
