import CodeConventions.Expression.ObjectLiteral
import CodeConventions.Markup.Basic
import CodeConventions.Rules.Remark
import CodeConventions.Vocabulary.Style

/-!
# Styles and classes

A style is an object whose keys are properties of styles, in their own spelling, and whose lengths
have units.  Classes that depend on conditions are given as a list of classes.
-/

namespace CodeConventions

/-- Which attributes are styles, and whether a style may be a text. -/
structure StyleOptions where
  styleProps : List String := ["style"]
  allowString : Bool := false
  deriving DecidableEq, Repr

/-- The functions that join class names. -/
structure ClassListOptions where
  classnames : List String := classNameHelpers
  deriving DecidableEq, Repr

/-- What is wrong about a key of a style. -/
def styleKeyFault? (name : String) : Option String :=
  if Text.beginsWith "--" name || styleProperties.contains name then none
  else
    let kebab := kebabCase name
    if styleProperties.contains kebab then some s!"Use {kebab} instead of {name}."
    else some s!"{name} is not a valid CSS property."

/-- What is said of a length without a unit. -/
def unitlessLength : String :=
  "This CSS property value should be a string with a unit; Solid does not automatically append " ++
  "a \"px\" unit."

namespace Document

/-- The value is a number other than zero. -/
def isNonzero (d : Document) (value : Node) : Bool :=
  ((d.literalValue? value).bind StaticValue.number?).any fun x => !x.isZero

/-- The remark about an entry of a style. -/
def styleEntry? (d : Document) (p : Property) : Option Remark :=
  match p.name, p.key with
  | some name, some key =>
    if p.spread || p.node.kind != "pair" then none
    else
      -- the value of a misspelled key is not looked at
      match styleKeyFault? name with
      | some message => some (d.remark key message)
      | none =>
        match p.value with
        | some value =>
          if isLengthProperty name && d.isNonzero value then some (d.remark value unitlessLength)
          else none
        | none => none
  | _, _ => none

/-- The remarks about an attribute that is a style. -/
def styleRemarks (d : Document) (options : StyleOptions) (attr : Node) : List Remark :=
  match attr.attributeExpression? with
  | none => []
  | some value =>
    if (d.stringValue? value).isSome || value.kind = "template_string" then
      if options.allowString then []
      else [d.remark attr "Use an object for the style prop instead of a string."]
    else if value.kind = "object" then (d.properties value).filterMap d.styleEntry?
    else []

/-- The remarks about styles. -/
def styles (d : Document) (options : StyleOptions) : List Remark :=
  let found := (d.tags.flatMap Node.namedAttributes).filter fun a =>
    (d.attributeName? a).any options.styleProps.contains
  found.flatMap (d.styleRemarks options)

/-! ## Classes -/

/-- The name of the function that joins class names in the value of an attribute. -/
def classHelper? (d : Document) (options : ClassListOptions) (attr : Node) : Option String :=
  match attr.attributeExpression? with
  | none => none
  | some value =>
    if value.kind = "call_expression" then
      match value.callee?, value.arguments with
      | some callee, [argument] =>
        if callee.kind = "identifier" && options.classnames.contains (d.text callee)
            && argument.unwrap.kind == "object" then
          some (d.text callee)
        else none
      | _, _ => none
    else none

/-- The remarks about classes that are joined by a function. -/
def joinedClasses (d : Document) (options : ClassListOptions) : List Remark :=
  let tags := d.tags.filter fun t => (d.attribute? t "classList").isNone
  let classes := (tags.flatMap Node.namedAttributes).filter fun a =>
    (d.attributeName? a).any ["class", "className"].contains
  classes.filterMap fun a => (d.classHelper? options a).map fun helper =>
    d.remark a (s!"The classlist prop should be used instead of {helper} to efficiently set " ++
      "classes based on an object.")

end Document

end CodeConventions
