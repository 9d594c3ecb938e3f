import CodeConventions.Markup.Basic
import CodeConventions.Rules.Remark
import CodeConventions.Scope.Constant

/-!
# Names and values of attributes

An attribute may be given only once.  Several spellings name one attribute, so names are compared in
a normal form.  Names that belong to another library, and prefixes that mean nothing, are remarked
too.

Markup given as text may hold what it should not, unless it is written out in the source; and an
address can be a script.
-/

namespace CodeConventions

/-- How the rule against repeated attributes compares names. -/
structure RepeatedOptions where
  ignoreCase : Bool := false
  deriving DecidableEq, Repr

/-- The prefixes that are known besides the usual ones. -/
structure PrefixOptions where
  allowedNamespaces : List String := []
  deriving DecidableEq, Repr

/-- A text without a beginning, if it has one of those given. -/
def withoutPrefix (prefixes : List String) (s : String) : String :=
  match prefixes.findSome? fun p => Text.after? p s.toList with
  | some rest => String.ofList rest
  | none => s

/-- The name of a handler without the colon after `on` or `oncapture`. -/
def plainHandlerName (name : String) : String :=
  match ["on:", "oncapture:"].findSome? fun p => Text.after? p name.toList with
  | some rest => "on" ++ String.ofList rest
  | none => name

/-- The normal form of a name: handlers in small letters and without a colon, and no prefix that
says how an attribute is set. -/
def normalAttributeName (ignoreCase : Bool) (name : String) : String :=
  let name :=
    if ignoreCase || Text.beginsWith "on" name then plainHandlerName (Text.lower name) else name
  withoutPrefix ["attr:", "prop:"] name

/-- The things whose name comes up earlier in the list or among the names seen. -/
def repeatedFrom {α : Type} (seen : List String) : List (α × String) → List (α × String)
  | [] => []
  | (x, name) :: rest =>
    (if seen.contains name then [(x, name)] else []) ++ repeatedFrom (name :: seen) rest

namespace Document

/-! ## Repeated attributes -/

/-- The names of attributes in normal form, each with its node. -/
def normalNames (d : Document) (options : RepeatedOptions) (attributes : List Node) :
    Except Crash (List (Node × String)) :=
  attributes.mapM fun a =>
    match a.firstPart? with
    | some name => .ok (name, normalAttributeName options.ignoreCase (d.text name))
    | none => .error (.absent (if options.ignoreCase then "lower" else "startswith"))

/-- What is said of a repeated attribute. -/
def repeatedAttribute (name : String) : String :=
  if name = "class" then
    "Duplicate `class` props are not allowed; while it might seem to work, it can break " ++
    "unexpectedly. Use `classList` instead."
  else "Duplicate props are not allowed."

/-- The remarks about a tag whose element has children besides an attribute for them. -/
def childrenTwice (d : Document) (tag : Node) (names : List (Node × String)) : Remarks :=
  if names.any (fun n => n.2 == "children") && d.hasContent tag then
    let name := (d.attribute? tag "children").bind Node.firstPart?
    (d.remark? name "Using `children` prop with JSX children is not allowed.").map fun r => [r]
  else .ok []

/-- The remarks about the attributes of a tag. -/
def repeatedInTag (d : Document) (options : RepeatedOptions) (tag : Node) : Remarks := do
  let names ← d.normalNames options tag.namedAttributes
  let repeated := (repeatedFrom [] names).map fun (n, name) => d.remark n (repeatedAttribute name)
  return repeated ++ (← d.childrenTwice tag names)

/-- The remarks about attributes that are given twice. -/
def repeatedAttributes (d : Document) (options : RepeatedOptions) : Remarks :=
  remarksFor d.tags (d.repeatedInTag options)

/-! ## Names of another library -/

/-- What is wrong about a name of another library. -/
def foreignNameFault? (native : Bool) (name : String) : Option String :=
  match foreignAttributes.lookup name with
  | some proper => some s!"Prefer the `{proper}` prop over the deprecated `{name}` prop."
  | none =>
    if name = "key" && native then
      some "Elements in a <For> or <Index> list do not need a key prop."
    else none

/-- The remarks about names of another library. -/
def foreignNames (d : Document) : List Remark :=
  d.tags.flatMap fun tag => tag.namedAttributes.filterMap fun a =>
    ((d.attributeName? a).bind (foreignNameFault? (d.isNative tag))).map (d.remark a)

/-! ## Prefixes -/

/-- What is wrong about the prefix of a name. -/
def prefixFault? (options : PrefixOptions) (native : Bool) (before : String) : Option String :=
  if !native then some "Namespaced props have no effect on components."
  else if styleAttributePrefixes.contains before then
    some (s!"Using the '{before}:' special prefix is potentially confusing, prefer the " ++
      s!"'{before}' prop instead.")
  else if (attributePrefixes ++ markupPrefixes ++ options.allowedNamespaces).contains before then
    none
  else
    some (s!"'{before}:' is not one of Solid's special prefixes for JSX attributes " ++
      "(on:, oncapture:, use:, prop:, attr:, bool:).")

/-- The text before the first colon. -/
def beforeColon (s : String) : String := String.ofList (s.toList.takeWhile (· != ':'))

/-- The remarks about prefixes of names. -/
def unknownPrefixes (d : Document) (options : PrefixOptions) : List Remark :=
  d.tags.flatMap fun tag => tag.namedAttributes.filterMap fun a =>
    match a.firstPart? with
    | none => none
    | some name =>
      if name.kind = "jsx_namespace_name" then
        (prefixFault? options (d.isNative tag) (beforeColon (d.text name))).map (d.remark name)
      else none

end Document

/-! ## Dangerous values -/

/-- What the rule against raw markup lets pass. -/
structure RawMarkupOptions where
  allowStatic : Bool := true
  deriving DecidableEq, Repr

namespace Document

/-- The text that the value of an attribute is known to be. -/
def attributeText? (d : Document) (attr : Node) : Option String :=
  (attr.attributeExpression?.bind d.staticValue?).bind StaticValue.text?

/-- What is said of raw markup that may be anything. -/
def dangerousMarkup : String :=
  "The innerHTML prop is dangerous; passing unsanitized input can lead to security " ++
  "vulnerabilities. This rule can be disabled or configured to allow static strings."

/-- What is wrong about raw markup with the text given, for a tag. -/
def rawMarkupFault? (d : Document) (tag : Node) (text : Option String) : Option String :=
  match text with
  | none => some dangerousMarkup
  | some s =>
    if !looksLikeMarkup s.toList then
      some "The string passed to innerHTML does not appear to be valid HTML."
    else if d.hasContent tag then
      some "The innerHTML prop will replace the element's children."
    else none

/-- What is wrong about an attribute that may set raw markup. -/
def rawMarkupAttributeFault? (d : Document) (options : RawMarkupOptions) (tag attr : Node) :
    Option String :=
  let name := d.attributeName? attr
  if name = some foreignRawMarkupAttribute then
    some "The dangerouslySetInnerHTML prop is not supported; use innerHTML instead."
  else if name = some rawMarkupAttribute then
    d.rawMarkupFault? tag (if options.allowStatic then d.attributeText? attr else none)
  else none

/-- The remarks about raw markup. -/
def rawMarkup (d : Document) (options : RawMarkupOptions) : List Remark :=
  d.tags.flatMap fun tag => tag.namedAttributes.filterMap fun a =>
    (d.rawMarkupAttributeFault? options tag a).map (d.remark a)

/-- The remarks about addresses that are scripts. -/
def scriptAddresses (d : Document) : List Remark :=
  let found := (d.tags.flatMap Node.namedAttributes).filter fun a =>
    (d.attributeText? a).any isScriptAddress
  found.map fun a =>
    d.remark a "For security, don't use javascript: URLs. Use event handlers instead if you can."

end Document

end CodeConventions
