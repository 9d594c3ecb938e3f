import CodeConventions.Expression.ObjectLiteral
import CodeConventions.Markup.Basic
import CodeConventions.Rules.Remark
import CodeConventions.Scope.Constant

/-!
# Event handlers

An attribute of a native element whose name begins with `on` and a letter is a handler, and must
look like one: its value is no text or number, and its name is spelled like the event.
-/

namespace CodeConventions

/-- What the rule on event handlers looks at. -/
structure HandlerOptions where
  ignoreCase : Bool := false
  warnOnSpread : Bool := false
  deriving DecidableEq, Repr

/-- The text of a value that is a text or a number, if it is one. -/
def StaticValue.plainText? : StaticValue → Except Crash (Option String)
  | .text s => .ok (some s)
  | .number x =>
    match x.toText? with
    | some s => .ok (some s)
    | none => .error .longNumber
  | _ => .ok none

/-- The name with a capital letter after its first two characters. -/
def capitalizedHandler (name : String) : String :=
  match name.toList with
  | a :: b :: c :: rest => String.ofList (a :: b :: c.toUpper :: rest)
  | _ => name

/-- The third character of the name is a small letter. -/
def isAmbiguousHandler (name : String) : Bool :=
  (name.toList[2]?).any Text.isLatinLower

/-- The proper spelling of the name of an event handler, if the name is known by another one. -/
def properHandler? (name : String) : Option String :=
  let lowered := Text.lower name
  match renamedEvent? lowered with
  | some proper => some proper
  | none => (commonEvent? lowered).filter (· != name)

/-- What is wrong about the name of a handler. -/
def handlerNameFault? (name : String) : Option String :=
  match properHandler? name with
  | some proper => some s!"The {name} prop should be renamed to {proper} for readability."
  | none =>
    if isAmbiguousHandler name then
      some (s!"Ambiguous prop name: '{name}'. Rename to '{capitalizedHandler name}' to be " ++
        s!"handled as an event handler, or to 'attr:{name}' to be treated as a regular attribute.")
    else none

namespace Document

/-! ## Handlers that are spread -/

/-- The object that an attribute spreads, when it is written out. -/
def spreadLiteral? (attr : Node) : Option Node :=
  ((attr.braced?.bind Node.firstPart?).map Node.unwrap).filter fun o => o.kind == "object"

/-- The remark about a property that is a handler. -/
def spreadHandler? (d : Document) (p : Property) : Option Remark :=
  match p.name, p.key with
  | some name, some key =>
    if !p.spread && key.kind != "computed_property_name" && Text.beginsWith "on" name then
      some (d.remark p.node (s!"The {name} prop should be added as a JSX attribute, not spread " ++
        "in. Solid doesn't add listeners when spreading into JSX."))
    else none
  | _, _ => none

/-- The remarks about handlers in objects that a tag spreads. -/
def spreadHandlers (d : Document) (tag : Node) : List Remark :=
  ((tag.attributes.filterMap spreadLiteral?).flatMap d.properties).filterMap d.spreadHandler?

/-! ## Handlers that are attributes -/

/-- What is said of a handler whose value is a text or a number. -/
def plainHandlerValue (name : String) (value : Option String) : String :=
  let shown :=
    match value with
    | some s => s!" ({s})"
    | none => ""
  s!"The {name} prop is named as an event handler (starts with 'on'), but Solid knows its " ++
  s!"value{shown} is a string or number, so it will be treated as an attribute. " ++
  s!"If this is intentional, name this prop attr:{name}."

/-- The text or number that the value of an attribute is, and whether it is one. -/
def plainValue (d : Document) (attr : Node) : Except Crash (Bool × Option String) :=
  match attr.attributeValue?, attr.attributeExpression?.bind d.staticValue? with
  -- an attribute without a value is as good as a text
  | none, _ => .ok (true, none)
  | some written, none => .ok (written.kind == "string", none)
  | some written, some value =>
    value.plainText?.map fun text => (written.kind == "string" || text.isSome, text)

/-- The remarks about an attribute with a name. -/
def handler (d : Document) (options : HandlerOptions) (attr name : Node) : Remarks :=
  let text := d.text name
  if name.kind = "jsx_namespace_name" || !isHandlerName text then .ok []
  else
    (d.plainValue attr).map fun (isPlain, value) =>
      if isPlain then [d.remark attr (plainHandlerValue text value)]
      else if options.ignoreCase then []
      else ((handlerNameFault? text).map (d.remark name)).toList

/-- The remarks about the handlers of a native element. -/
def handlersOf (d : Document) (options : HandlerOptions) (tag : Node) : Remarks :=
  let spread := if options.warnOnSpread then d.spreadHandlers tag else []
  let named := remarksFor tag.namedAttributes fun a =>
    match a.firstPart? with
    | some name => d.handler options a name
    | none => .ok []
  named.map (spread ++ ·)

/-- The remarks about event handlers. -/
def eventHandlers (d : Document) (options : HandlerOptions) : Remarks :=
  remarksFor (d.tags.filter d.isNative) (d.handlersOf options)

/-! ## Arrays as handlers -/

/-- The remarks about an attribute that may be a handler. -/
def arrayHandler (d : Document) (attr : Node) : Remarks :=
  match d.attributeName? attr with
  | none => .error .absentText
  | some name =>
    if isHandlerOrPrefixed name && attr.attributeExpression?.any fun v => v.kind == "array" then
      .ok [d.remark attr "Passing an array as an event handler is potentially confusing."]
    else .ok []

/-- The remarks about handlers that are arrays. -/
def arrayHandlers (d : Document) : Remarks :=
  remarksFor ((d.tags.filter d.isNative).flatMap Node.namedAttributes) d.arrayHandler

end Document

end CodeConventions
