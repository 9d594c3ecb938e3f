import CodeConventions.Text.Words

/-!
# The vocabulary of markup

The elements that a browser knows, the attributes and attribute prefixes that mean something
special, and the names of events.
-/

namespace CodeConventions

/-- The elements that a browser knows. -/
def htmlElements : List String :=
  ["a", "abbr", "address", "area", "article", "aside", "audio", "b", "base", "bdi", "bdo",
   "blockquote", "body", "br", "button", "canvas", "caption", "cite", "code", "col", "colgroup",
   "data", "datalist", "dd", "del", "details", "dfn", "dialog", "div", "dl", "dt", "em", "embed",
   "fieldset", "figcaption", "figure", "footer", "form", "h1", "h2", "h3", "h4", "h5", "h6",
   "head", "header", "hgroup", "hr", "html", "i", "iframe", "img", "input", "ins", "kbd",
   "label", "legend", "li", "link", "main", "map", "mark", "menu", "meta", "meter", "nav",
   "noscript", "object", "ol", "optgroup", "option", "output", "p", "param", "picture", "pre",
   "progress", "q", "rp", "rt", "ruby", "s", "samp", "script", "search", "section", "select",
   "slot", "small", "source", "span", "strong", "style", "sub", "summary", "sup", "svg", "table",
   "tbody", "td", "template", "textarea", "tfoot", "th", "thead", "time", "title", "tr", "track",
   "u", "ul", "var", "video", "wbr"]

/-- The elements that cannot have children. -/
def voidElements : List String :=
  ["area", "base", "br", "col", "embed", "hr", "img", "input", "link", "meta", "param", "source",
   "track", "wbr"]

/-- The name is that of an element the browser knows, or written like one. -/
def isNativeName (name : String) : Bool := Text.startsLower name || htmlElements.contains name

/-- Attributes of another library, each with the native name for it. -/
def foreignAttributes : List (String × String) := [("className", "class"), ("htmlFor", "for")]

/-- The attribute of another library that sets the markup inside an element. -/
def foreignRawMarkupAttribute : String := "dangerouslySetInnerHTML"

/-- The attribute that sets the markup inside an element. -/
def rawMarkupAttribute : String := "innerHTML"

/-- The prefixes that give an attribute of an element a meaning of its own. -/
def attributePrefixes : List String := ["on", "oncapture", "use", "prop", "attr", "bool"]

/-- The prefixes that also exist as attributes. -/
def styleAttributePrefixes : List String := ["style", "class"]

/-- The prefixes of the markup language itself. -/
def markupPrefixes : List String := ["xmlns", "xlink"]

/-- The common events, as the names of their handlers. -/
def commonEvents : List String :=
  ["onAnimationEnd", "onAnimationIteration", "onAnimationStart", "onBeforeInput", "onBlur",
   "onChange", "onClick", "onContextMenu", "onCopy", "onCut", "onDblClick", "onDrag",
   "onDragEnd", "onDragEnter", "onDragExit", "onDragLeave", "onDragOver", "onDragStart",
   "onDrop", "onError", "onFocus", "onFocusIn", "onFocusOut", "onGotPointerCapture", "onInput",
   "onInvalid", "onKeyDown", "onKeyPress", "onKeyUp", "onLoad", "onLostPointerCapture",
   "onMouseDown", "onMouseEnter", "onMouseLeave", "onMouseMove", "onMouseOut", "onMouseOver",
   "onMouseUp", "onPaste", "onPointerCancel", "onPointerDown", "onPointerEnter",
   "onPointerLeave", "onPointerMove", "onPointerOut", "onPointerOver", "onPointerUp", "onReset",
   "onScroll", "onSelect", "onSubmit", "onToggle", "onTouchCancel", "onTouchEnd", "onTouchMove",
   "onTouchStart", "onTransitionEnd", "onWheel"]

/-- The common event that a lower-case name stands for. -/
def commonEvent? (lowered : String) : Option String :=
  commonEvents.find? fun e => Text.lower e == lowered

/-- The handler that a lower-case name of no event stands for. -/
def renamedEvent? (lowered : String) : Option String :=
  if lowered = "ondoubleclick" then some "onDblClick" else none

/-- The name is that of an event handler. -/
def isHandlerName (name : String) : Bool := Text.continuesWith "on" Text.isLatinLetter name

/-- The name is that of an event handler, possibly with a colon after the `on`. -/
def isHandlerOrPrefixed (name : String) : Bool :=
  Text.continuesWith "on" (fun c => c == ':' || Text.isLatinLetter c) name

/-- The letters of the word, each after any number of line ends and tabs; what follows. -/
def afterScattered? : List Char → List Char → Option (List Char)
  | [], cs => some cs
  | w :: ws, cs =>
    match cs.dropWhile fun c => c == '\r' || c == '\n' || c == '\t' with
    | c :: rest => if Text.foldCase c = w then afterScattered? ws rest else none
    | [] => none

/-- The text is an address that runs a script. -/
def isScriptAddress (s : String) : Bool :=
  match s.toList.dropWhile fun c => c.toNat ≤ 32 with
  | c :: rest =>
    Text.foldCase c == 'j' && (afterScattered? "avascript".toList rest).any fun rest =>
      (rest.dropWhile fun c => c == '\r' || c == '\n' || c == '\t').head? == some ':'
  | [] => false

/-- A tag seems to open at the beginning of the text, and something closes it. -/
def tagOpensHere : List Char → Bool
  | '<' :: c :: rest => Text.isLatinLower (Text.foldCase c) && rest.contains '>'
  | _ => false

/-- A tag seems to open somewhere in the text, and something closes it. -/
def looksLikeMarkup : List Char → Bool
  | [] => false
  | c :: rest => tagOpensHere (c :: rest) || looksLikeMarkup rest

/-- The functions that join class names. -/
def classNameHelpers : List String := ["cn", "clsx", "classnames"]

end CodeConventions
