import CodeConventions.Text.Words

/-!
# The vocabulary of styles

The properties that a style may set, and the spelling of their names.
-/

namespace CodeConventions

/-- The properties of styles. -/
def styleProperties : List String :=
  ["display", "position", "top", "right", "bottom", "left", "float", "clear", "z-index",
   "overflow", "overflow-x", "overflow-y", "overflow-wrap", "visibility", "opacity", "clip",
   "clip-path", "inset", "inset-block", "inset-block-start", "inset-block-end", "inset-inline",
   "inset-inline-start", "inset-inline-end", "flex", "flex-basis", "flex-direction", "flex-flow",
   "flex-grow", "flex-shrink", "flex-wrap", "order", "justify-content", "justify-items",
   "justify-self", "align-content", "align-items", "align-self", "place-content", "place-items",
   "place-self", "grid", "grid-area", "grid-auto-columns", "grid-auto-flow", "grid-auto-rows",
   "grid-column", "grid-column-end", "grid-column-gap", "grid-column-start", "grid-gap",
   "grid-row", "grid-row-end", "grid-row-gap", "grid-row-start", "grid-template",
   "grid-template-areas", "grid-template-columns", "grid-template-rows", "gap", "row-gap",
   "column-gap", "width", "height", "min-width", "max-width", "min-height", "max-height",
   "inline-size", "block-size", "min-inline-size", "max-inline-size", "min-block-size",
   "max-block-size", "box-sizing", "aspect-ratio", "margin", "margin-top", "margin-right",
   "margin-bottom", "margin-left", "margin-block", "margin-block-start", "margin-block-end",
   "margin-inline", "margin-inline-start", "margin-inline-end", "padding", "padding-top",
   "padding-right", "padding-bottom", "padding-left", "padding-block", "padding-block-start",
   "padding-block-end", "padding-inline", "padding-inline-start", "padding-inline-end", "border",
   "border-top", "border-right", "border-bottom", "border-left", "border-width",
   "border-top-width", "border-right-width", "border-bottom-width", "border-left-width",
   "border-style", "border-top-style", "border-right-style", "border-bottom-style",
   "border-left-style", "border-color", "border-top-color", "border-right-color",
   "border-bottom-color", "border-left-color", "border-radius", "border-top-left-radius",
   "border-top-right-radius", "border-bottom-left-radius", "border-bottom-right-radius",
   "border-start-start-radius", "border-start-end-radius", "border-end-start-radius",
   "border-end-end-radius", "border-image", "border-image-outset", "border-image-repeat",
   "border-image-slice", "border-image-source", "border-image-width", "border-collapse",
   "border-spacing", "border-block", "border-block-color", "border-block-style",
   "border-block-width", "border-block-start", "border-block-end", "border-inline",
   "border-inline-color", "border-inline-style", "border-inline-width", "border-inline-start",
   "border-inline-end", "outline", "outline-color", "outline-offset", "outline-style",
   "outline-width", "box-shadow", "background", "background-attachment", "background-blend-mode",
   "background-clip", "background-color", "background-image", "background-origin",
   "background-position", "background-position-x", "background-position-y", "background-repeat",
   "background-size", "color", "font", "font-family", "font-feature-settings", "font-kerning",
   "font-size", "font-size-adjust", "font-stretch", "font-style", "font-synthesis",
   "font-variant", "font-variant-caps", "font-variant-ligatures", "font-variant-numeric",
   "font-variation-settings", "font-weight", "letter-spacing", "line-break", "line-height",
   "text-align", "text-align-last", "text-decoration", "text-decoration-color",
   "text-decoration-line", "text-decoration-style", "text-decoration-thickness", "text-emphasis",
   "text-indent", "text-justify", "text-orientation", "text-overflow", "text-rendering",
   "text-shadow", "text-transform", "text-underline-offset", "text-underline-position",
   "white-space", "word-break", "word-spacing", "word-wrap", "writing-mode", "direction",
   "unicode-bidi", "hyphens", "tab-size", "quotes", "list-style", "list-style-image",
   "list-style-position", "list-style-type", "table-layout", "caption-side", "empty-cells",
   "vertical-align", "transform", "transform-box", "transform-origin", "transform-style",
   "translate", "rotate", "scale", "perspective", "perspective-origin", "backface-visibility",
   "animation", "animation-delay", "animation-direction", "animation-duration",
   "animation-fill-mode", "animation-iteration-count", "animation-name", "animation-play-state",
   "animation-timing-function", "transition", "transition-delay", "transition-duration",
   "transition-property", "transition-timing-function", "filter", "backdrop-filter",
   "mix-blend-mode", "isolation", "will-change", "object-fit", "object-position", "resize",
   "contain", "content", "counter-increment", "counter-reset", "counter-set", "container",
   "container-name", "container-type", "scroll-behavior", "scroll-margin", "scroll-padding",
   "scroll-snap-align", "scroll-snap-stop", "scroll-snap-type", "overscroll-behavior",
   "overscroll-behavior-x", "overscroll-behavior-y", "columns", "column-count", "column-fill",
   "column-rule", "column-rule-color", "column-rule-style", "column-rule-width", "column-span",
   "column-width", "break-after", "break-before", "break-inside", "page-break-after",
   "page-break-before", "page-break-inside", "orphans", "widows", "cursor", "caret-color",
   "pointer-events", "touch-action", "user-select", "appearance", "accent-color", "color-scheme",
   "all", "image-rendering", "mask", "mask-clip", "mask-composite", "mask-image", "mask-mode",
   "mask-origin", "mask-position", "mask-repeat", "mask-size", "mask-type",
   "shape-image-threshold", "shape-margin", "shape-outside", "-webkit-appearance",
   "-webkit-font-smoothing", "-webkit-line-clamp", "-webkit-overflow-scrolling",
   "-webkit-tap-highlight-color", "-webkit-text-fill-color", "-webkit-text-stroke",
   "-webkit-text-size-adjust", "-moz-appearance", "-moz-osx-font-smoothing",
   "-ms-overflow-style", "fill", "fill-opacity", "fill-rule", "stroke", "stroke-dasharray",
   "stroke-dashoffset", "stroke-linecap", "stroke-linejoin", "stroke-miterlimit",
   "stroke-opacity", "stroke-width", "paint-order", "dominant-baseline", "text-anchor"]

/-- The property has a length for its value. -/
def isLengthProperty (name : String) : Bool :=
  Text.hasWord ["width", "height", "margin", "padding", "border-width", "font-size"] name

/-- A name with every capital letter written as a hyphen and the small letter. -/
def kebabCase (name : String) : String :=
  String.ofList (name.toList.flatMap fun c =>
    if Text.isLatinUpper c then ['-', c.toLower] else [c])

end CodeConventions
