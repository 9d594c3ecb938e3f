import CodeConventions.Options.RuleFields
import CodeConventions.Rules.ComponentBody
import CodeConventions.Rules.LibraryUse
import CodeConventions.Rules.OptionOrder
import CodeConventions.Rules.Rendering
import CodeConventions.Rules.RoutePath

/-!
# The checks

A check is one of the rules that the library comes with, together with its options.  Each has a
name, a family, a severity and a description, and can be run on a document.  Many have options,
which can be read from outside and written.
-/

namespace CodeConventions

/-- A rule of the library with its options. -/
inductive Check where
  | reassignableBindings (options : ReassignableOptions)
  | throws (options : ThrowOptions)
  | rejections
  | changesToConstants (options : MutationOptions)
  | writableMembers
  | methodSignatures (options : SignatureOptions)
  | writtenTypes (options : WrittenTypeOptions)
  | declaredTypes (options : DeclaredTypeOptions)
  | componentReturns
  | destructuredComponents
  | reactivity (options : ReactivityOptions)
  | dependencyLists
  | mappedLists
  | conditionalMarkup
  | misplacedImports
  | proxies
  | rawMarkup (options : RawMarkupOptions)
  | repeatedAttributes (options : RepeatedOptions)
  | scriptAddresses
  | foreignNames
  | unknownPrefixes (options : PrefixOptions)
  | eventHandlers (options : HandlerOptions)
  | arrayHandlers
  | undefinedNames (options : UndefinedOptions)
  | emptyElements (options : EmptyElementOptions)
  | styles (options : StyleOptions)
  | joinedClasses (options : ClassListOptions)
  | incompleteKeys (options : QueryKeyOptions)
  | infiniteQueryOptions
  | mutationOptions
  | gatheredResults
  | unstableDependencies
  | renderedClients
  | routeOptions
  | routeParameters
  deriving DecidableEq, Repr

/-- What a rule is known by. -/
structure RuleInfo where
  id : String
  category : Category
  severity : Severity
  description : String
  deriving DecidableEq, Repr, Inhabited

namespace Check

/-- All checks with their default options, in order. -/
def all : List Check :=
  [.reassignableBindings {}, .throws {}, .rejections, .changesToConstants {}, .writableMembers,
    .methodSignatures {}, .writtenTypes {}, .declaredTypes {}, .componentReturns,
    .destructuredComponents, .reactivity {}, .dependencyLists, .mappedLists, .conditionalMarkup,
    .misplacedImports, .proxies, .rawMarkup {}, .repeatedAttributes {}, .scriptAddresses,
    .foreignNames, .unknownPrefixes {}, .eventHandlers {}, .arrayHandlers, .undefinedNames {},
    .emptyElements {}, .styles {}, .joinedClasses {}, .incompleteKeys {}, .infiniteQueryOptions,
    .mutationOptions, .gatheredResults, .unstableDependencies, .renderedClients, .routeOptions,
    .routeParameters]

/-- What the check is known by. -/
def info : Check → RuleInfo
  | .reassignableBindings _ =>
    ⟨"functional/no-let", .functional, .error, "Disallow mutable variable bindings"⟩
  | .throws _ =>
    ⟨"functional/no-throw-statements", .functional, .error, "Disallow throw statements"⟩
  | .rejections =>
    ⟨"functional/no-promise-reject", .functional, .error, "Disallow rejecting promises"⟩
  | .changesToConstants _ =>
    ⟨"functional/immutable-data", .functional, .error, "Disallow mutating const-bound values"⟩
  | .writableMembers =>
    ⟨"functional/readonly-type", .functional, .error,
      "Require readonly members in declared type shapes"⟩
  | .methodSignatures _ =>
    ⟨"functional/prefer-property-signatures", .functional, .error,
      "Prefer property signatures over method signatures"⟩
  | .writtenTypes _ =>
    ⟨"functional/prefer-immutable-types", .functional, .error,
      "Require readonly parameter, return and variable types"⟩
  | .declaredTypes _ =>
    ⟨"functional/type-declaration-immutability", .functional, .warning,
      "Require declared types to be fully readonly"⟩
  | .componentReturns =>
    ⟨"solid/components-return-once", .reactiveComponent, .error,
      "Components must have a single final return"⟩
  | .destructuredComponents =>
    ⟨"solid/no-destructure", .reactiveComponent, .error,
      "Disallow destructuring component props"⟩
  | .reactivity _ =>
    ⟨"solid/reactivity", .reactiveComponent, .warning,
      "Require reactive values to be read where changes are tracked"⟩
  | .dependencyLists =>
    ⟨"solid/no-react-deps", .reactiveComponent, .error,
      "Disallow dependency arrays on auto-tracking primitives"⟩
  | .mappedLists =>
    ⟨"solid/prefer-for", .reactiveComponent, .error, "Prefer <For /> over Array#map in markup"⟩
  | .conditionalMarkup =>
    ⟨"solid/prefer-show", .reactiveComponent, .warning,
      "Prefer <Show /> over inline conditionals in markup"⟩
  | .misplacedImports =>
    ⟨"solid/imports", .reactiveComponent, .warning,
      "Import Solid primitives from their own entry point"⟩
  | .proxies =>
    ⟨"solid/no-proxy-apis", .reactiveComponent, .error,
      "Disallow APIs that require Proxy support"⟩
  | .rawMarkup _ =>
    ⟨"solid/no-innerhtml", .reactiveComponent, .error, "Disallow unsafe raw HTML props"⟩
  | .repeatedAttributes _ =>
    ⟨"solid/jsx-no-duplicate-props", .reactiveComponent, .error,
      "Disallow duplicate props on one element"⟩
  | .scriptAddresses =>
    ⟨"solid/jsx-no-script-url", .reactiveComponent, .error, "Disallow javascript: URLs"⟩
  | .foreignNames =>
    ⟨"solid/no-react-specific-props", .reactiveComponent, .warning,
      "Disallow React-specific prop names"⟩
  | .unknownPrefixes _ =>
    ⟨"solid/no-unknown-namespaces", .reactiveComponent, .error,
      "Disallow unknown attribute namespaces"⟩
  | .eventHandlers _ =>
    ⟨"solid/event-handlers", .reactiveComponent, .warning,
      "Require unambiguous event handler props"⟩
  | .arrayHandlers =>
    ⟨"solid/no-array-handlers", .reactiveComponent, .error, "Disallow array event handlers"⟩
  | .undefinedNames _ =>
    ⟨"solid/jsx-no-undef", .reactiveComponent, .error,
      "Disallow undefined components and directives"⟩
  | .emptyElements _ =>
    ⟨"solid/self-closing-comp", .reactiveComponent, .warning,
      "Require self-closing empty elements"⟩
  | .styles _ =>
    ⟨"solid/style-prop", .reactiveComponent, .warning, "Require valid style objects"⟩
  | .joinedClasses _ =>
    ⟨"solid/prefer-classlist", .reactiveComponent, .warning,
      "Prefer classList over classnames helpers"⟩
  | .incompleteKeys _ =>
    ⟨"query/exhaustive-deps", .dataFetchingHook, .error,
      "Require every query function dependency in the query key"⟩
  | .infiniteQueryOptions =>
    ⟨"query/infinite-query-property-order", .dataFetchingHook, .error,
      "Enforce infinite query option order"⟩
  | .mutationOptions =>
    ⟨"query/mutation-property-order", .dataFetchingHook, .error,
      "Enforce mutation option order"⟩
  | .gatheredResults =>
    ⟨"query/no-rest-destructuring", .dataFetchingHook, .warning,
      "Disallow rest destructuring of query results"⟩
  | .unstableDependencies =>
    ⟨"query/no-unstable-deps", .dataFetchingHook, .error,
      "Disallow whole query results in dependency arrays"⟩
  | .renderedClients =>
    ⟨"query/stable-query-client", .dataFetchingHook, .error, "Require a stable QueryClient"⟩
  | .routeOptions =>
    ⟨"router/create-route-property-order", .router, .warning, "Enforce route option order"⟩
  | .routeParameters =>
    ⟨"router/route-param-names", .router, .error, "Require valid route parameter names"⟩

/-- What the check has to say about a document. -/
def remarks (d : Document) : Check → Remarks
  | .reassignableBindings options => d.reassignableBindings options
  | .throws options => .ok (d.throws options)
  | .rejections => .ok d.rejections
  | .changesToConstants options => d.changesToConstants options
  | .writableMembers => .ok d.writableMembers
  | .methodSignatures options => .ok (d.methodSignatures options)
  | .writtenTypes options => d.writtenTypes options
  | .declaredTypes options => d.declaredTypes options
  | .componentReturns => .ok d.componentReturns
  | .destructuredComponents => .ok d.destructuredComponents
  | .reactivity options => .ok (d.reactivity options)
  | .dependencyLists => .ok d.dependencyLists
  | .mappedLists => .ok d.mappedLists
  | .conditionalMarkup => .ok d.conditionalMarkup
  | .misplacedImports => .ok d.misplacedImports
  | .proxies => .ok d.proxies
  | .rawMarkup options => .ok (d.rawMarkup options)
  | .repeatedAttributes options => d.repeatedAttributes options
  | .scriptAddresses => .ok d.scriptAddresses
  | .foreignNames => .ok d.foreignNames
  | .unknownPrefixes options => .ok (d.unknownPrefixes options)
  | .eventHandlers options => d.eventHandlers options
  | .arrayHandlers => d.arrayHandlers
  | .undefinedNames options => d.undefinedNames options
  | .emptyElements options => .ok (d.emptyElements options)
  | .styles options => .ok (d.styles options)
  | .joinedClasses options => .ok (d.joinedClasses options)
  | .incompleteKeys options => .ok (d.incompleteKeys options)
  | .infiniteQueryOptions => .ok d.infiniteQueryOptions
  | .mutationOptions => .ok d.mutationOptions
  | .gatheredResults => .ok d.gatheredResults
  | .unstableDependencies => .ok d.unstableDependencies
  | .renderedClients => .ok d.renderedClients
  | .routeOptions => .ok d.routeOptions
  | .routeParameters => .ok d.routeParameters

/-- What the check finds in a document. -/
def findings (d : Document) (c : Check) : Except Crash (List Finding) :=
  (c.remarks d).map fun rs => rs.map (Remark.toFinding c.info.id)

/-! ## Options -/

/-- A check as a function of its options: their fields, their defaults and their values. -/
structure Configurable where
  {Options : Type}
  fields : List (Field Options)
  defaults : Options
  options : Options
  make : Options → Check

/-- The options of the check, if it has any. -/
def configurable? : Check → Option Configurable
  | .reassignableBindings o => some ⟨ReassignableOptions.fields, {}, o, .reassignableBindings⟩
  | .throws o => some ⟨ThrowOptions.fields, {}, o, .throws⟩
  | .changesToConstants o => some ⟨MutationOptions.fields, {}, o, .changesToConstants⟩
  | .methodSignatures o => some ⟨SignatureOptions.fields, {}, o, .methodSignatures⟩
  | .writtenTypes o => some ⟨WrittenTypeOptions.fields, {}, o, .writtenTypes⟩
  | .declaredTypes o => some ⟨DeclaredTypeOptions.fields, {}, o, .declaredTypes⟩
  | .reactivity o => some ⟨ReactivityOptions.fields, {}, o, .reactivity⟩
  | .rawMarkup o => some ⟨RawMarkupOptions.fields, {}, o, .rawMarkup⟩
  | .repeatedAttributes o => some ⟨RepeatedOptions.fields, {}, o, .repeatedAttributes⟩
  | .unknownPrefixes o => some ⟨PrefixOptions.fields, {}, o, .unknownPrefixes⟩
  | .eventHandlers o => some ⟨HandlerOptions.fields, {}, o, .eventHandlers⟩
  | .undefinedNames o => some ⟨UndefinedOptions.fields, {}, o, .undefinedNames⟩
  | .emptyElements o => some ⟨EmptyElementOptions.fields, {}, o, .emptyElements⟩
  | .styles o => some ⟨StyleOptions.fields, {}, o, .styles⟩
  | .joinedClasses o => some ⟨ClassListOptions.fields, {}, o, .joinedClasses⟩
  | .incompleteKeys o => some ⟨QueryKeyOptions.fields, {}, o, .incompleteKeys⟩
  | _ => none

/-- The options of the check as they are written, if it has any. -/
def writtenOptions? (c : Check) : Option Json :=
  c.configurable?.map fun k => .object (Field.writeRecord k.fields k.options)

/-- The check with options read from entries; none if it takes no options. -/
def configure? (c : Check) (entries : Json.Entries) : Option (Checked Check) :=
  c.configurable?.map fun k => (Field.readRecord k.fields k.defaults entries).map k.make

theorem info_all_nodup : (all.map fun c => c.info.id).Nodup := by decide

end Check

end CodeConventions
