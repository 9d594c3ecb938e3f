import CodeConventions.Options.Field
import CodeConventions.Rules.Attribute
import CodeConventions.Rules.Binding
import CodeConventions.Rules.EmptyElement
import CodeConventions.Rules.EventHandler
import CodeConventions.Rules.Mutation
import CodeConventions.Rules.QueryHook
import CodeConventions.Rules.Reactivity.Read
import CodeConventions.Rules.Rejection
import CodeConventions.Rules.StyleAttribute
import CodeConventions.Rules.TypeShape
import CodeConventions.Rules.Undefined

/-!
# The options of rules

The fields of each record of options, in the order in which they are written.
-/

namespace CodeConventions

open CodeConventions.Field

/-- The fields of the options on reassignable bindings. -/
def ReassignableOptions.fields : List (Field ReassignableOptions) :=
  [flag "allowInForLoopInit" (·.allowInForLoopInit) fun b o => { o with allowInForLoopInit := b },
    texts "ignoreIdentifierPattern" (·.ignoreIdentifierPattern) fun xs o =>
      { o with ignoreIdentifierPattern := xs }]

/-- The fields of the options on throwing. -/
def ThrowOptions.fields : List (Field ThrowOptions) :=
  [flag "allowInAsyncFunctions" (·.allowInAsyncFunctions) fun b o =>
    { o with allowInAsyncFunctions := b }]

/-- The fields of the options on changes to constants. -/
def MutationOptions.fields : List (Field MutationOptions) :=
  [texts "ignoreIdentifierPattern" (·.ignoreIdentifierPattern) fun xs o =>
      { o with ignoreIdentifierPattern := xs },
    flag "ignoreClasses" (·.ignoreClasses) fun b o => { o with ignoreClasses := b },
    flag "ignoreMapsAndSets" (·.ignoreMapsAndSets) fun b o => { o with ignoreMapsAndSets := b }]

/-- The fields of the options on method signatures. -/
def SignatureOptions.fields : List (Field SignatureOptions) :=
  [flag "ignoreIfReadonlyWrapped" (·.ignoreIfReadonlyWrapped) fun b o =>
    { o with ignoreIfReadonlyWrapped := b }]

/-- The names of the degrees of strictness. -/
def Enforcement.names : List (String × Enforcement) :=
  [("ReadonlyShallow", .readonlyShallow), ("None", .off)]

/-- The fields of the options on a family of written types. -/
def TypeFamilyOptions.fields : List (Field TypeFamilyOptions) :=
  [choice "enforcement" Enforcement.names (·.enforcement) fun e o => { o with enforcement := e },
    texts "ignoreNamePattern" (·.ignoreNamePattern) fun xs o => { o with ignoreNamePattern := xs }]

/-- A field that is a family of written types. -/
def typeFamily {σ : Type} (name : String) (get : σ → TypeFamilyOptions)
    (set : TypeFamilyOptions → σ → σ) : Field σ :=
  record name .notTypeFamily TypeFamilyOptions.fields {} get set

/-- The fields of the options on written types. -/
def WrittenTypeOptions.fields : List (Field WrittenTypeOptions) :=
  [typeFamily "parameters" (·.parameters) fun f o => { o with parameters := f },
    typeFamily "returnTypes" (·.returnTypes) fun f o => { o with returnTypes := f },
    typeFamily "variables" (·.variableTypes) fun f o => { o with variableTypes := f }]

/-- The fields of the options on declared types. -/
def DeclaredTypeOptions.fields : List (Field DeclaredTypeOptions) :=
  [texts "identifiers" (·.identifiers) fun xs o => { o with identifiers := xs },
    flag "ignoreInterfaces" (·.ignoreInterfaces) fun b o => { o with ignoreInterfaces := b }]

/-- The fields of the options on reactive variables. -/
def ReactivityOptions.fields : List (Field ReactivityOptions) :=
  [texts "customReactiveFunctions" (·.customReactiveFunctions) fun xs o =>
    { o with customReactiveFunctions := xs }]

/-- The fields of the options on raw markup. -/
def RawMarkupOptions.fields : List (Field RawMarkupOptions) :=
  [flag "allowStatic" (·.allowStatic) fun b o => { o with allowStatic := b }]

/-- The fields of the options on repeated attributes. -/
def RepeatedOptions.fields : List (Field RepeatedOptions) :=
  [flag "ignoreCase" (·.ignoreCase) fun b o => { o with ignoreCase := b }]

/-- The fields of the options on prefixes of attributes. -/
def PrefixOptions.fields : List (Field PrefixOptions) :=
  [texts "allowedNamespaces" (·.allowedNamespaces) fun xs o => { o with allowedNamespaces := xs }]

/-- The fields of the options on event handlers. -/
def HandlerOptions.fields : List (Field HandlerOptions) :=
  [flag "ignoreCase" (·.ignoreCase) fun b o => { o with ignoreCase := b },
    flag "warnOnSpread" (·.warnOnSpread) fun b o => { o with warnOnSpread := b }]

/-- The fields of the options on undefined names. -/
def UndefinedOptions.fields : List (Field UndefinedOptions) :=
  [flag "allowGlobals" (·.allowGlobals) fun b o => { o with allowGlobals := b },
    flag "autoImport" (·.autoImport) fun b o => { o with autoImport := b }]

/-- The names of the components that must be written as one tag. -/
def ComponentClosing.names : List (String × ComponentClosing) := [("all", .all), ("none", .off)]

/-- The names of the native elements that must be written as one tag. -/
def NativeClosing.names : List (String × NativeClosing) :=
  [("all", .all), ("void", .void), ("none", .off)]

/-- The fields of the options on elements without children. -/
def EmptyElementOptions.fields : List (Field EmptyElementOptions) :=
  [choice "component" ComponentClosing.names (·.component) fun c o => { o with component := c },
    choice "html" NativeClosing.names (·.html) fun c o => { o with html := c }]

/-- The fields of the options on styles. -/
def StyleOptions.fields : List (Field StyleOptions) :=
  [texts "styleProps" (·.styleProps) fun xs o => { o with styleProps := xs },
    flag "allowString" (·.allowString) fun b o => { o with allowString := b }]

/-- The fields of the options on joined classes. -/
def ClassListOptions.fields : List (Field ClassListOptions) :=
  [texts "classnames" (·.classnames) fun xs o => { o with classnames := xs }]

/-- The fields of the options on the keys of queries. -/
def QueryKeyOptions.fields : List (Field QueryKeyOptions) :=
  [texts "allowlist" (·.allowlist) fun xs o => { o with allowlist := xs }]

end CodeConventions
