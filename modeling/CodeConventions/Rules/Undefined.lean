import CodeConventions.Expression.Member
import CodeConventions.Markup.Basic
import CodeConventions.Rules.Remark
import CodeConventions.Scope.Basic
import CodeConventions.Vocabulary.Reactive

/-!
# Names without a declaration

A component or a directive that is used in markup must be declared or imported somewhere around it.
-/

namespace CodeConventions

/-- What the rule on undefined names lets pass, and how it helps. -/
structure UndefinedOptions where
  allowGlobals : Bool := false
  autoImport : Bool := true
  deriving DecidableEq, Repr

namespace Document

/-- The name is declared, or the options say that it need not be. -/
def isDefined (d : Document) (options : UndefinedOptions) (name : Node) : Bool :=
  (options.allowGlobals && Reactive.globalNames.contains (d.text name)) || (d.resolve? name).isSome

/-- What is said of a component that is not defined. -/
def undefinedComponent (options : UndefinedOptions) (name : String) : String :=
  let source :=
    if options.autoImport && Reactive.components.contains name then
      Reactive.moduleOf? Reactive.valueExports name
    else none
  match source with
  | some m => s!"'{name}' should be imported from '{m}'."
  | none => s!"'{name}' is not defined."

/-- The name of a component that a tag begins with. -/
def componentName? (tag : Node) : Option Node :=
  match tag.child? "name" with
  | none => none
  | some name => if name.kind = "jsx_namespace_name" then none else name.rootIdentifier?

/-- The remark about the component that a tag stands for. -/
def undefinedTag? (d : Document) (options : UndefinedOptions) (tag : Node) : Option Remark :=
  match componentName? tag with
  | none => none
  | some name =>
    if isNativeName (d.text name) || d.isDefined options name then none
    else some (d.remark name (undefinedComponent options (d.text name)))

/-- The remarks about an attribute that may be a directive. -/
def undefinedDirective (d : Document) (options : UndefinedOptions) (attr : Node) : Remarks :=
  match attr.firstPart? with
  | none => .error (.absent "type")
  | some name =>
    if name.kind = "jsx_namespace_name" then
      match name.parts with
      | [use, directive] =>
        if d.text use = "use" && !d.isDefined options directive then
          .ok [d.remark directive s!"Custom directive '{d.text directive}' is not defined."]
        else .ok []
      | _ => .ok []
    else .ok []

/-- The remarks about components and directives that are not defined. -/
def undefinedNames (d : Document) (options : UndefinedOptions) : Remarks :=
  (remarksFor (d.tags.flatMap Node.namedAttributes) (d.undefinedDirective options)).map
    (d.tags.filterMap (d.undefinedTag? options) ++ ·)

end Document

end CodeConventions
