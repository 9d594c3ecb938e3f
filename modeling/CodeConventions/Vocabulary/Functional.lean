import CodeConventions.Text.Words

/-!
# The vocabulary of functional rules

Methods that change their receiver, and types by whether they permit change.
-/

namespace CodeConventions

/-- The methods that change an array. -/
def arrayMutators : List String :=
  ["copyWithin", "fill", "pop", "push", "reverse", "shift", "sort", "splice", "unshift"]

/-- The methods that change a map or a set. -/
def collectionMutators : List String := ["add", "clear", "delete", "set"]

/-- The constructors of maps and sets. -/
def collectionConstructors : List String := ["Map", "Set", "WeakMap", "WeakSet"]

/-- The paths of functions that make arrays. -/
def arrayMakers : List String := ["Array", "Array.from", "Array.of"]

/-- The generic types that permit change. -/
def mutableGenericTypes : List String := ["Record", "Array", "Map", "Set", "WeakMap", "WeakSet"]

/-- The generic types that forbid change. -/
def readonlyGenericTypes : List String :=
  ["Readonly", "ReadonlyArray", "ReadonlyMap", "ReadonlySet", "ReadonlyDeep", "DeepReadonly",
    "Immutable"]

/-- The name of a type that is mutable on purpose. -/
def isMutableTypeName (name : String) : Bool :=
  Text.beginsWith "Mutable" name || Text.beginsWith "IMutable" name

end CodeConventions
