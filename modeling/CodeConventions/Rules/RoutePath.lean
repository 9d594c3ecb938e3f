import CodeConventions.Rules.Remark
import CodeConventions.Text.Lines
import CodeConventions.Vocabulary.DataFetching

/-!
# Parameters in the paths of routes

A path consists of segments between slashes.  A parameter is written in braces after a dollar sign,
with or without a hyphen before it, anywhere in a segment; or it is a whole segment that begins with
a dollar sign, if nothing in the segment is in braces.  Its name must be an identifier.  A parameter
without a name stands for the rest of the path.
-/

namespace CodeConventions

/-- A parameter in a path, with the characters that it takes up. -/
structure PathParameter where
  name : String
  start : Nat
  stop : Nat
  deriving DecidableEq, Repr

namespace PathParameter

/-- The name in a parameter in braces that a text begins with, and the length of the parameter. -/
def braced? (cs : List Char) : Option (List Char × Nat) :=
  let upToBrace (taken : Nat) (rest : List Char) : Option (List Char × Nat) :=
    let name := rest.takeWhile (· != '\x7d')
    if name.length < rest.length then some (name, taken + name.length + 1) else none
  match cs with
  | '\x7b' :: '-' :: '$' :: rest => upToBrace 3 rest
  | '\x7b' :: '$' :: rest => upToBrace 2 rest
  | _ => none

/-- The parameters in braces in a text that begins at an offset, after `skipped` characters. -/
def bracedFrom (offset : Nat) : Nat → List Char → List PathParameter
  | _, [] => []
  | k + 1, _ :: cs => bracedFrom (offset + 1) k cs
  | 0, c :: cs =>
    match braced? (c :: cs) with
    | some (name, length) =>
      ⟨String.ofList name, offset, offset + length⟩ :: bracedFrom (offset + 1) (length - 1) cs
    | none => bracedFrom (offset + 1) 0 cs

/-- The parameters in a segment that begins at an offset. -/
def ofSegment (offset : Nat) (segment : List Char) : List PathParameter :=
  match bracedFrom offset 0 segment with
  | [] =>
    match segment with
    -- a dollar sign counts only where nothing in the segment is in braces
    | '$' :: name =>
      if name.isEmpty then [] else [⟨String.ofList name, offset, offset + segment.length⟩]
    | _ => []
  | found => found

/-- The parameters in some segments, the first of which begins at an offset. -/
def ofSegments (offset : Nat) : List (List Char) → List PathParameter
  | [] => []
  | s :: rest => ofSegment offset s ++ ofSegments (offset + s.length + 1) rest

/-- The parameters in a path, from left to right. -/
def inPath (path : String) : List PathParameter :=
  ofSegments 0 (Text.splitAtChar '/' path.toList)

/-- The character may begin an identifier. -/
def beginsIdentifier (c : Char) : Bool := Text.isLatinLetter c || c == '_'

/-- The name is an identifier, possibly with a line feed after it. -/
def isIdentifier (name : String) : Bool :=
  match (Text.dropFinalLineFeed name).toList with
  | [] => false
  | c :: rest =>
    beginsIdentifier c && rest.all fun c => beginsIdentifier c || Digits.isDecimal c

/-- The parameters in a path whose name is not an identifier. -/
def invalidIn (path : String) : List PathParameter :=
  (inPath path).filter fun p => p.name != "" && !isIdentifier p.name

end PathParameter

namespace Document

/-- The texts in a call that are paths of routes. -/
def pathsIn (d : Document) (call : Node) : List Node :=
  match d.libraryCallee? Routing.library call, call.arguments.head?.map Node.unwrap with
  | some function, some first =>
    let path :=
      if Routing.pathFunctions.contains function then some first
      else if Routing.pathOptionFunctions.contains function && first.kind == "object" then
        ((d.property first "path").bind Property.value).map Node.unwrap
      else none
    (path.filter fun p => (d.stringValue? p).isSome).toList
  | _, _ => []

/-- The range of a parameter in the source, where the path begins at an offset. -/
def parameterSpan (d : Document) (offset : Nat) (path : String) (p : PathParameter) : Span :=
  let before (n : Nat) : Nat := offset + Text.Utf8.byteLength (path.toList.take n)
  d.source.spanOf (before p.start) (before p.stop)

/-- What is said of a parameter whose name is not an identifier. -/
def invalidParameter (name : String) : String :=
  s!"Invalid param name \"{name}\" in route path. Param names must be valid identifiers " ++
  "(match /[A-Za-z_][A-Za-z0-9_]*/)."

/-- The remarks about the parameters in a path. -/
def pathRemarks (d : Document) (literal : Node) : List Remark :=
  let path := (d.stringValue? literal).getD ""
  (PathParameter.invalidIn path).map fun p =>
    ⟨d.parameterSpan (literal.start + 1) path p, invalidParameter p.name⟩

/-- The remarks about parameters in the paths of routes. -/
def routeParameters (d : Document) : List Remark :=
  ((d.find ["call_expression"]).flatMap d.pathsIn).flatMap d.pathRemarks

end Document

end CodeConventions
