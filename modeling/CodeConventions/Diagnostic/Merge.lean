import CodeConventions.Diagnostic.Basic

/-!
# Merging diagnostics

Diagnostics are put into the order of their spans' starts, then of their rules, their spans' ends
and their messages.  Of those with one rule and one span the first in this order is kept.  Texts are
ordered by code points.
-/

namespace CodeConventions.Diagnostic

/-- The first of two equal or ordered things decides, and the second where the first are equal. -/
def orderBy (less equal next : Bool) : Bool := less || (equal && next)

/-- The diagnostic does not come after the other one. -/
def le (a b : Diagnostic) : Bool :=
  orderBy (a.span.start < b.span.start) (a.span.start == b.span.start) <|
    orderBy (a.rule < b.rule) (a.rule == b.rule) <|
      orderBy (a.span.stop < b.span.stop) (a.span.stop == b.span.stop) <|
        a.message < b.message || a.message == b.message

/-- The diagnostics without those whose key is among the ones seen or comes up a second time. -/
def distinctFrom (seen : List (String × Int × Int)) : List Diagnostic → List Diagnostic
  | [] => []
  | d :: ds =>
    if seen.contains d.key then distinctFrom seen ds else d :: distinctFrom (d.key :: seen) ds

/-- The first diagnostic for each key. -/
def distinct (ds : List Diagnostic) : List Diagnostic := distinctFrom [] ds

/-- The diagnostics in order, each key once. -/
def merge (ds : List Diagnostic) : List Diagnostic := distinct (ds.mergeSort le)

end CodeConventions.Diagnostic
