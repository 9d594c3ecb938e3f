import CodeConventions.Diagnostic.Basic
import CodeConventions.Number.Digits
import CodeConventions.Pattern.Reader
import CodeConventions.Tree.Document

/-!
# Remarks and crashes

A rule looks at a document and makes *remarks*: a span and what is to be said about it.  Which rule
made the remark is known to whoever asked, and turns it into a finding.

Some rules cannot finish.  A rule may need a part of the source that is not there, or a pattern in
its options may not be a pattern.  It then *crashes*, and none of its remarks count.
-/

namespace CodeConventions

/-- What a rule has to say about a span. -/
structure Remark where
  span : Span
  message : String
  deriving DecidableEq, Repr

/-- The finding of a rule that made a remark. -/
def Remark.toFinding (rule : String) (r : Remark) : Finding := ⟨rule, r.span, r.message⟩

/-- Why a rule could not finish. -/
inductive Crash where
  /-- It asked for something of a part that is not there. -/
  | absent (wanted : String)
  /-- It looked for a pattern in a text that is not there. -/
  | absentText
  /-- It had to show a number with too many digits. -/
  | longNumber
  /-- A pattern in its options is none. -/
  | badPattern (reason : PatternError)
  /-- It gave up with an error of its own. -/
  | raised (kind reason : String)
  deriving Repr

/-- The text of a crash: the kind of error, and the reason. -/
def Crash.message : Crash → String
  | .absent wanted => s!"AttributeError: 'NoneType' object has no attribute '{wanted}'"
  | .absentText => "TypeError: expected string or bytes-like object, got 'NoneType'"
  | .longNumber => s!"ValueError: {NumberLimit.showingFault}"
  | .badPattern reason => reason.message
  | .raised kind reason => s!"{kind}: {reason}"

/-- The remarks of a rule, unless it crashes. -/
abbrev Remarks := Except Crash (List Remark)

namespace Document

/-- A remark about a node. -/
def remark (d : Document) (n : Node) (message : String) : Remark := ⟨d.spanOf n, message⟩

/-- A remark about a node that must be there. -/
def remark? (d : Document) (n : Option Node) (message : String) : Except Crash Remark :=
  match n with
  | some n => .ok (d.remark n message)
  | none => .error (.absent "start_byte")

end Document

/-- One of the patterns is found in the name.  The patterns are read one after the other, and only
as far as needed. -/
def matchesAny (patterns : List String) (name : String) : Except Crash Bool :=
  match patterns with
  | [] => .ok false
  | p :: rest =>
    match Pattern.read p with
    | .error reason => .error (.badPattern reason)
    | .ok pattern => if pattern.foundIn name then .ok true else matchesAny rest name

/-- The remarks about all of some things, in order; the first crash counts. -/
def remarksFor {α : Type} (xs : List α) (f : α → Remarks) : Remarks :=
  match xs with
  | [] => .ok []
  | x :: rest =>
    match f x with
    | .error crash => .error crash
    | .ok found =>
      match remarksFor rest f with
      | .error crash => .error crash
      | .ok more => .ok (found ++ more)

theorem remarksFor_ok {α : Type} (xs : List α) (f : α → List Remark) :
    remarksFor xs (fun x => .ok (f x)) = .ok (xs.flatMap f) := by
  induction xs with
  | nil => rfl
  | cons x rest ih => simp [remarksFor, ih]

end CodeConventions
