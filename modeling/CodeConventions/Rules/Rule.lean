import CodeConventions.Json.Pairs
import CodeConventions.Json.Shown
import CodeConventions.Rules.Check

/-!
# Rules

A rule has a name, a family and a severity, and looks for something in documents.  Most rules are
checks of the library; others are given from outside, and nothing is assumed about what they return.
`accept` says which returns are findings, and what is wrong with the others.
-/

namespace CodeConventions

/-- An item in what a rule returns. -/
inductive Item where
  | finding (f : Finding)
  | other (shape : ValueShape)
  deriving DecidableEq, Repr

/-- What comes of running a rule. -/
inductive Outcome where
  | crashed (reason : Crash)
  | returned (items : List Item)
  /-- It returned something that is no list. -/
  | unusable (shape : ValueShape)
  deriving Repr

/-- Why what a rule returned does not count. -/
inductive Fault where
  | crashed (reason : Crash)
  | notList (shape : ValueShape)
  | notFinding (shape : ValueShape)
  /-- It reported a finding for another rule. -/
  | foreignFinding (rule : String)
  deriving Repr

/-- The text of a fault. -/
def Fault.message : Fault → String
  | .crashed reason => reason.message
  | .notList shape => s!"expected a list of findings, got {shape.name}"
  | .notFinding shape => s!"expected a Finding, got {shape.name}"
  | .foreignFinding rule => s!"reported a finding for '{rule}'"

/-- How a rule looks at documents. -/
inductive Detector where
  | check (check : Check)
  | custom (run : Document → Outcome)

/-- A rule. -/
structure Rule where
  id : String
  category : Category
  severity : Severity
  description : String
  detector : Detector

/-- The items are findings of the rule; the first one that is not counts. -/
def acceptItems (rule : String) : List Item → Except Fault (List Finding)
  | [] => .ok []
  | .other shape :: _ => .error (.notFinding shape)
  | .finding f :: rest =>
    if f.rule = rule then (acceptItems rule rest).map (f :: ·) else .error (.foreignFinding f.rule)

/-- The outcome is a list of findings of the rule. -/
def Outcome.accept (rule : String) : Outcome → Except Fault (List Finding)
  | .crashed reason => .error (.crashed reason)
  | .unusable shape => .error (.notList shape)
  | .returned items => acceptItems rule items

/-- Why a rule cannot be given some options. -/
inductive OptionsError where
  /-- The rule takes no options. -/
  | noOptions (rule : String)
  /-- The value that is given has no entries. -/
  | noEntries (reason : PairsFault)
  | invalid (issues : List Issue)
  deriving DecidableEq, Repr

/-- The text of an error that has one. -/
def OptionsError.message? : OptionsError → Option String
  | .noOptions rule => some s!"Rule '{rule}' takes no options"
  | .noEntries reason => reason.message?
  | .invalid _ => none

namespace Rule

/-- The rule that a check is. -/
def ofCheck (c : Check) : Rule :=
  ⟨c.info.id, c.info.category, c.info.severity, c.info.description, .check c⟩

/-- The rules of the library, with their default options. -/
def builtin : List Rule := Check.all.map ofCheck

/-- What comes of running the rule on a document. -/
def run (r : Rule) (d : Document) : Outcome :=
  match r.detector with
  | .custom run => run d
  | .check c =>
    match c.findings d with
    | .ok fs => .returned (fs.map Item.finding)
    | .error reason => .crashed reason

/-- The findings of the rule in a document. -/
def findings (r : Rule) (d : Document) : Except Fault (List Finding) := (r.run d).accept r.id

/-- The options of the rule as they are written, if it has any. -/
def writtenOptions? (r : Rule) : Option Json :=
  match r.detector with
  | .custom _ => none
  | .check c => c.writtenOptions?

/-- The check that the rule is, with options read from entries. -/
def configuredCheck? (r : Rule) (entries : Json.Entries) : Option (Checked Check) :=
  match r.detector with
  | .custom _ => none
  | .check c => c.configure? entries

/-- The rule with the options given.  A rule without options takes none, but no entries are as good
as no options. -/
def configure (r : Rule) (entries : Json.Entries) : Except OptionsError Rule :=
  match r.configuredCheck? entries with
  | some (.good c) => .ok { r with detector := .check c }
  | some (.bad issues) => .error (.invalid issues)
  | none => if entries.isEmpty then .ok r else .error (.noOptions r.id)

/-- The issues of some pairs, of which the entries with texts as keys have the issues given: every
key that is no text is an issue among the unknown keys. -/
def pairIssues (pairs : List (Json × Json)) (issues : List Issue) : List Issue :=
  let unknown (key : String) : Issue := ⟨[key], .unknownKey⟩
  let isUnknown (i : Issue) := pairs.any fun p => p.1.text?.any fun k => i == unknown k
  issues.filter (fun i => !isUnknown i) ++ pairs.filterMap fun (key, _) =>
    match key.text? with
    | some k => if issues.contains (unknown k) then some (unknown k) else none
    | none => some ⟨[key.shown], .notTextKey⟩

/-- The rule with the options that a value gives.  Whatever is as good as nothing does for a rule
without options. -/
def configureWith (r : Rule) (value : Json) : Except OptionsError Rule := do
  match r.writtenOptions? with
  | none => if value.isTruthy then throw (.noOptions r.id) else return r
  | some _ =>
    let pairs ← value.pairs?.mapError .noEntries
    let configured := r.configure (Json.textEntries pairs)
    if pairs.all fun p => p.1.text?.isSome then configured
    else
      match configured with
      | .error (.invalid issues) => throw (.invalid (pairIssues pairs issues))
      | _ => throw (.invalid (pairIssues pairs []))

/-- The rule with another severity. -/
def withSeverity (r : Rule) (severity : Severity) : Rule := { r with severity := severity }

end Rule

end CodeConventions
