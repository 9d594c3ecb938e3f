import CodeConventions.Analysis.File
import CodeConventions.Fixture.Expectation
import CodeConventions.Rules.Registry
import CodeConventions.Workspace.Entry

/-!
# Running rules on fixtures

A fixture in a workspace is read, analysed under some rules, and compared with what it expects.  If
no rules are named, it is the rule that the path names: the directory of the file and the file
without its ending.
-/

namespace CodeConventions

/-- Why a fixture cannot be run. -/
inductive FixtureFault where
  | missing (path : FilePath)
  | notText (reason : Text.Utf8.DecodeError)
  | malformed (path : FilePath) (reason : LayoutFault)
  | refused (reason : RegistryError)
  deriving DecidableEq, Repr

/-- The text of a fault. -/
def FixtureFault.message : FixtureFault → String
  | .missing path => s!"Malformed fixture {path.toText}: file not found"
  | .notText reason => reason.message
  | .malformed path reason => reason.report path.toText
  | .refused reason => reason.message

/-- A fixture that has been run. -/
structure FixtureRun where
  path : FilePath
  layout : Layout
  rules : List String
  diagnostics : List Diagnostic
  deriving DecidableEq, Repr

namespace FixtureRun

/-- Everything in which the fixture differs from its expectations. -/
def problems (r : FixtureRun) : List Problem := r.layout.problems r.diagnostics

/-- The fixture is as expected. -/
def passed (r : FixtureRun) : Bool := r.problems.isEmpty

/-- All problems of a fixture in one text. -/
def failure (r : FixtureRun) : String :=
  s!"Fixture {r.path.toText} failed:\n"
    ++ Text.joined "\n" (r.problems.map fun p => s!"  - {p.message}")

end FixtureRun

/-- The rules that a path names. -/
def FilePath.fixtureRules (p : FilePath) : List String := [s!"{p.parent.name}/{p.stem}"]

/-- The rules that are named, or those that the path names. -/
def rulesFor (p : FilePath) (named : List String) : List String :=
  if named.isEmpty then p.fixtureRules else named

/-- The fixture at a path, run under the rules that are named. -/
def Workspace.runFixture (w : Workspace) (g : Registry) (named : List String) (p : FilePath) :
    Except FixtureFault FixtureRun :=
  match w.file? p with
  | none => .error (.missing p)
  | some f =>
    match f.text with
    | .error reason => .error (.notText reason)
    | .ok source =>
      match Layout.ofText source with
      | .error reason => .error (.malformed p reason)
      | .ok layout =>
        match g.select ⟨rulesFor p named, [], []⟩ with
        | .error reason => .error (.refused reason)
        | .ok rules =>
          let d : Document := ⟨p.toText, .ofString source, f.tree⟩
          .ok ⟨p, layout, rulesFor p named, d.analyze rules⟩

end CodeConventions
