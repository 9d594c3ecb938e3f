import CodeConventions.CommandLine.Command
import CodeConventions.Console.Markup
import CodeConventions.Console.Page
import CodeConventions.Fixture.Run
import CodeConventions.Settings.Registry
import CodeConventions.Settings.Source
import CodeConventions.Workspace.Access
import CodeConventions.Workspace.Analysis

/-!
# Running commands

A command prints a text and ends with a code: zero if all is well, one if there is something to be
mended in the files, two if it cannot be carried out as it was asked for.  A command that breaks
down half-way ends with one, too, and what it has printed stays printed.

Every fixture has a verdict of its own; a fixture that cannot be run does not keep the others from
being run.
-/

namespace CodeConventions.CommandLine

/-- What a command leaves behind: its code, what it printed, and the file that it wrote. -/
structure Outcome where
  code : Nat
  printed : String
  saved : Option (FilePath × String) := none
  deriving Repr

namespace Outcome

/-- The command cannot be carried out as it was asked for. -/
def misused : Outcome := { code := 2, printed := "" }

/-- The command broke down after it had printed a text. -/
def brokenDown (printed : String) : Outcome := { code := 1, printed := printed }

/-- The command cannot be carried out as it was asked for, and the user is told why; but it breaks
down over a reason that cannot be shown. -/
def refused (reason : String) : Outcome :=
  if (Console.styledLine? s!"[red]Error:[/red] {reason}").isSome then misused else brokenDown ""

end Outcome

/-! ## Settings -/

/-- The outcome of a command for which no settings can be put together. -/
def settingsOutcome : SettingsFault → Outcome
  | .noEntries .noEntries => .brokenDown ""
  | .unreadableFile reason => if reason.isDeep then .brokenDown "" else .misused
  | .deepVariable _ => .brokenDown ""
  | fault => .refused (fault.message?.getD "")

/-- The text of the file with settings, if one is given. -/
def settingsText (w : Workspace) : Option FilePath → Except Outcome (Option String)
  | none => .ok none
  | some p =>
    match w.openFile p with
    | .error fault => .error (.refused (fault.message p))
    | .ok f => (f.text.map some).mapError fun _ => .misused

/-- The settings under which a command runs, or how it ends without them. -/
def settingsFor (w : Workspace) (environment : List (String × String)) (config : Option FilePath)
    (given : Json.Entries) : Except Outcome Settings := do
  let file ← settingsText w config
  (Settings.load ⟨file, given, environment⟩).mapError settingsOutcome

/-- The registry under which a command runs. -/
def registryFor (settings : Settings) : Except Outcome Registry :=
  settings.registry.mapError fun fault => .refused (settings.explain fault)

/-- The format that the settings ask for. -/
def shownFormat (settings : Settings) : Except Outcome ReportFormat :=
  match ReportFormat.ofName? settings.reportFormat with
  | some f => .ok f
  | none =>
    .error (.refused s!"{Text.Quoted.encode settings.reportFormat} is not a valid ReportFormat")

/-- The entry for a setting that is a list, if the list is not empty. -/
def entryFor (name : String) (values : List String) : Json.Entries :=
  if values.isEmpty then [] else [(name, Json.texts values)]

/-! ## Checking files -/

/-- The report on a check, to be printed or to be written to a file. -/
def deliver (w : Workspace) (g : Registry) (results : List FileResult) (shown : ReportFormat)
    (format : Option ReportFormat) (output : Option FilePath) : Outcome :=
  let code := if results.all FileResult.passed then 0 else 1
  match output with
  | none =>
    let text := Console.withoutSequences (Report.render g.rules results shown)
    { code := code, printed := text ++ "\n" }
  | some p =>
    let text := Report.render g.rules results (format.getD (.ofPath p))
    if (w.save? p text).isNone then .brokenDown ""
    else
      -- the report stays written even if the line about it cannot be printed
      match Console.styledLine? s!"Report written to [bold]{p.toText}[/bold]" with
      | some line => { code := code, printed := line, saved := some (p, text) }
      | none => { Outcome.brokenDown "" with saved := some (p, text) }

/-- The files below some paths are checked. -/
def runCheck (w : Workspace) (environment : List (String × String)) (paths : List FilePath)
    (rules : List String) (categories : List Category) (format : Option ReportFormat)
    (output config : Option FilePath) : Except Outcome Outcome := do
  let given := entryFor "rules" rules
    ++ entryFor "categories" (categories.map Category.name)
    ++ format.toList.map fun f => ("report_format", .text f.name)
  let settings ← settingsFor w environment config given
  let shown ← shownFormat settings
  let g ← registryFor settings
  let files ← (w.gather settings paths).mapError fun _ => .brokenDown ""
  return deliver w g (files.map (w.analyzeFile g.rules)) shown format output

/-! ## Listing the rules -/

/-- The names of the options of a rule. -/
def optionNames (r : Rule) : List String :=
  ((r.writtenOptions?.bind Json.entries?).getD []).map Prod.fst

/-- The table of some rules. -/
def ruleGrid (rules : List Rule) : Console.Grid :=
  ⟨"Registered Rules", ["Rule", "Category", "Severity", "Options", "Description"],
    rules.map fun r => [r.id, r.category.name, r.severity.name,
      Text.joined ", " (optionNames r), r.description]⟩

/-- The rules of some families are listed. -/
def runRules (w : Workspace) (environment : List (String × String)) (categories : List Category)
    (config : Option FilePath) : Except Outcome Outcome := do
  let given := entryFor "categories" (categories.map Category.name)
  let g ← registryFor (← settingsFor w environment config given)
  let count := Console.line s!"\n{g.rules.length} rules"
  return { code := 0, printed := (ruleGrid g.rules).toText ++ count }

/-! ## Running fixtures -/

/-- What is said of a fixture. -/
inductive Verdict where
  | passed (cases : Nat)
  | failed (problems : List Problem)
  /-- The fixture cannot be run. -/
  | refused (reason : FixtureFault)
  deriving Repr

/-- The endings of the names of fixtures in a directory. -/
def fixtureEndings : List String := [".ts", ".tsx"]

/-- The fixtures that a path stands for. -/
def fixturesAt (w : Workspace) (p : FilePath) : List FilePath :=
  if w.isDirectory p then
    ((w.listing p).map fun found => p.append found.1).filter fun q =>
      fixtureEndings.contains q.ending
  else [p]

/-- The verdict on a fixture. -/
def verdict (w : Workspace) (g : Registry) (named : List String) (p : FilePath) : Verdict :=
  match w.runFixture g named p with
  | .error reason => .refused reason
  | .ok fixture =>
    if fixture.passed then .passed fixture.layout.cases.length else .failed fixture.problems

/-- The fault ends the command: it is none that fixtures are expected to have. -/
def isFatal : FixtureFault → Bool
  | .notText _ => true
  | .malformed _ (.longNumber _) => true
  | _ => false

namespace Verdict

/-- The fixture is as expected. -/
def isPass : Verdict → Bool
  | .passed _ => true
  | _ => false

/-- What is printed about a fixture, unless that cannot be done. -/
def toText? (p : FilePath) : Verdict → Option String
  | .passed cases => Console.styledLine? s!"[green]✓ PASS[/green] {p.toText} ({cases} sub-cases)"
  | .failed problems =>
    (Console.styledLine? s!"[red]✗ FAIL[/red] {p.toText}").map fun head =>
      head ++ String.join (problems.map fun x => Console.line s!"    - {x.message}")
  | .refused reason =>
    if isFatal reason then none
    else Console.styledLine? s!"[red]✗ ERROR[/red] {p.toText}: {reason.message}"

end Verdict

/-- The outcome of some verdicts; `printed` is what was printed before them, and `failures` counts
the verdicts that were no passes. -/
def concludeFrom (printed : String) (failures : Nat) : List (FilePath × Verdict) → Outcome
  | [] =>
    if failures = 0 then { code := 0, printed := printed }
    else
      { code := 1
        printed := printed ++ Console.line s!"\n{failures} fixture(s) failed" }
  | (p, v) :: rest =>
    match v.toText? p with
    | none => .brokenDown printed
    | some text => concludeFrom (printed ++ text) (if v.isPass then failures else failures + 1) rest

/-- The fixtures at some paths are run. -/
def runFixtures (w : Workspace) (environment : List (String × String)) (paths : List FilePath)
    (named : List String) (config : Option FilePath) : Except Outcome Outcome := do
  let g ← registryFor (← settingsFor w environment config [])
  if paths.any w.isTooLong then throw (.brokenDown "")
  return concludeFrom "" 0 ((paths.flatMap (fixturesAt w)).map fun p => (p, verdict w g named p))

/-! ## Commands -/

/-- What is printed for a user who asks how a command is used. -/
def usage : String :=
  "Usage: convlint [--log-level LEVEL] (check | rules | fixture) [OPTIONS] [PATHS]\n"

/-- The outcome of a command. -/
def Command.run (w : Workspace) (environment : List (String × String)) : Command → Outcome
  | .help => { code := 0, printed := usage }
  | .check paths named categories format output config =>
    merged (runCheck w environment paths named categories format output config)
  | .rules categories config => merged (runRules w environment categories config)
  | .fixture paths named config => merged (runFixtures w environment paths named config)
where
  /-- The outcome, whether it was reached early or in the end. -/
  merged : Except Outcome Outcome → Outcome
    | .ok outcome => outcome
    | .error outcome => outcome

/-- The outcome of some words, given the workspace and the environment. -/
def run (w : Workspace) (environment : List (String × String)) (words : List String) : Outcome :=
  match Command.ofWords? words with
  | some command => command.run w environment
  | none => .misused

end CodeConventions.CommandLine
