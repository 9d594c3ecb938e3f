import CodeConventions.CommandLine.Arguments
import CodeConventions.Report.Format

/-!
# Commands

The three commands: to check files, to list the rules, and to run fixtures.  Before the command
stand the options that hold for all of them.  A command that cannot be read is misused.
-/

namespace CodeConventions.CommandLine

/-- What is asked for. -/
inductive Command where
  /-- The files below some paths are checked, under some rules and families, and reported. -/
  | check (paths : List FilePath) (rules : List String) (categories : List Category)
    (format : Option ReportFormat) (output config : Option FilePath)
  /-- The rules of some families are listed. -/
  | rules (categories : List Category) (config : Option FilePath)
  /-- The fixtures at some paths are run, under the rules that are named. -/
  | fixture (paths : List FilePath) (rules : List String) (config : Option FilePath)
  /-- The user asks how a command is used. -/
  | help
  deriving Repr

namespace Command

/-- The option that asks how a command is used. -/
def helpOption : OptionSpec := ⟨"--help", none, false⟩

/-- The option for the file with settings. -/
def configOption : OptionSpec := ⟨"--config", none, true⟩

/-- The option for a rule that is wanted. -/
def ruleOption : OptionSpec := ⟨"--rule", some "-r", true⟩

/-- The option for a family of rules that is wanted. -/
def categoryOption : OptionSpec := ⟨"--category", some "-c", true⟩

/-- The option for the format of the report. -/
def formatOption : OptionSpec := ⟨"--format", some "-f", true⟩

/-- The option for the file that the report is written to. -/
def outputOption : OptionSpec := ⟨"--output", some "-o", true⟩

/-- The option that says how much is logged; it changes nothing about the outcome. -/
def logLevelOption : OptionSpec := ⟨"--log-level", none, true⟩

/-- The options of a command by its name. -/
def optionsOf? (name : String) : Option (List OptionSpec) :=
  if name = "check" then
    some [ruleOption, categoryOption, formatOption, outputOption, configOption, helpOption]
  else if name = "rules" then some [categoryOption, configOption, helpOption]
  else if name = "fixture" then some [ruleOption, configOption, helpOption]
  else none

/-- The path that a text is; no path holds a null character. -/
def pathOf? (s : String) : Option FilePath :=
  if s.toList.contains '\x00' then none else some (.ofText s)

/-- The path that an option gives, if it is one. -/
def path? (a : Arguments) (option : OptionSpec) : Option (Option FilePath) :=
  match a.value? option.long with
  | none => some none
  | some s => (pathOf? s).map some

/-- The paths that the operands are, if they are all paths. -/
def paths? (a : Arguments) : Option (List FilePath) := a.operands.mapM pathOf?

/-- The families that are named, if they are all families. -/
def categories? (a : Arguments) : Option (List Category) :=
  (a.values categoryOption.long).mapM Category.ofName?

/-- The format that is named, if it is one. -/
def format? (a : Arguments) : Option (Option ReportFormat) :=
  match a.value? formatOption.long with
  | none => some none
  | some name => (ReportFormat.ofName? name).map some

/-- The command with a name and arguments. -/
def ofArguments? (name : String) (a : Arguments) : Option Command :=
  if a.has helpOption.long then some .help
  else do
    let paths ← paths? a
    let config ← path? a configOption
    if name = "check" then
      let categories ← categories? a
      let format ← format? a
      let output ← path? a outputOption
      if paths.isEmpty then none
      else some (.check paths (a.values ruleOption.long) categories format output config)
    else if name = "rules" then
      let categories ← categories? a
      if paths.isEmpty then some (.rules categories config) else none
    else if paths.isEmpty then none
    else some (.fixture paths (a.values ruleOption.long) config)

/-- The command that some words are. -/
def ofWords? (words : List String) : Option Command := do
  let general ← Arguments.ofWords [logLevelOption, helpOption] false words
  if general.has helpOption.long then some .help
  else
    match general.operands with
    | [] => none
    | name :: rest => ofArguments? name (← Arguments.ofWords (← optionsOf? name) true rest)

end Command

end CodeConventions.CommandLine
