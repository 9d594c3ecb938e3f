import CodeConventions.Options.Issue
import CodeConventions.Rules.Registry
import CodeConventions.Settings.Basic

/-!
# The registry that settings describe

The rules of the library that the settings select, in the order of the library, with the options
and the severities that the settings give them.  Every name in the settings must be that of a rule,
also of one that is not selected; options are looked at for the selected rules only.
-/

namespace CodeConventions

/-- Why settings describe no registry. -/
inductive RegistryFault where
  /-- A name is that of no rule. -/
  | refused (reason : RegistryError)
  /-- A rule cannot be given its options. -/
  | options (rule : String) (reason : OptionsError)
  deriving DecidableEq, Repr

namespace Settings

/-- The registry of all rules of the library. -/
def catalog : Registry := (Registry.empty.registerAll Rule.builtin).1

/-- The names of the rules that are configured one by one. -/
def configuredRules (s : Settings) : List String :=
  s.ruleOptions.map Prod.fst ++ s.severityOverrides.map Prod.fst

/-- The rules that are wanted. -/
def selection (s : Settings) : Selection := ⟨s.rules, s.categories, s.disabledRules⟩

/-- The severity that a rule is given. -/
def severityOf (s : Settings) (r : Rule) : Severity :=
  (s.severityOverrides.lookup r.id).getD r.severity

/-- A rule with the options and the severity that it is given. -/
def configure (s : Settings) (r : Rule) : Except OptionsError Rule :=
  let configured :=
    match s.ruleOptions.lookup r.id with
    | some entries => r.configure entries
    | none => .ok r
  configured.map fun c => c.withSeverity (s.severityOf r)

/-- The registry with some rules more, each with the options and the severity that it is given; the
first that cannot be given its options, or is refused, counts. -/
def registerConfigured (s : Settings) (g : Registry) : List Rule → Except RegistryFault Registry
  | [] => .ok g
  | r :: rest =>
    match s.configure r with
    | .error e => .error (.options r.id e)
    | .ok c =>
      match g.register c with
      | .error e => .error (.refused e)
      | .ok next => s.registerConfigured next rest

/-- The registry that the settings describe. -/
def registry (s : Settings) : Except RegistryFault Registry :=
  match s.configuredRules.find? fun id => !catalog.contains id with
  -- a name in the configuration must be known even if its rule is not selected
  | some id => .error (.refused (.unknown id))
  | none =>
    match catalog.select s.selection with
    | .error e => .error (.refused e)
    | .ok selected => (s.registerConfigured .empty selected).map Registry.freeze

/-- What is said of a fault in the registry that the settings describe. -/
def explain (s : Settings) : RegistryFault → String
  | .refused reason => reason.message
  | .options rule (.invalid issues) =>
    Issue.allToText ((s.ruleOptions.lookup rule).getD []) issues
  | .options _ reason => reason.message?.getD ""

end Settings

end CodeConventions
