import CodeConventions.Diagnostic.Basic
import CodeConventions.Options.Field
import CodeConventions.Text.Case

/-!
# Settings

Which rules are run and with what options, which files are collected, and how the result is shown.
-/

namespace CodeConventions

/-- The settings. -/
structure Settings where
  /-- The rules that are run; all of them if none is named. -/
  rules : List String := []
  /-- The families whose rules are run; all of them if none is named. -/
  categories : List Category := []
  disabledRules : List String := []
  ruleOptions : List (String × Json.Entries) := []
  severityOverrides : List (String × Severity) := []
  /-- The endings of the names of files that are collected. -/
  extensions : List String := [".ts", ".tsx"]
  maxWorkers : Int := 4
  reportFormat : String := "text"
  logLevel : String := "WARNING"

namespace Settings

/-- The names of the families. -/
def categoryNames : List (String × Category) := Category.all.map fun c => (c.name, c)

/-- The names of the severities. -/
def severityNames : List (String × Severity) := Severity.all.map fun s => (s.name, s)

/-- A value that is named by one of the names of its kind. -/
def nameOf {α : Type} (names : List (String × α)) : Json → Checked α :=
  Checked.named (.notNameOf (names.map Prod.fst)) names

/-- A field that is a text. -/
def textField (name : String) (get : Settings → String) (set : String → Settings → Settings) :
    Field Settings :=
  ⟨name, fun j => (Checked.text j).map set, fun s => .text (get s)⟩

/-- The families in which rules are run. -/
def categoriesField : Field Settings :=
  ⟨"categories",
    fun j => (Checked.listOf (nameOf categoryNames) j).map fun cs s => { s with categories := cs },
    fun s => .list (s.categories.map fun c => .text c.name)⟩

/-- The options of rules. -/
def ruleOptionsField : Field Settings :=
  ⟨"rule_options",
    fun j => (Checked.objectOf Checked.entries j).map fun os s => { s with ruleOptions := os },
    fun s => .object (s.ruleOptions.map fun (id, es) => (id, .object es))⟩

/-- The severities of rules that differ from their own. -/
def severityOverridesField : Field Settings :=
  ⟨"severity_overrides",
    fun j => (Checked.objectOf (nameOf severityNames) j).map fun os s =>
      { s with severityOverrides := os },
    fun s => .object (s.severityOverrides.map fun (id, v) => (id, .text v.name))⟩

/-- The number of files that are looked at side by side. -/
def maxWorkersField : Field Settings :=
  ⟨"max_workers", fun j => (Checked.positive j).map fun n s => { s with maxWorkers := n },
    fun s => .int s.maxWorkers⟩

/-- The fields of the settings, in the order in which they are written. -/
def fields : List (Field Settings) :=
  [.texts "rules" (·.rules) fun xs s => { s with rules := xs },
    categoriesField,
    .texts "disabled_rules" (·.disabledRules) fun xs s => { s with disabledRules := xs },
    ruleOptionsField, severityOverridesField,
    .texts "extensions" (·.extensions) fun xs s => { s with extensions := xs },
    maxWorkersField,
    textField "report_format" (·.reportFormat) fun t s => { s with reportFormat := t },
    textField "log_level" (·.logLevel) fun t s => { s with logLevel := t }]

/-- The fields that hold more than one value. -/
def compoundFields : List String :=
  ["rules", "categories", "disabled_rules", "rule_options", "severity_overrides", "extensions"]

/-- The name of the field that a key stands for, whatever the case of its letters. -/
def fieldKey (key : String) : String :=
  let lowered := Text.lower key
  if fields.any fun f => f.name == lowered then lowered else key

/-- Some entries under the names of the fields that their keys stand for.  The first spelling of a
field counts, and the others are as good as not given. -/
def named (entries : Json.Entries) : Json.Entries :=
  entries.foldl
    (fun kept (k, v) =>
      if (kept.get? (fieldKey k)).isSome then kept else kept ++ [(fieldKey k, v)])
    ([] : Json.Entries)

/-- The settings that some entries describe. -/
def read (entries : Json.Entries) : Checked Settings :=
  Field.readRecord fields {} (named entries)

/-- The entries that describe the settings. -/
def write (s : Settings) : Json.Entries := Field.writeRecord fields s

end Settings

end CodeConventions
