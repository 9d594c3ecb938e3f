import CodeConventions.Json.Printer
import CodeConventions.Report.Summary
import CodeConventions.Rules.Rule
import CodeConventions.Workspace.FilePath

/-!
# Reports as values

The report that holds everything as a value of the data format, and the one in the interchange format
for analysis results.
-/

namespace CodeConventions

/-!
## Reports as data

The summary and the results of all files as one value of the data format, which holds everything
that is known about a diagnostic.
-/

/-- The version that reports are marked with. -/
def Report.version : String := "0.1.0"

/-- A span as a value. -/
def Span.toJson (s : Span) : Json :=
  .object [("start", .int s.start), ("end", .int s.stop), ("line", .int s.line),
    ("column", .int s.column), ("end_line", .int s.stopLine), ("end_column", .int s.stopColumn)]

/-- A diagnostic as a value. -/
def Diagnostic.toJson (d : Diagnostic) : Json :=
  .object [("file", .text d.file), ("ruleId", .text d.rule), ("severity", .text d.severity.name),
    ("kind", .text d.kind.name), ("span", d.span.toJson), ("message", .text d.message)]

/-- A summary as a value. -/
def Summary.toJson (s : Summary) : Json :=
  .object [("files", Json.nat s.files), ("failed", Json.nat s.failed),
    ("errors", Json.nat s.errors), ("warnings", Json.nat s.warnings),
    ("faults", Json.nat s.faults),
    ("by_rule", .object (s.byRule.map fun (rule, n) => (rule, Json.nat n)))]

namespace Report

/-- The result of a file as a value. -/
def resultRecord (r : FileResult) : Json :=
  .object [("file", .text r.file), ("passed", .bool r.passed),
    ("diagnostics", .list (r.diagnostics.map Diagnostic.toJson))]

/-- The results of some files as a value. -/
def record (results : List FileResult) : Json :=
  .object [("version", .text version), ("summary", (Summary.ofResults results).toJson),
    ("results", .list (results.map resultRecord))]

end Report

end CodeConventions

namespace CodeConventions.Report

/-!
## Reports in the interchange format for analysis results

The rules that have diagnostics are described once, in the order of their names, and every
diagnostic names its rule both by its name and by its index in that list.
-/

/-- The place of the schema of the format. -/
def sarifSchema : String :=
  "https://raw.githubusercontent.com/oasis-tcs/sarif-spec/master/Schemata/sarif-schema-2.1.0.json"

/-- The description of a rule; the last of several rules with one name counts, and a rule without
a description is described by its name. -/
def describe (rules : List Rule) (id : String) : String :=
  match (rules.reverse.find? fun r => r.id == id).map Rule.description with
  | none => id
  | some text => if text = "" then id else text

/-- The rules that have diagnostics, in the order of their names. -/
def reportedRules (results : List FileResult) : List String :=
  (Summary.ofResults results).byRule.map Prod.fst

/-- What the format says about a rule. -/
def sarifRule (rules : List Rule) (id : String) : Json :=
  .object [("id", .text id), ("shortDescription", .object [("text", .text (describe rules id))])]

/-- Where a diagnostic is. -/
def sarifLocation (d : Diagnostic) : Json :=
  .object [("physicalLocation", .object [
    ("artifactLocation", .object [("uri", .text (FilePath.ofText d.file).toText)]),
    ("region", .object [("startLine", .int d.span.line), ("startColumn", .int d.span.column),
      ("endLine", .int d.span.stopLine), ("endColumn", .int d.span.stopColumn)])])]

/-- What the format says about a diagnostic, given the names of the rules. -/
def sarifResult (ids : List String) (d : Diagnostic) : Json :=
  .object [("ruleId", .text d.rule), ("ruleIndex", Json.nat (ids.idxOf d.rule)),
    ("level", .text d.severity.name), ("message", .object [("text", .text d.message)]),
    ("locations", .list [sarifLocation d]),
    ("properties", .object [("kind", .text d.kind.name)])]

/-- The report on some results, with descriptions of rules. -/
def sarif (rules : List Rule) (results : List FileResult) : Json :=
  let ids := reportedRules results
  let driver : Json := .object [("name", .text "convlint"), ("version", .text version),
    ("rules", .list (ids.map (sarifRule rules)))]
  .object [("$schema", .text sarifSchema), ("version", .text "2.1.0"),
    ("runs", .list [.object [("tool", .object [("driver", driver)]),
      ("results", .list ((Summary.diagnostics results).map (sarifResult ids)))]])]

end CodeConventions.Report
