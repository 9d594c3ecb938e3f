import CodeConventions.Report.Record
import CodeConventions.Report.Summary

/-!
# Written reports

The plain report, the report as a table, and the formats that a report may have.
-/

namespace CodeConventions.Report

/-!
## Plain reports

A line for each file, below it a line for each of its diagnostics, and the summary after an empty
line.  Within a file the places take as much room as the longest of them.
-/

/-- A text with blanks behind it, up to a width. -/
def padded (width : Nat) (s : String) : String :=
  String.ofList (s.toList ++ List.replicate (width - s.length) ' ')

/-- The line of a diagnostic, with a width for its place. -/
def plainRow (width : Nat) (d : Diagnostic) : String :=
  s!"  {padded width d.span.toText}  {padded 7 d.severity.name}  {d.message}  {d.label}"

/-- The width that the places of some diagnostics take. -/
def placeWidth (ds : List Diagnostic) : Nat :=
  (ds.map fun d => d.span.toText.length).foldl max 0

/-- The lines of a file. -/
def plainBlock (r : FileResult) : List String :=
  ((if r.passed then "✓ PASS " else "✗ FAIL ") ++ r.file)
    :: r.diagnostics.map (plainRow (placeWidth r.diagnostics))

/-- The lines of the report. -/
def plainLines (results : List FileResult) : List String :=
  results.flatMap plainBlock ++ ["", (Summary.ofResults results).headline]

/-- The plain report on some results. -/
def plain (results : List FileResult) : String := Text.joined "\n" (plainLines results)

/-!
## Reports as a table

The summary, and below it one table with a row for each diagnostic.  A bar in the text of a cell is
written with a backslash before it, so that only the bars between the cells divide them.
-/

/-- The text of a cell, with a backslash before each bar. -/
def escapeBars (cs : List Char) : List Char :=
  cs.flatMap fun c => if c = '|' then ['\\', '|'] else [c]

/-- The cells of a diagnostic. -/
def cells (d : Diagnostic) : List String :=
  ["`" ++ d.file ++ "`", d.span.toText, d.severity.name, d.label, d.message]

/-- A row of the table. -/
def row (cells : List String) : String :=
  "| " ++ Text.joined " | " (cells.map fun c => String.ofList (escapeBars c.toList)) ++ " |"

/-- The title and the summary. -/
def tableHead (results : List FileResult) : List String :=
  ["# Convention Lint Report", "", s!"**{(Summary.ofResults results).headline}**", ""]

/-- The lines of the report. -/
def tableLines (results : List FileResult) : List String :=
  match Summary.diagnostics results with
  | [] => tableHead results ++ ["No diagnostics."]
  | ds =>
    tableHead results
      ++ ["| File | Location | Severity | Rule | Message |",
        "|------|----------|----------|------|---------|"]
      ++ ds.map fun d => row (cells d)

/-- The report on some results with a table. -/
def table (results : List FileResult) : String := Text.joined "\n" (tableLines results)

end CodeConventions.Report

namespace CodeConventions

/-!
## Formats of reports

The formats that a report may have, their names, and the format that the name of a file asks for.
-/

/-- A format of reports. -/
inductive ReportFormat where
  | plain
  | record
  | table
  | sarif
  deriving DecidableEq, Repr

namespace ReportFormat

/-- The formats in order. -/
def all : List ReportFormat := [.plain, .record, .table, .sarif]

/-- The name of a format. -/
def name : ReportFormat → String
  | .plain => "text"
  | .record => "json"
  | .table => "markdown"
  | .sarif => "sarif"

/-- The format with a name. -/
def ofName? (s : String) : Option ReportFormat := all.find? fun f => f.name == s

/-- The endings of files that ask for a format. -/
def endings : List (String × ReportFormat) :=
  [(".txt", .plain), (".json", .record), (".md", .table), (".sarif", .sarif)]

/-- The format that a file asks for by its ending. -/
def ofPath (p : FilePath) : ReportFormat := (endings.lookup (Text.lower p.ending)).getD .plain

theorem ofName?_name (f : ReportFormat) : ofName? f.name = some f := by cases f <;> rfl

end ReportFormat

/-- The report on some results in a format, with descriptions of rules. -/
def Report.render (rules : List Rule) (results : List FileResult) : ReportFormat → String
  | .plain => plain results
  | .record => (record results).pretty
  | .table => table results
  | .sarif => (sarif rules results).pretty

end CodeConventions
