import CodeConventions.Proofs.Json.RoundTrip
import CodeConventions.Proofs.Report.Tally
import CodeConventions.Report.Format

/-!
# Reports, read back

A report as data is a text, and the text is read back as the value that was printed, whatever the
results are (`readUnbounded_record`).  In that value the results stand in their order, and each of
them tells the name of its file, whether the file passed, and all that is known of its diagnostics
(`FileResult.IsToldBy`).  What is told determines what it is told of, so results with one report are
the same results (`results_read_back`).
-/

namespace CodeConventions

theorem Severity.name_injective : Severity.name.Injective := by
  intro v w h
  have hread : ofName? v.name = ofName? w.name := congrArg ofName? h
  rw [ofName?_name, ofName?_name] at hread
  exact Option.some.inj hread

theorem DiagnosticKind.name_injective : DiagnosticKind.name.Injective := by
  intro k l h
  have hread : ofName? k.name = ofName? l.name := congrArg ofName? h
  rw [ofName?_name, ofName?_name] at hread
  exact Option.some.inj hread

/-! ## What a value tells -/

/-- The value tells the six numbers of a span. -/
structure Span.IsToldBy (s : Span) (j : Json) : Prop where
  start : j.get? "start" = some (.int s.start)
  stop : j.get? "end" = some (.int s.stop)
  line : j.get? "line" = some (.int s.line)
  column : j.get? "column" = some (.int s.column)
  stopLine : j.get? "end_line" = some (.int s.stopLine)
  stopColumn : j.get? "end_column" = some (.int s.stopColumn)

/-- The value tells all that is known of a diagnostic. -/
structure Diagnostic.IsToldBy (d : Diagnostic) (j : Json) : Prop where
  file : j.get? "file" = some (.text d.file)
  rule : j.get? "ruleId" = some (.text d.rule)
  severity : j.get? "severity" = some (.text d.severity.name)
  kind : j.get? "kind" = some (.text d.kind.name)
  span : ∃ s, j.get? "span" = some s ∧ d.span.IsToldBy s
  message : j.get? "message" = some (.text d.message)

/-- The value tells a result: its file, whether it passed, and its diagnostics in order. -/
structure FileResult.IsToldBy (r : FileResult) (j : Json) : Prop where
  file : j.get? "file" = some (.text r.file)
  passed : j.get? "passed" = some (.bool r.passed)
  diagnostics : ∃ items, j.get? "diagnostics" = some (.list items) ∧
    List.Forall₂ Diagnostic.IsToldBy r.diagnostics items

theorem Span.isToldBy_toJson (s : Span) : s.IsToldBy s.toJson := ⟨rfl, rfl, rfl, rfl, rfl, rfl⟩

theorem Diagnostic.isToldBy_toJson (d : Diagnostic) : d.IsToldBy d.toJson where
  file := rfl
  rule := rfl
  severity := rfl
  kind := rfl
  span := ⟨d.span.toJson, rfl, d.span.isToldBy_toJson⟩
  message := rfl

theorem FileResult.isToldBy_resultRecord (r : FileResult) :
    r.IsToldBy (Report.resultRecord r) where
  file := rfl
  passed := rfl
  diagnostics := by
    refine ⟨r.diagnostics.map Diagnostic.toJson, rfl, ?_⟩
    exact List.forall₂_map_right_iff.mpr (List.forall₂_same.mpr fun d _ => d.isToldBy_toJson)

/-! ## What is told determines what it is told of -/

theorem int_inj {j : Option Json} {m n : Int} (hm : j = some (.int m)) (hn : j = some (.int n)) :
    m = n :=
  Json.int.inj (Option.some.inj (hm.symm.trans hn))

theorem text_inj {j : Option Json} {s t : String} (hs : j = some (.text s))
    (ht : j = some (.text t)) : s = t :=
  Json.text.inj (Option.some.inj (hs.symm.trans ht))

theorem Span.IsToldBy.eq {s t : Span} {j : Json} (hs : s.IsToldBy j) (ht : t.IsToldBy j) :
    s = t := by
  obtain ⟨start, stop, line, column, stopLine, stopColumn⟩ := s
  obtain ⟨start', stop', line', column', stopLine', stopColumn'⟩ := t
  obtain rfl : start = start' := int_inj hs.start ht.start
  obtain rfl : stop = stop' := int_inj hs.stop ht.stop
  obtain rfl : line = line' := int_inj hs.line ht.line
  obtain rfl : column = column' := int_inj hs.column ht.column
  obtain rfl : stopLine = stopLine' := int_inj hs.stopLine ht.stopLine
  obtain rfl : stopColumn = stopColumn' := int_inj hs.stopColumn ht.stopColumn
  rfl

theorem Diagnostic.IsToldBy.eq {d e : Diagnostic} {j : Json} (hd : d.IsToldBy j)
    (he : e.IsToldBy j) : d = e := by
  obtain ⟨s, hs, hspan⟩ := hd.span
  obtain ⟨t, ht, hspan'⟩ := he.span
  obtain rfl : s = t := Option.some.inj (hs.symm.trans ht)
  have hfile : d.file = e.file := text_inj hd.file he.file
  have hrule : d.rule = e.rule := text_inj hd.rule he.rule
  have hseverity : d.severity = e.severity :=
    Severity.name_injective (text_inj hd.severity he.severity)
  have hkind : d.kind = e.kind := DiagnosticKind.name_injective (text_inj hd.kind he.kind)
  have hspans : d.span = e.span := hspan.eq hspan'
  have hmessage : d.message = e.message := text_inj hd.message he.message
  cases d
  cases e
  simp_all

theorem FileResult.IsToldBy.eq {r s : FileResult} {j : Json} (hr : r.IsToldBy j)
    (hs : s.IsToldBy j) : r = s := by
  obtain ⟨items, hitems, hall⟩ := hr.diagnostics
  obtain ⟨items', hitems', hall'⟩ := hs.diagnostics
  obtain rfl : items = items' := Json.list.inj (Option.some.inj (hitems.symm.trans hitems'))
  have hfile : r.file = s.file := text_inj hr.file hs.file
  have hdiagnostics : r.diagnostics = s.diagnostics :=
    List.left_unique_forall₂' (fun _ _ _ hd he => hd.eq he) hall hall'
  cases r
  cases s
  simp_all

/-! ## The report is readable -/

namespace Report

open Json

/-- The number has few enough digits. -/
def IsShort (longest : Nat) (i : Int) : Prop := (Nat.toDigits 10 i.natAbs).length ≤ longest

/-- The numbers of a span. -/
def spanNumbers (s : Span) : List Int :=
  [s.start, s.stop, s.line, s.column, s.stopLine, s.stopColumn]

/-- The numbers of a summary. -/
def summaryNumbers (s : Summary) : List Int :=
  [(s.files : Int), s.failed, s.errors, s.warnings, s.faults] ++ s.byRule.map fun e => (e.2 : Int)

/-- The numbers that a report shows. -/
def numbers (results : List FileResult) : List Int :=
  summaryNumbers (Summary.ofResults results)
    ++ (Summary.diagnostics results).flatMap fun d => spanNumbers d.span

variable {longest room : Nat}

theorem exists_isShort (is : List Int) : ∃ longest, ∀ i ∈ is, IsShort longest i := by
  induction is with
  | nil => exact ⟨0, fun i hi => absurd hi List.not_mem_nil⟩
  | cons i is ih =>
      obtain ⟨longest, hshort⟩ := ih
      refine ⟨max (Nat.toDigits 10 i.natAbs).length longest, fun k hk => ?_⟩
      rcases List.mem_cons.mp hk with rfl | hk
      · exact le_max_left _ _
      · exact (hshort k hk).trans (le_max_right _ _)

theorem readable_span {s : Span} (h : ∀ i ∈ spanNumbers s, IsShort longest i) :
    Readable longest (room + 1) s.toJson := by
  simp only [spanNumbers, List.forall_mem_cons] at h
  obtain ⟨hstart, hstop, hline, hcolumn, hstopLine, hstopColumn, -⟩ := h
  refine .ofKeys ["start", "end", "line", "column", "end_line", "end_column"] rfl (by decide) ?_
  simp only [List.forall_mem_cons]
  exact ⟨.int hstart, .int hstop, .int hline, .int hcolumn, .int hstopLine, .int hstopColumn,
    nofun⟩

theorem readable_diagnostic {d : Diagnostic} (h : ∀ i ∈ spanNumbers d.span, IsShort longest i) :
    Readable longest (room + 2) d.toJson := by
  refine .ofKeys ["file", "ruleId", "severity", "kind", "span", "message"] rfl (by decide) ?_
  simp only [List.forall_mem_cons]
  exact ⟨.text _, .text _, .text _, .text _, readable_span h, .text _, nofun⟩

theorem readable_resultRecord {r : FileResult}
    (h : ∀ d ∈ r.diagnostics, ∀ i ∈ spanNumbers d.span, IsShort longest i) :
    Readable longest (room + 4) (resultRecord r) := by
  refine .ofKeys ["file", "passed", "diagnostics"] rfl (by decide) ?_
  simp only [List.forall_mem_cons]
  refine ⟨.text _, .bool _, .list fun j hj => ?_, nofun⟩
  obtain ⟨d, hd, rfl⟩ := List.mem_map.mp hj
  exact readable_diagnostic (h d hd)

theorem readable_summary {s : Summary} (hkeys : Summary.Ordered s.byRule)
    (h : ∀ i ∈ summaryNumbers s, IsShort longest i) : Readable longest (room + 2) s.toJson := by
  simp only [summaryNumbers, List.forall_mem_append, List.forall_mem_cons] at h
  obtain ⟨⟨hfiles, hfailed, herrors, hwarnings, hfaults, -⟩, hrules⟩ := h
  refine .ofKeys ["files", "failed", "errors", "warnings", "faults", "by_rule"] rfl (by decide) ?_
  simp only [List.forall_mem_cons]
  refine ⟨.int hfiles, .int hfailed, .int herrors, .int hwarnings, .int hfaults, ?_, nofun⟩
  refine .object ?_ fun e he => ?_
  · -- the rules come in order, so no rule comes twice
    rw [List.map_map]
    exact hkeys.imp fun hlt => hlt.ne
  · obtain ⟨c, hc, rfl⟩ := List.mem_map.mp he
    exact .int (hrules _ (List.mem_map_of_mem hc))

theorem readable_record {results : List FileResult} (h : ∀ i ∈ numbers results, IsShort longest i) :
    Readable longest (room + 6) (record results) := by
  simp only [numbers, List.forall_mem_append] at h
  obtain ⟨hsummary, hspans⟩ := h
  refine .ofKeys ["version", "summary", "results"] rfl (by decide) ?_
  simp only [List.forall_mem_cons]
  refine ⟨.text _, readable_summary (Summary.ordered_tallyAll _) hsummary, .list fun j hj => ?_,
    nofun⟩
  obtain ⟨r, hr, rfl⟩ := List.mem_map.mp hj
  refine readable_resultRecord fun d hd i hi => hspans i (List.mem_flatMap.mpr ⟨d, ?_, hi⟩)
  exact List.mem_flatMap.mpr ⟨r, hr, hd⟩

/-- A report as data is read back, whatever the results are. -/
theorem readUnbounded_record (results : List FileResult) :
    readUnbounded (record results).pretty = .ok (record results) := by
  obtain ⟨longest, hshort⟩ := exists_isShort (numbers results)
  have hreadable : Readable longest 6 (record results) := readable_record hshort
  exact readUnbounded_pretty hreadable

/-- The text of a report as data is read as a value whose results are those that it is about, in
order, each with its file, whether it passed and the whole of its diagnostics; with the usual limits
it is read in the same way as long as no number in it is too long.  So results with one report are
the same. -/
theorem results_read_back (rules : List Rule) :
    (∀ results, ∃ j items, readUnbounded (render rules results .record) = .ok j ∧
      ((∀ i ∈ numbers results, IsShort NumberLimit.digits i) →
        read (render rules results .record) = .ok j) ∧
      j.get? "results" = some (.list items) ∧ List.Forall₂ FileResult.IsToldBy results items) ∧
    Function.Injective fun results => render rules results .record := by
  have htold : ∀ results, List.Forall₂ FileResult.IsToldBy results (results.map resultRecord) := by
    intro results
    exact List.forall₂_map_right_iff.mpr (List.forall₂_same.mpr fun r _ => r.isToldBy_resultRecord)
  refine ⟨fun results => ?_, fun results others hsame => ?_⟩
  · refine ⟨record results, results.map resultRecord, readUnbounded_record results, ?_, rfl,
      htold results⟩
    intro hshort
    exact read_pretty (readable_record hshort)
  · have hvalue : record results = record others := by
      have hread : readUnbounded (record results).pretty = .ok (record others) := by
        show readUnbounded (render rules results .record) = _
        rw [show render rules results .record = render rules others .record from hsame]
        exact readUnbounded_record others
      exact Except.ok.inj ((readUnbounded_record results).symm.trans hread)
    have hitems : results.map resultRecord = others.map resultRecord :=
      Json.list.inj (Option.some.inj (congrArg (Json.get? · "results") hvalue))
    refine List.left_unique_forall₂' (fun _ _ _ hr hs => hr.eq hs) (htold results) ?_
    rw [hitems]
    exact htold others

/-- A warning in a file that passes. -/
def passedWithWarning : FileResult :=
  ⟨"a.ts", [⟨"a.ts", "functional/no-let", .warning, ⟨0, 3, 1, 1, 1, 4⟩, "Unexpected let.", .finding⟩]⟩

/-- Its numbers are short, so the report on it is read with the usual limits. -/
theorem results_read_back_passedWithWarning :
    ∃ j items, read (render [] [passedWithWarning] .record) = .ok j ∧
      j.get? "results" = some (.list items) ∧
      List.Forall₂ FileResult.IsToldBy [passedWithWarning] items := by
  obtain ⟨j, items, -, hread, hitems, htold⟩ := (results_read_back []).1 [passedWithWarning]
  have hnumbers : numbers [passedWithWarning] = [1, 0, 0, 1, 0, 1, 0, 3, 1, 1, 1, 4] := by decide
  refine ⟨j, items, hread ?_, hitems, htold⟩
  rw [hnumbers]
  unfold IsShort NumberLimit.digits
  decide

end Report

/-! ## Reports in the interchange format

Such a report names the rule of a diagnostic twice, by its id and by an index into the descriptors
of rules.  The descriptors are taken from the tally of the summary, the indices from the list of its
names, and the diagnostics from the results themselves.  Read back, the report has one descriptor
for each rule that occurs, in the order of the ids; its results are the diagnostics in their order;
and each index leads to the descriptor with the id of the rule (`sarif_read_back`). -/

/-- The value at the end of a path of keys. -/
def Json.along? (j : Json) : List String → Option Json
  | [] => some j
  | key :: path => (j.get? key).bind fun k => k.along? path

/-- The value tells where a span begins and ends. -/
structure Span.IsRegion (s : Span) (j : Json) : Prop where
  line : j.get? "startLine" = some (.int s.line)
  column : j.get? "startColumn" = some (.int s.column)
  stopLine : j.get? "endLine" = some (.int s.stopLine)
  stopColumn : j.get? "endColumn" = some (.int s.stopColumn)

/-- The value reports a diagnostic: its rule by the id and by the index of a descriptor with that
id, and what is said, how serious it is and where. -/
structure Diagnostic.IsReportedBy (descriptors : List Json) (d : Diagnostic) (j : Json) : Prop where
  rule : j.get? "ruleId" = some (.text d.rule)
  index : ∃ (i : Nat) (descriptor : Json), j.get? "ruleIndex" = some (.int i) ∧
    descriptors[i]? = some descriptor ∧ descriptor.get? "id" = some (.text d.rule)
  level : j.get? "level" = some (.text d.severity.name)
  message : j.along? ["message", "text"] = some (.text d.message)
  region : ∃ place region, j.get? "locations" = some (.list [place]) ∧
    place.along? ["physicalLocation", "region"] = some region ∧ d.span.IsRegion region

namespace Report

open Json

variable {longest room : Nat} {rules : List Rule} {ids : List String} {d : Diagnostic}
  {results : List FileResult}

/-! ### The rules that occur -/

theorem pairwise_reportedRules (results : List FileResult) :
    (reportedRules results).Pairwise (· < ·) :=
  Summary.ordered_tallyAll _

theorem mem_reportedRules_iff {id : String} :
    id ∈ reportedRules results ↔ ∃ d ∈ Summary.diagnostics results, d.rule = id := by
  rw [reportedRules, Summary.ofResults, Summary.mem_keys_tallyAll_iff, List.mem_map]

/-- The index of a rule that occurs leads to its descriptor. -/
theorem getElem?_idxOf_descriptors (rules : List Rule) (hd : d.rule ∈ ids) :
    (ids.map (sarifRule rules))[ids.idxOf d.rule]? = some (sarifRule rules d.rule) := by
  have hlt : ids.idxOf d.rule < ids.length := List.idxOf_lt_length_of_mem hd
  rw [List.getElem?_map, List.getElem?_eq_getElem hlt, List.getElem_idxOf hlt]
  rfl

theorem isReportedBy_sarifResult (rules : List Rule) (hd : d.rule ∈ ids) :
    d.IsReportedBy (ids.map (sarifRule rules)) (sarifResult ids d) where
  rule := rfl
  index := ⟨ids.idxOf d.rule, sarifRule rules d.rule, rfl, getElem?_idxOf_descriptors rules hd, rfl⟩
  level := rfl
  message := rfl
  region := ⟨sarifLocation d, _, rfl, rfl, ⟨rfl, rfl, rfl, rfl⟩⟩

/-! ### The report is readable -/

/-- The numbers that the report shows of a diagnostic. -/
def sarifNumbers (ids : List String) (d : Diagnostic) : List Int :=
  [(ids.idxOf d.rule : Int), d.span.line, d.span.column, d.span.stopLine, d.span.stopColumn]

theorem readable_sarifRule (rules : List Rule) (id : String) :
    Readable longest (room + 2) (sarifRule rules id) := by
  refine .ofKeys ["id", "shortDescription"] rfl (by decide) ?_
  simp only [List.forall_mem_cons]
  exact ⟨.text _, Readable.entry (.text _) "text", nofun⟩

theorem readable_sarifLocation (hline : IsShort longest d.span.line)
    (hcolumn : IsShort longest d.span.column) (hstopLine : IsShort longest d.span.stopLine)
    (hstopColumn : IsShort longest d.span.stopColumn) :
    Readable longest (room + 3) (sarifLocation d) := by
  have hregion : Readable longest (room + 1) (.object [("startLine", .int d.span.line),
      ("startColumn", .int d.span.column), ("endLine", .int d.span.stopLine),
      ("endColumn", .int d.span.stopColumn)]) := by
    refine .ofKeys ["startLine", "startColumn", "endLine", "endColumn"] rfl (by decide) ?_
    simp only [List.forall_mem_cons]
    exact ⟨.int hline, .int hcolumn, .int hstopLine, .int hstopColumn, nofun⟩
  refine Readable.entry ?_ "physicalLocation"
  refine .ofKeys ["artifactLocation", "region"] rfl (by decide) ?_
  simp only [List.forall_mem_cons]
  exact ⟨Readable.entry (.text _) "uri", hregion, nofun⟩

theorem readable_sarifResult (h : ∀ i ∈ sarifNumbers ids d, IsShort longest i) :
    Readable longest (room + 5) (sarifResult ids d) := by
  simp only [sarifNumbers, List.forall_mem_cons] at h
  obtain ⟨hindex, hline, hcolumn, hstopLine, hstopColumn, -⟩ := h
  refine .ofKeys ["ruleId", "ruleIndex", "level", "message", "locations", "properties"] rfl
    (by decide) ?_
  simp only [List.forall_mem_cons]
  refine ⟨.text _, .int hindex, .text _, Readable.entry (.text _) "text", .list fun j hj => ?_,
    Readable.entry (.text _) "kind", nofun⟩
  rw [List.mem_singleton.mp hj]
  exact readable_sarifLocation hline hcolumn hstopLine hstopColumn

theorem readable_sarif (rules : List Rule) (h : ∀ d ∈ Summary.diagnostics results,
    ∀ i ∈ sarifNumbers (reportedRules results) d, IsShort longest i) :
    Readable longest (room + 9) (sarif rules results) := by
  have hdescriptors : Readable longest (room + 4)
      (.list ((reportedRules results).map (sarifRule rules))) := by
    refine .list fun j hj => ?_
    obtain ⟨id, -, rfl⟩ := List.mem_map.mp hj
    exact readable_sarifRule rules id
  have hdriver : Readable longest (room + 5) (.object [("name", .text "convlint"),
      ("version", .text version),
      ("rules", .list ((reportedRules results).map (sarifRule rules)))]) := by
    refine .ofKeys ["name", "version", "rules"] rfl (by decide) ?_
    simp only [List.forall_mem_cons]
    exact ⟨.text _, .text _, hdescriptors, nofun⟩
  have hitems : Readable longest (room + 6)
      (.list ((Summary.diagnostics results).map (sarifResult (reportedRules results)))) := by
    refine .list fun j hj => ?_
    obtain ⟨d, hd, rfl⟩ := List.mem_map.mp hj
    exact readable_sarifResult (h d hd)
  have hrun : Readable longest (room + 7) (.object [("tool", .object [("driver", .object [
      ("name", .text "convlint"), ("version", .text version),
      ("rules", .list ((reportedRules results).map (sarifRule rules)))])]),
      ("results", .list ((Summary.diagnostics results).map
        (sarifResult (reportedRules results))))]) := by
    refine .ofKeys ["tool", "results"] rfl (by decide) ?_
    simp only [List.forall_mem_cons]
    exact ⟨hdriver.entry "driver", hitems, nofun⟩
  refine .ofKeys ["$schema", "version", "runs"] rfl (by decide) ?_
  simp only [List.forall_mem_cons]
  exact ⟨.text _, .text _, .list (List.forall_mem_singleton.mpr hrun), nofun⟩

/-- A report in the interchange format is read back, whatever the results are. -/
theorem readUnbounded_sarif (rules : List Rule) (results : List FileResult) :
    readUnbounded (sarif rules results).pretty = .ok (sarif rules results) := by
  obtain ⟨longest, hshort⟩ := exists_isShort
    ((Summary.diagnostics results).flatMap (sarifNumbers (reportedRules results)))
  have hreadable : Readable longest 9 (sarif rules results) := by
    refine readable_sarif rules fun d hd i hi => hshort i ?_
    exact List.mem_flatMap.mpr ⟨d, hd, hi⟩
  exact readUnbounded_pretty hreadable

/-- The text of a report in the interchange format is read as a value with one run.  The descriptors
of the run have the ids of the rules that occur in some diagnostic, each of them once, in increasing
order; its results report the diagnostics of the files one after the other, and each of them leads
to the descriptor of its rule. -/
theorem sarif_read_back (rules : List Rule) (results : List FileResult) :
    ∃ j run descriptors ids items, readUnbounded (render rules results .sarif) = .ok j ∧
      j.get? "runs" = some (.list [run]) ∧
      run.along? ["tool", "driver", "rules"] = some (.list descriptors) ∧
      run.get? "results" = some (.list items) ∧
      List.Forall₂ (fun id (descriptor : Json) => descriptor.get? "id" = some (.text id))
        ids descriptors ∧
      ids.Pairwise (· < ·) ∧
      (∀ id, id ∈ ids ↔ ∃ r ∈ results, ∃ d ∈ r.diagnostics, d.rule = id) ∧
      List.Forall₂ (Diagnostic.IsReportedBy descriptors) (results.flatMap FileResult.diagnostics)
        items := by
  refine ⟨sarif rules results, _, (reportedRules results).map (sarifRule rules),
    reportedRules results, (Summary.diagnostics results).map (sarifResult (reportedRules results)),
    readUnbounded_sarif rules results, rfl, rfl, rfl, ?_, pairwise_reportedRules results, ?_, ?_⟩
  · exact List.forall₂_map_right_iff.mpr (List.forall₂_same.mpr fun id _ => rfl)
  · intro id
    rw [mem_reportedRules_iff]
    constructor
    · rintro ⟨d, hd, hid⟩
      obtain ⟨r, hr, hdr⟩ := List.mem_flatMap.mp hd
      exact ⟨r, hr, d, hdr, hid⟩
    · rintro ⟨r, hr, d, hdr, hid⟩
      exact ⟨d, List.mem_flatMap.mpr ⟨r, hr, hdr⟩, hid⟩
  · refine List.forall₂_map_right_iff.mpr (List.forall₂_same.mpr fun d hd => ?_)
    exact isReportedBy_sarifResult rules (mem_reportedRules_iff.mpr ⟨d, hd, rfl⟩)

end Report

end CodeConventions
