import CodeConventions.Proofs.CommandLine.Configuration
import CodeConventions.Proofs.Rules.Builtin
import CodeConventions.Proofs.Workspace.Errors

/-!
# The code of a check

A check ends with zero if no file has an error and with one if a file has one, and with two if it is
configured with something that is of no use.  But it also ends with one where it breaks down, and
then no file need have an error.  So the code says less than it seems to, and this file says what it
does say: of a check that is configured (`CheckRun.code_of_configured`) and of one that is not
(`CheckRun.code_of_misconfigured`).

A check breaks down over some faults in what it is configured with, at a path that is too long to be
looked up, and over a report that cannot be written or whose path cannot be printed.
-/

namespace CodeConventions

namespace Workspace

/-- A text can be saved at the path, whatever the text is. -/
def canSave (w : Workspace) (p : FilePath) : Bool :=
  w.isDirectory p.parent && [none, some .missing].contains (w.fault? p)

theorem isSome_save? (w : Workspace) (p : FilePath) (text : String) :
    (w.save? p text).isSome = w.canSave p := by
  unfold save? canSave
  split
  next h => exact h.symm
  next h => exact (Bool.eq_false_iff.mpr h).symm

/-- The files are gathered unless a path is too long. -/
theorem mapError_gather {ε : Type} (w : Workspace) (settings : Settings) (paths : List FilePath)
    (fault : ε) :
    ((w.gather settings paths).mapError fun _ => fault) =
      if paths.any w.isTooLong then .error fault else .ok (w.collect settings paths) := by
  have hany : paths.any w.isTooLong = (paths.find? w.isTooLong).isSome := by
    rw [Bool.eq_iff_iff, List.any_eq_true, List.find?_isSome]
  rw [gather, hany]
  cases paths.find? w.isTooLong <;> rfl

/-- A directory with nothing but directories in it stands for no files. -/
theorem collect_eq_nil {w : Workspace} {p : FilePath} {e : Entry} (settings : Settings)
    (hp : w.at? p = some e) (he : e.isDirectory = true)
    (hfiles : e.descendants.all fun found => found.2.isDirectory) :
    w.collect settings [p] = [] := by
  have hdirectory : w.isDirectory p = true := by rw [isDirectory, hp, Option.any_some, he]
  rw [collect, List.flatMap_singleton, collectOne, if_pos hdirectory, List.map_eq_nil_iff,
    List.filter_eq_nil_iff]
  intro found hfound
  rw [listing, hp, List.mem_mergeSort] at hfound
  have hfound := List.all_eq_true.mp hfiles found hfound
  cases hentry : found.2 with
  | file f =>
    rw [hentry] at hfound
    exact nomatch hfound
  | directory es => simp [isSource, hentry, Entry.file?]

end Workspace

namespace CommandLine

/-- What is said of a report that has been written, unless that cannot be printed. -/
def announcement? (p : FilePath) : Option String :=
  Console.styledLine? s!"Report written to [bold]{p.toText}[/bold]"

section Delivery

variable (w : Workspace) (g : Registry) (results : List FileResult) (shown : ReportFormat)
variable (format : Option ReportFormat)

/-- A report that is written and told of leaves the code to the results. -/
theorem code_deliver_some (p : FilePath) :
    (deliver w g results shown format (some p)).code =
      if w.canSave p && (announcement? p).isSome && results.all FileResult.passed then 0
      else 1 := by
  unfold deliver announcement?
  dsimp only
  rw [← Option.not_isSome, Workspace.isSome_save?]
  cases w.canSave p with
  | false => rfl
  | true => cases Console.styledLine? s!"Report written to [bold]{p.toText}[/bold]" <;> rfl

theorem code_deliver_eq_one_iff (output : Option FilePath) :
    (deliver w g results shown format output).code = 1 ↔
      (∃ p ∈ output, w.canSave p = false ∨ announcement? p = none) ∨
        results.all FileResult.passed = false := by
  cases output with
  | none => cases h : results.all FileResult.passed <;> simp [deliver, h]
  | some p =>
    rw [code_deliver_some]
    simp only [Option.mem_def, Option.some.injEq, exists_eq_left']
    cases w.canSave p <;> cases announcement? p <;> simp

theorem code_deliver_le_one (output : Option FilePath) :
    (deliver w g results shown format output).code ≤ 1 := by
  cases output with
  | none =>
    change (if _ then 0 else 1) ≤ 1
    split <;> decide
  | some p =>
    rw [code_deliver_some]
    split <;> decide

end Delivery

/-- How a check is asked for. -/
structure CheckRun where
  workspace : Workspace := []
  environment : List (String × String) := []
  paths : List FilePath
  rules : List String := []
  categories : List Category := []
  format : Option ReportFormat := none
  output : Option FilePath := none
  config : Option FilePath := none

/-- What a check works with. -/
structure Configuration where
  settings : Settings
  shown : ReportFormat
  registry : Registry

namespace CheckRun

/-- How the check ends. -/
def outcome (c : CheckRun) : Outcome :=
  (Command.check c.paths c.rules c.categories c.format c.output c.config).run c.workspace
    c.environment

/-- The settings that are given with the command. -/
def given (c : CheckRun) : Json.Entries :=
  entryFor "rules" c.rules
    ++ entryFor "categories" (c.categories.map Category.name)
    ++ c.format.toList.map fun f => ("report_format", .text f.name)

/-- What the check works with, or the first fault in it. -/
def configuration (c : CheckRun) : Except ConfigFault Configuration := do
  let settings ← loadedSettings c.workspace c.environment c.config c.given
  let shown ← namedFormat settings
  let registry ← builtRegistry settings
  return ⟨settings, shown, registry⟩

/-- The results of the files that are checked. -/
def results (c : CheckRun) (k : Configuration) : List FileResult :=
  c.workspace.analyzeAll k.settings k.registry.rules c.paths

/-- The check breaks down although it is configured: a path is too long to be looked up, or the
report cannot be written, or it cannot be told where it was written. -/
def BreaksDown (c : CheckRun) : Prop :=
  (∃ p ∈ c.paths, c.workspace.isTooLong p = true) ∨
    ∃ p ∈ c.output, c.workspace.canSave p = false ∨ announcement? p = none

variable {c : CheckRun} {k : Configuration} {fault : ConfigFault}

theorem runCheck_eq (c : CheckRun) :
    runCheck c.workspace c.environment c.paths c.rules c.categories c.format c.output c.config =
      c.configuration.mapError ConfigFault.outcome >>= fun k =>
        if c.paths.any c.workspace.isTooLong then .error (.brokenDown "")
        else .ok (deliver c.workspace k.registry (c.results k) k.shown c.format c.output) := by
  simp only [runCheck, configuration, settingsFor_eq, shownFormat_eq, registryFor_eq,
    Except.mapError_bind, bind_assoc, Workspace.mapError_gather]
  refine bind_congr fun settings => bind_congr fun shown => bind_congr fun registry => ?_
  split <;> rfl

theorem outcome_of_error (h : c.configuration = .error fault) : c.outcome = fault.outcome :=
  (congrArg Command.run.merged c.runCheck_eq).trans (merged_of_error h _)

theorem outcome_of_ok (h : c.configuration = .ok k) :
    c.outcome =
      if c.paths.any c.workspace.isTooLong then .brokenDown ""
      else deliver c.workspace k.registry (c.results k) k.shown c.format c.output :=
  (congrArg Command.run.merged c.runCheck_eq).trans (merged_of_ok h _ _)

/-! ## A check that is configured -/

theorem registry_of_configuration (h : c.configuration = .ok k) :
    k.settings.registry = .ok k.registry := by
  obtain ⟨settings, _, h⟩ := Except.bind_eq_ok_iff.mp h
  obtain ⟨shown, _, h⟩ := Except.bind_eq_ok_iff.mp h
  obtain ⟨registry, hregistry, h⟩ := Except.bind_eq_ok_iff.mp h
  cases Except.ok.inj h
  exact Except.mapError_eq_ok_iff.mp hregistry

/-- A file has an error, or all results are passed. -/
theorem all_passed_eq_false_iff (h : c.configuration = .ok k) :
    (c.results k).all FileResult.passed = false ↔
      ∃ p ∈ c.workspace.collect k.settings c.paths, c.workspace.HasError k.registry.rules p := by
  have hids := (Settings.isBuiltin_of_registry (registry_of_configuration h)).2
  rw [← Bool.not_eq_true, results, Workspace.all_passed_analyzeAll_iff hids, not_not]

theorem code_eq_one_iff_of_ok (h : c.configuration = .ok k) :
    c.outcome.code = 1 ↔ c.BreaksDown ∨ (c.results k).all FileResult.passed = false := by
  rw [outcome_of_ok h, BreaksDown, ← List.any_eq_true, or_assoc]
  cases c.paths.any c.workspace.isTooLong with
  | true => simp [Outcome.brokenDown]
  | false => simp [code_deliver_eq_one_iff]

theorem code_le_one_of_ok (h : c.configuration = .ok k) : c.outcome.code ≤ 1 := by
  rw [outcome_of_ok h]
  split
  · exact le_rfl
  · exact code_deliver_le_one ..

/-- A check that is configured, and whose report can be written, ends with one exactly if one of
the files has an error or it breaks down nevertheless, and with zero otherwise. -/
theorem code_of_configured (hconfig : c.configuration = .ok k)
    (houtput : ∀ p ∈ c.output, c.workspace.canSave p = true) :
    (c.outcome.code = 1 ↔
      (∃ p ∈ c.workspace.collect k.settings c.paths, c.workspace.HasError k.registry.rules p) ∨
        (∃ p ∈ c.paths, c.workspace.isTooLong p = true) ∨
        ∃ p ∈ c.output, announcement? p = none) ∧
    (c.outcome.code ≠ 1 → c.outcome.code = 0) := by
  constructor
  · have hwritten : (∃ p ∈ c.output, c.workspace.canSave p = false ∨ announcement? p = none) ↔
        ∃ p ∈ c.output, announcement? p = none :=
      exists_congr fun p => and_congr_right fun hp => by simp [houtput p hp]
    rw [code_eq_one_iff_of_ok hconfig, all_passed_eq_false_iff hconfig, BreaksDown, hwritten,
      or_comm]
  · have hle := code_le_one_of_ok hconfig
    omega

/-- A check of one path, the report on which is written to a file. -/
def ofPath (w : Workspace) (path report : String) : CheckRun where
  workspace := w
  paths := [.ofText path]
  output := some (.ofText report)

/-- A file that is not there fails a check, and a directory without files does not. -/
theorem code_missing_empty :
    (∃ k, (ofPath [] "a.ts" "r.json").configuration = .ok k ∧
      (ofPath [] "a.ts" "r.json").outcome.code = 1) ∧
    ∃ k, (ofPath [] "." "r.json").configuration = .ok k ∧
      (ofPath [] "." "r.json").outcome.code = 0 := by
  have houtput : ∀ p ∈ some (FilePath.ofText "r.json"), Workspace.canSave [] p = true := by
    decide +kernel
  constructor
  · obtain ⟨k, hk⟩ : ∃ k, (ofPath [] "a.ts" "r.json").configuration = .ok k := ⟨_, rfl⟩
    refine ⟨k, hk, (code_of_configured hk houtput).1.mpr (Or.inl ⟨.ofText "a.ts", ?_, ?_⟩)⟩
    · exact List.mem_singleton_self _
    · exact Or.inl ⟨.missing (.ofText "a.ts"), rfl⟩
  · obtain ⟨k, hk⟩ : ∃ k, (ofPath [] "." "r.json").configuration = .ok k := ⟨_, rfl⟩
    refine ⟨k, hk, (code_of_configured hk houtput).2 fun hone => ?_⟩
    rcases (code_of_configured hk houtput).1.mp hone with ⟨p, hp, _⟩ | hlong | hline
    · have hnil := Workspace.collect_eq_nil (w := []) (p := .ofText ".") k.settings rfl rfl rfl
      exact absurd (hnil ▸ hp) List.not_mem_nil
    · revert hlong
      decide +kernel
    · revert hline
      decide +kernel

/-- No file has an error, and the report is written; but its path closes the tag that it is printed
in, and the tag that should close it has nothing left to close. -/
theorem code_closingTag :
    ∃ k, (ofPath [("[", .directory [])] "." "[/b].json").configuration = .ok k ∧
      (∀ p ∈ (ofPath [("[", .directory [])] "." "[/b].json").output,
        Workspace.canSave [("[", .directory [])] p = true) ∧
      (¬ ∃ p ∈ Workspace.collect [("[", .directory [])] k.settings [.ofText "."],
        Workspace.HasError [("[", .directory [])] k.registry.rules p) ∧
      (ofPath [("[", .directory [])] "." "[/b].json").outcome.code = 1 := by
  obtain ⟨k, hk⟩ : ∃ k, (ofPath [("[", .directory [])] "." "[/b].json").configuration = .ok k :=
    ⟨_, rfl⟩
  refine ⟨k, hk, ?_, ?_, ?_⟩
  · intro p hp
    rw [← Option.mem_some.mp hp]
    decide +kernel
  · rw [Workspace.collect_eq_nil k.settings rfl rfl rfl]
    simp
  · refine (code_eq_one_iff_of_ok hk).mpr (Or.inl (Or.inr ⟨_, rfl, Or.inr ?_⟩))
    decide +kernel

/-! ## A check that is not configured -/

theorem exists_error_iff (c : CheckRun) (k : Configuration) :
    (c.results k).all FileResult.passed = false ↔
      ∃ result ∈ c.results k, ∃ e ∈ result.diagnostics, e.severity = .error := by
  rw [← Bool.not_eq_true, List.all_eq_true]
  simp only [FileResult.passed_eq_true_iff, not_forall, not_not, exists_prop]

/-- A check with a fault in what it is configured with ends with two, unless it breaks down over the
fault, and leaves nothing behind.  It ends with one exactly if it breaks down, over such a fault or
later, or a result has an error. -/
theorem code_of_misconfigured (c : CheckRun) :
    (∀ fault, c.configuration = .error fault →
      (c.outcome.code = 2 ↔ ¬ fault.BreaksDown) ∧ (c.outcome.code = 1 ↔ fault.BreaksDown) ∧
        c.outcome.printed = "" ∧ c.outcome.saved = none) ∧
    (c.outcome.code = 1 ↔
      (∃ fault, c.configuration = .error fault ∧ fault.BreaksDown) ∨
        ∃ k, c.configuration = .ok k ∧
          (c.BreaksDown ∨
            ∃ result ∈ c.results k, ∃ e ∈ result.diagnostics, e.severity = .error)) := by
  constructor
  · intro fault hfault
    rw [outcome_of_error hfault]
    obtain ⟨hone, htwo⟩ := fault.code_outcome
    exact ⟨htwo, hone, fault.outcome_silent⟩
  · cases hconfig : c.configuration with
    | error fault =>
      rw [outcome_of_error hconfig, fault.code_outcome.1]
      simp
    | ok k =>
      rw [code_eq_one_iff_of_ok hconfig, exists_error_iff]
      simp

/-- A check of a file under settings that are to be read from another file. -/
def underSettings (w : Workspace) : CheckRun where
  workspace := w
  paths := [.ofText "a.ts"]
  config := some (.ofText "c.json")

/-- A check is misused if the file with settings is not there. -/
theorem code_missingSettings :
    (underSettings []).configuration = .error (.noFile (.ofText "c.json") .missing) ∧
      (underSettings []).outcome.code = 2 := by
  have hconfig : (underSettings []).configuration = .error (.noFile (.ofText "c.json") .missing) :=
    rfl
  refine ⟨hconfig, ((code_of_misconfigured _).1 _ hconfig).1.mpr ?_⟩
  rw [ConfigFault.not_breaksDown_iff]
  refine ⟨rfl, fun text htext => ?_⟩
  rw [← Option.some.inj htext]
  decide +kernel

/-- A check breaks down over a file with settings in which the value is no collection of entries. -/
theorem outcome_of_noCollection {p : FilePath} {f : StoredFile} {text : String} {j : Json}
    (hp : c.config = some p) (hopen : c.workspace.openFile p = .ok f) (htext : f.text = .ok text)
    (hread : Json.read text = .ok j) (hj : j.IsNoCollection) :
    c.configuration = .error (.noSettings (.noEntries .noEntries)) ∧
      c.outcome = .brokenDown "" := by
  have hloaded : loadedSettings c.workspace c.environment c.config c.given =
      .error (.noSettings (.noEntries .noEntries)) :=
    loadedSettings_eq_noEntries_iff.mpr ⟨p, hp, f, text, j, hopen, htext, hread, hj⟩
  have hconfig : c.configuration = .error (.noSettings (.noEntries .noEntries)) := by
    rw [configuration, hloaded]
    rfl
  exact ⟨hconfig, by rw [outcome_of_error hconfig]; rfl⟩

/-- A number where settings should be. -/
def numberForSettings : Workspace := [("c.json", .file ⟨"5".toUTF8.toList, default⟩)]

/-- A file with a number in the place of settings is of no use, but the check does not say so: it
ends like a check that found errors. -/
theorem code_numberForSettings :
    (∃ fault, (underSettings numberForSettings).configuration = .error fault) ∧
      (underSettings numberForSettings).outcome = { code := 1, printed := "" } := by
  have htext : StoredFile.text ⟨"5".toUTF8.toList, default⟩ = .ok "5" := by decide +kernel
  have hread : Json.read "5" = .ok (.int 5) := by rfl
  have hfive : (Json.int 5).IsNoCollection := ⟨nofun, Or.inl rfl⟩
  obtain ⟨hconfig, houtcome⟩ :=
    outcome_of_noCollection (c := underSettings numberForSettings) rfl rfl htext hread hfive
  exact ⟨⟨_, hconfig⟩, houtcome⟩

end CheckRun

end CommandLine

end CodeConventions
