import CodeConventions.Proofs.CommandLine.Configuration

/-!
# Fixtures one after the other

Fixtures are judged in their order, and a verdict depends on nothing but the file it is about.  What
is printed is a text for each verdict, and the code is one as soon as a verdict is no pass.  That
holds as long as there is a text for every verdict.  A fixture that is no text, or has a number with
too many digits, is judged by nobody; and what is to be said of a fixture may be something that
cannot be printed.  At the first fixture of this kind the run ends, and no word is said of the
fixtures behind it (`TrialRun.outcome_of_configured`).

## Strategy

`concludeFrom_append` is the run: the verdicts for which there are texts leave their texts and the
number of those that are no passes, whatever follows.  What follows is nothing, or a verdict without
a text.
-/

namespace CodeConventions

/-- Nobody judges the fixture: it is no text, or a number in it has too many digits to be read. -/
def Workspace.IsBeyondJudgement (w : Workspace) (p : FilePath) : Prop :=
  ∃ f, w.file? p = some f ∧
    ((∃ reason, f.text = .error reason) ∨
      ∃ text digits, f.text = .ok text ∧ Layout.ofText text = .error (.longNumber digits))

/-- A run of a fixture depends on the file only. -/
theorem Workspace.runFixture_congr {w v : Workspace} {p : FilePath} (g : Registry)
    (named : List String) (h : v.file? p = w.file? p) :
    v.runFixture g named p = w.runFixture g named p := by
  rw [runFixture, runFixture, h]

namespace CommandLine

variable {w : Workspace} {g : Registry} {p : FilePath}

/-- The faults that end a run are those of fixtures that nobody judges. -/
theorem exists_isFatal_iff (g : Registry) (named : List String) :
    (∃ reason, w.runFixture g named p = .error reason ∧ isFatal reason = true) ↔
      w.IsBeyondJudgement p := by
  unfold Workspace.runFixture Workspace.IsBeyondJudgement
  cases w.file? p with
  | none => simp [isFatal]
  | some f =>
    dsimp only
    cases htext : f.text with
    | error reason => simp [isFatal, htext]
    | ok text =>
      dsimp only
      cases hlayout : Layout.ofText text with
      | error reason => cases reason <;> simp [isFatal, htext, hlayout]
      | ok layout =>
        dsimp only
        cases g.select ⟨rulesFor p named, [], []⟩ <;> simp [isFatal, htext, hlayout]

namespace Verdict

/-- What is said of a fixture first, with its tags. -/
def headline (p : FilePath) : Verdict → String
  | .passed cases => s!"[green]✓ PASS[/green] {p.toText} ({cases} sub-cases)"
  | .failed _ => s!"[red]✗ FAIL[/red] {p.toText}"
  | .refused reason => s!"[red]✗ ERROR[/red] {p.toText}: {reason.message}"

theorem toText?_passed (cases : Nat) :
    (passed cases).toText? p = Console.styledLine? ((passed cases).headline p) := rfl

theorem toText?_failed (problems : List Problem) :
    (failed problems).toText? p =
      (Console.styledLine? ((failed problems).headline p)).map fun head =>
        head ++ String.join (problems.map fun x => Console.line s!"    - {x.message}") := rfl

theorem toText?_refused (reason : FixtureFault) :
    (refused reason).toText? p =
      if isFatal reason then none else Console.styledLine? ((refused reason).headline p) := rfl

/-- There is no text for a verdict that ends the run, nor where the first line cannot be printed. -/
theorem toText?_eq_none_iff {v : Verdict} :
    v.toText? p = none ↔
      (∃ reason, v = .refused reason ∧ isFatal reason = true) ∨
        Console.styledLine? (v.headline p) = none := by
  cases v with
  | passed cases =>
    rw [toText?_passed, or_iff_right]
    rintro ⟨reason, h, _⟩
    exact nomatch h
  | failed problems =>
    rw [toText?_failed, Option.map_eq_none_iff, or_iff_right]
    rintro ⟨reason, h, _⟩
    exact nomatch h
  | refused reason =>
    rw [toText?_refused]
    split
    next h => exact iff_of_true rfl (Or.inl ⟨reason, rfl, h⟩)
    next h =>
      rw [or_iff_right]
      rintro ⟨reason, heq, hfatal⟩
      cases heq
      exact h hfatal

end Verdict

/-! ## The run -/

/-- A verdict for which there is a text leaves the text, and counts if it is no pass. -/
theorem concludeFrom_cons {v : Verdict} {text : String} (h : v.toText? p = some text)
    (rest : List (FilePath × Verdict)) (printed : String) (failures : Nat) :
    concludeFrom printed failures ((p, v) :: rest) =
      concludeFrom (printed ++ text) (failures + if !v.isPass then 1 else 0) rest := by
  rw [concludeFrom, h]
  cases v.isPass <;> rfl

/-- A verdict for which there is no text ends the run. -/
theorem concludeFrom_cons_of_eq_none {v : Verdict} (h : v.toText? p = none)
    (rest : List (FilePath × Verdict)) (printed : String) (failures : Nat) :
    concludeFrom printed failures ((p, v) :: rest) = .brokenDown printed := by
  rw [concludeFrom, h]

/-- Verdicts for which there are texts leave the texts, and count where they are no passes. -/
theorem concludeFrom_append {vs : List (FilePath × Verdict)} (rest : List (FilePath × Verdict))
    (h : ∀ v ∈ vs, v.2.toText? v.1 ≠ none) (printed : String) (failures : Nat) :
    concludeFrom printed failures (vs ++ rest) =
      concludeFrom (printed ++ String.join (vs.map fun v => (v.2.toText? v.1).getD ""))
        (failures + vs.countP fun v => !v.2.isPass) rest := by
  induction vs generalizing printed failures with
  | nil => simp
  | cons v vs ih =>
    obtain ⟨p, v⟩ := v
    obtain ⟨hv, hvs⟩ := List.forall_mem_cons.mp h
    obtain ⟨text, htext⟩ := Option.ne_none_iff_exists'.mp hv
    rw [List.cons_append, concludeFrom_cons htext, ih hvs, List.map_cons, String.join_cons,
      List.countP_cons, htext, Option.getD_some, String.append_assoc, Nat.add_assoc,
      Nat.add_comm (if !v.isPass then 1 else 0)]

/-- The last line of a run, where verdicts are no passes. -/
def summary (failures : Nat) : String :=
  if failures = 0 then "" else Console.line s!"\n{failures} fixture(s) failed"

theorem concludeFrom_nil (printed : String) (failures : Nat) :
    concludeFrom printed failures [] =
      { code := if failures = 0 then 0 else 1, printed := printed ++ summary failures } := by
  rw [concludeFrom, summary]
  split <;> simp

/-- How fixtures are asked to be run. -/
structure TrialRun where
  workspace : Workspace := []
  environment : List (String × String) := []
  paths : List FilePath
  named : List String := []
  config : Option FilePath := none

namespace TrialRun

/-- How the run ends. -/
def outcome (t : TrialRun) : Outcome :=
  (Command.fixture t.paths t.named t.config).run t.workspace t.environment

/-- The registry that the run works with, or the first fault in what it is configured with. -/
def configuration (t : TrialRun) : Except ConfigFault Registry := do
  let settings ← loadedSettings t.workspace t.environment t.config []
  builtRegistry settings

/-- The fixtures that are run, in order. -/
def files (t : TrialRun) : List FilePath := t.paths.flatMap (fixturesAt t.workspace)

/-- The verdict on a fixture. -/
def verdict (t : TrialRun) (g : Registry) (p : FilePath) : Verdict :=
  CommandLine.verdict t.workspace g t.named p

/-- What is printed about a fixture. -/
def said (t : TrialRun) (g : Registry) (p : FilePath) : String :=
  ((t.verdict g p).toText? p).getD ""

/-- The number of fixtures for which the verdict is no pass. -/
def failures (t : TrialRun) (g : Registry) : Nat := t.files.countP fun p => !(t.verdict g p).isPass

/-- No word is said of the fixture: nobody judges it, or what is to be said cannot be printed. -/
def IsUnspoken (t : TrialRun) (g : Registry) (p : FilePath) : Prop :=
  t.workspace.IsBeyondJudgement p ∨ Console.styledLine? ((t.verdict g p).headline p) = none

variable {t : TrialRun} {before after : List FilePath}

theorem isUnspoken_iff : t.IsUnspoken g p ↔ (t.verdict g p).toText? p = none := by
  have hfatal : (∃ reason, t.verdict g p = .refused reason ∧ isFatal reason = true) ↔
      t.workspace.IsBeyondJudgement p := by
    rw [← exists_isFatal_iff g t.named]
    refine exists_congr fun reason => and_congr_left fun _ => ?_
    unfold verdict CommandLine.verdict
    cases t.workspace.runFixture g t.named p with
    | error fault => simp
    | ok fixture =>
      dsimp only
      split <;> simp
  rw [IsUnspoken, Verdict.toText?_eq_none_iff, hfatal]

theorem runFixtures_eq (t : TrialRun) :
    runFixtures t.workspace t.environment t.paths t.named t.config =
      t.configuration.mapError ConfigFault.outcome >>= fun g =>
        if t.paths.any t.workspace.isTooLong then .error (.brokenDown "")
        else .ok (concludeFrom "" 0 (t.files.map fun p => (p, t.verdict g p))) := by
  simp only [runFixtures, configuration, settingsFor_eq, registryFor_eq, Except.mapError_bind,
    bind_assoc]
  rfl

theorem outcome_of_ok (h : t.configuration = .ok g) :
    t.outcome =
      if t.paths.any t.workspace.isTooLong then .brokenDown ""
      else concludeFrom "" 0 (t.files.map fun p => (p, t.verdict g p)) :=
  (congrArg Command.run.merged t.runFixtures_eq).trans (merged_of_ok h _ _)

theorem outcome_of_lookedUp (h : t.configuration = .ok g)
    (hpaths : ∀ p ∈ t.paths, t.workspace.isTooLong p = false) :
    t.outcome = concludeFrom "" 0 (t.files.map fun p => (p, t.verdict g p)) := by
  rw [outcome_of_ok h, if_neg]
  simpa using hpaths

/-- Fixtures of which something is said leave what is said of them, and their failures. -/
theorem concludeFrom_files (g : Registry) (rest : List (FilePath × Verdict))
    (h : ∀ q ∈ before, ¬ t.IsUnspoken g q) :
    concludeFrom "" 0 ((before.map fun p => (p, t.verdict g p)) ++ rest) =
      concludeFrom (String.join (before.map (t.said g)))
        (before.countP fun p => !(t.verdict g p).isPass) rest := by
  have hspoken : ∀ v ∈ before.map fun p => (p, t.verdict g p), v.2.toText? v.1 ≠ none := by
    intro v hv
    obtain ⟨q, hq, rfl⟩ := List.mem_map.mp hv
    exact mt isUnspoken_iff.mpr (h q hq)
  rw [concludeFrom_append rest hspoken, String.empty_append, Nat.zero_add, List.map_map,
    List.countP_map]
  rfl

/-- If something can be said of every fixture, that is what is printed, in order, and the code is
one exactly if a verdict is no pass. -/
theorem outcome_of_spoken (h : t.configuration = .ok g)
    (hpaths : ∀ p ∈ t.paths, t.workspace.isTooLong p = false)
    (hspoken : ∀ p ∈ t.files, ¬ t.IsUnspoken g p) :
    t.outcome.printed = String.join (t.files.map (t.said g)) ++ summary (t.failures g) ∧
      (t.outcome.code = 1 ↔ ∃ p ∈ t.files, (t.verdict g p).isPass = false) ∧
      (t.outcome.code ≠ 1 → t.outcome.code = 0) := by
  have hrun := concludeFrom_files g [] hspoken
  rw [List.append_nil, concludeFrom_nil] at hrun
  rw [outcome_of_lookedUp h hpaths, hrun]
  refine ⟨rfl, ?_, ?_⟩
  · simp [List.countP_eq_zero]
  · dsimp only
    split <;> simp

/-- At the first fixture of which nothing is said the run ends. -/
theorem outcome_of_unspoken (h : t.configuration = .ok g)
    (hpaths : ∀ p ∈ t.paths, t.workspace.isTooLong p = false)
    (hfiles : t.files = before ++ p :: after) (hspoken : ∀ q ∈ before, ¬ t.IsUnspoken g q)
    (hp : t.IsUnspoken g p) : t.outcome = .brokenDown (String.join (before.map (t.said g))) := by
  rw [outcome_of_lookedUp h hpaths, hfiles, List.map_append, List.map_cons,
    concludeFrom_files g _ hspoken, concludeFrom_cons_of_eq_none (isUnspoken_iff.mp hp)]

/-- The verdict on a fixture depends on its own file only.  Where something can be said of every
fixture, that is what is printed, in order, and the code is one exactly if a verdict is no pass.
Where nothing is said of a fixture, the run ends there, and nothing is said of those behind it;
where a path is too long, nothing is said of any. -/
theorem outcome_of_configured (hconfig : t.configuration = .ok g) :
    (∀ u : TrialRun, u.named = t.named → ∀ p, u.workspace.file? p = t.workspace.file? p →
      u.verdict g p = t.verdict g p) ∧
    ((∀ p ∈ t.paths, t.workspace.isTooLong p = false) → (∀ p ∈ t.files, ¬ t.IsUnspoken g p) →
      t.outcome.printed = String.join (t.files.map (t.said g)) ++ summary (t.failures g) ∧
      (t.outcome.code = 1 ↔ ∃ p ∈ t.files, (t.verdict g p).isPass = false) ∧
      (t.outcome.code ≠ 1 → t.outcome.code = 0)) ∧
    ((∀ p ∈ t.paths, t.workspace.isTooLong p = false) → ∀ before p after,
      t.files = before ++ p :: after → (∀ q ∈ before, ¬ t.IsUnspoken g q) → t.IsUnspoken g p →
        t.outcome = .brokenDown (String.join (before.map (t.said g)))) ∧
    ((∃ p ∈ t.paths, t.workspace.isTooLong p = true) → t.outcome = .brokenDown "") := by
  refine ⟨fun u hnamed p hfile => ?_, outcome_of_spoken hconfig,
    fun hpaths before p after => outcome_of_unspoken hconfig hpaths, fun hlong => ?_⟩
  · unfold verdict CommandLine.verdict
    rw [hnamed, Workspace.runFixture_congr g t.named hfile]
  · rw [outcome_of_ok hconfig, if_pos (List.any_eq_true.mpr hlong)]

/-- Two fixtures are run; the first one is a file with some bytes, and the second one is missing. -/
def ofBytes (bytes : List UInt8) : TrialRun where
  workspace := [("a.ts", .file ⟨bytes, default⟩)]
  paths := [.ofText "a.ts", .ofText "b.ts"]

theorem verdict_ofBytes_missing (bytes : List UInt8) (g : Registry) :
    (ofBytes bytes).verdict g (.ofText "b.ts") = .refused (.missing (.ofText "b.ts")) := rfl

/-- A fixture without regions and one that is missing are both judged. -/
theorem outcome_empty_missing :
    ∃ g, (ofBytes []).configuration = .ok g ∧
      (∀ p ∈ (ofBytes []).paths, (ofBytes []).workspace.isTooLong p = false) ∧
      (∀ p ∈ (ofBytes []).files, ¬ (ofBytes []).IsUnspoken g p) ∧
      (ofBytes []).outcome.code = 1 := by
  obtain ⟨g, hg⟩ : ∃ g, (ofBytes []).configuration = .ok g := ⟨_, rfl⟩
  have hpaths : ∀ p ∈ (ofBytes []).paths, (ofBytes []).workspace.isTooLong p = false := by
    decide +kernel
  have hfiles : (ofBytes []).files = [.ofText "a.ts", .ofText "b.ts"] := by decide +kernel
  have hempty : (ofBytes []).verdict g (.ofText "a.ts") =
      .refused (.malformed (.ofText "a.ts") .noValid) := rfl
  have hspoken : ∀ p ∈ (ofBytes []).files, ¬ (ofBytes []).IsUnspoken g p := by
    rw [hfiles]
    refine List.forall_mem_cons.mpr ⟨?_, List.forall_mem_singleton.mpr ?_⟩
    · rw [isUnspoken_iff, hempty]
      decide +kernel
    · rw [isUnspoken_iff, verdict_ofBytes_missing]
      decide +kernel
  refine ⟨g, hg, hpaths, hspoken, ?_⟩
  obtain ⟨-, hcode, -⟩ := (outcome_of_configured hg).2.1 hpaths hspoken
  refine hcode.mpr ⟨.ofText "b.ts", ?_, rfl⟩
  rw [hfiles]
  exact List.mem_cons_of_mem _ (List.mem_singleton_self _)

/-- A fixture that is no text hides the one behind it, of which there is something to be said. -/
theorem outcome_notText_missing :
    ∃ g, (ofBytes [255]).configuration = .ok g ∧
      (ofBytes [255]).files = [.ofText "a.ts", .ofText "b.ts"] ∧
      (ofBytes [255]).said g (.ofText "b.ts") =
        "✗ ERROR b.ts: Malformed fixture b.ts: file not found\n" ∧
      (ofBytes [255]).outcome = .brokenDown "" := by
  obtain ⟨g, hg⟩ : ∃ g, (ofBytes [255]).configuration = .ok g := ⟨_, rfl⟩
  have hfiles : (ofBytes [255]).files = [] ++ .ofText "a.ts" :: [.ofText "b.ts"] := by
    decide +kernel
  refine ⟨g, hg, hfiles, ?_, ?_⟩
  · rw [said, verdict_ofBytes_missing]
    decide +kernel
  · have hbeyond : (ofBytes [255]).workspace.IsBeyondJudgement (.ofText "a.ts") :=
      ⟨_, rfl, Or.inl ⟨_, rfl⟩⟩
    exact outcome_of_unspoken hg (by decide +kernel) hfiles nofun (Or.inl hbeyond)

end TrialRun

end CommandLine

end CodeConventions
