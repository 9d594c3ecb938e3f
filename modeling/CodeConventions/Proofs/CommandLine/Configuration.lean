import CodeConventions.CommandLine.Run
import CodeConventions.Proofs.Settings.Entries

/-!
# What a command is configured with

Before a command looks at any file it reads the file with settings, puts the settings together and
builds the registry that they describe.  Each of these steps has faults of its own, and a command
ends with the first fault (`ConfigFault`).

A fault is met with a word to the user and the code of a command that is misused.  Not every fault
is: some are of a kind that nobody looked for, and some have a text that cannot be printed, because
what it quotes looks like a tag.  Over these a command breaks down (`ConfigFault.BreaksDown`), and
then it ends with the code of a check that found errors (`ConfigFault.code_outcome`).
-/

namespace CodeConventions.CommandLine

/-- Why a command has no configuration. -/
inductive ConfigFault where
  /-- The path leads to no file with settings. -/
  | noFile (path : FilePath) (reason : AccessFault)
  /-- The file with settings is no text. -/
  | notText (reason : Text.Utf8.DecodeError)
  | noSettings (reason : SettingsFault)
  /-- No format has the name that the settings give. -/
  | noFormat (name : String)
  | noRegistry (settings : Settings) (reason : RegistryFault)

namespace ConfigFault

/-- What the user is told, where what is told may have something in it that looks like a tag. -/
def told? : ConfigFault → Option String
  | .noFile path reason => some (reason.message path)
  | .notText _ => none
  | .noSettings (.unreadableFile _) => none
  | .noSettings reason => some (reason.message?.getD "")
  | .noFormat name => some s!"{Text.Quoted.encode name} is not a valid ReportFormat"
  | .noRegistry settings reason => some (settings.explain reason)

/-- The fault is of a kind that a command is prepared for.  It is not prepared for a file whose
value is no collection of entries or has a key that is no text, nor for lists and objects that are
nested too deep. -/
def isForeseen : ConfigFault → Bool
  | .noSettings (.noEntries .noEntries) => false
  | .noSettings (.unreadableFile reason) => !reason.isDeep
  | .noSettings (.deepVariable _) => false
  | _ => true

/-- A command breaks down over the fault: it is not prepared for it, or what the user is to be told
cannot be printed. -/
def BreaksDown (fault : ConfigFault) : Prop :=
  fault.isForeseen = false ∨ ∃ text, fault.told? = some text ∧
    Console.styledLine? s!"[red]Error:[/red] {text}" = none

/-- How a command ends over the fault. -/
def outcome : ConfigFault → Outcome
  | .noFile path reason => .refused (reason.message path)
  | .notText _ => .misused
  | .noSettings reason => settingsOutcome reason
  | .noFormat name => .refused s!"{Text.Quoted.encode name} is not a valid ReportFormat"
  | .noRegistry settings reason => .refused (settings.explain reason)

end ConfigFault

/-! ## The steps -/

/-- The text of the file with settings, if one is given. -/
def fileText (w : Workspace) : Option FilePath → Except ConfigFault (Option String)
  | none => .ok none
  | some p =>
    match w.openFile p with
    | .error reason => .error (.noFile p reason)
    | .ok f => (f.text.map some).mapError .notText

/-- The settings that a command loads. -/
def loadedSettings (w : Workspace) (environment : List (String × String))
    (config : Option FilePath) (given : Json.Entries) : Except ConfigFault Settings := do
  let file ← fileText w config
  (Settings.load ⟨file, given, environment⟩).mapError .noSettings

/-- The format that settings name. -/
def namedFormat (settings : Settings) : Except ConfigFault ReportFormat :=
  match ReportFormat.ofName? settings.reportFormat with
  | some f => .ok f
  | none => .error (.noFormat settings.reportFormat)

/-- The registry that settings describe. -/
def builtRegistry (settings : Settings) : Except ConfigFault Registry :=
  settings.registry.mapError (.noRegistry settings)

theorem settingsText_eq (w : Workspace) (config : Option FilePath) :
    settingsText w config = (fileText w config).mapError ConfigFault.outcome := by
  cases config with
  | none => rfl
  | some p =>
    rw [settingsText, fileText]
    cases w.openFile p with
    | error reason => rfl
    | ok f =>
      dsimp only
      cases f.text <;> rfl

theorem settingsFor_eq (w : Workspace) (environment : List (String × String))
    (config : Option FilePath) (given : Json.Entries) :
    settingsFor w environment config given =
      (loadedSettings w environment config given).mapError ConfigFault.outcome := by
  unfold settingsFor loadedSettings
  rw [settingsText_eq, Except.mapError_bind]
  refine congrArg _ (funext fun file => ?_)
  cases Settings.load ⟨file, given, environment⟩ <;> rfl

theorem shownFormat_eq (settings : Settings) :
    shownFormat settings = (namedFormat settings).mapError ConfigFault.outcome := by
  unfold shownFormat namedFormat
  cases ReportFormat.ofName? settings.reportFormat <;> rfl

theorem registryFor_eq (settings : Settings) :
    registryFor settings = (builtRegistry settings).mapError ConfigFault.outcome := by
  unfold registryFor builtRegistry
  cases settings.registry <;> rfl

/-- Settings fail to be loaded for want of entries if the value in the file is no collection of
entries, whatever the environment and the caller give. -/
theorem loadedSettings_eq_noEntries_iff {w : Workspace} {environment : List (String × String)}
    {config : Option FilePath} {given : Json.Entries} :
    loadedSettings w environment config given = .error (.noSettings (.noEntries .noEntries)) ↔
      ∃ p ∈ config, ∃ f text j, w.openFile p = .ok f ∧ f.text = .ok text ∧
        Json.read text = .ok j ∧ j.IsNoCollection := by
  have hinjective : ConfigFault.noSettings.Injective := fun _ _ => ConfigFault.noSettings.inj
  have hload (file : Option String) := (Except.mapError_eq_error_iff hinjective).trans
    (Settings.load_eq_noEntries_iff (s := ⟨file, given, environment⟩))
  unfold loadedSettings
  cases config with
  | none =>
    refine (hload none).trans ?_
    simp
  | some p =>
    rw [fileText]
    cases hopen : w.openFile p with
    | error reason => simp [bind, Except.bind, hopen]
    | ok f =>
      dsimp only
      cases htext : f.text with
      | error reason => simp [bind, Except.bind, Except.map, Except.mapError, hopen, htext]
      | ok text =>
        refine (hload (some text)).trans ?_
        simp [hopen, htext]

/-! ## How a fault ends a command -/

namespace ConfigFault

variable {fault : ConfigFault}

theorem outcome_of_not_isForeseen (h : fault.isForeseen = false) :
    fault.outcome = .brokenDown "" := by
  unfold isForeseen at h
  split at h
  next => rfl
  next reason =>
    have hdeep : reason.isDeep = true := by simpa using h
    rw [outcome, settingsOutcome, if_pos hdeep]
  next => rfl
  next => exact nomatch h

/-- The user is told of a fault that is foreseen. -/
theorem outcome_of_isForeseen (h : fault.isForeseen = true) :
    fault.outcome = (fault.told?.map Outcome.refused).getD .misused := by
  cases fault with
  | noFile path reason | noFormat name | noRegistry settings reason =>
    rw [outcome, told?, Option.map_some, Option.getD_some]
  | notText reason => rw [outcome, told?, Option.map_none, Option.getD_none]
  | noSettings reason =>
    rw [outcome]
    cases reason with
    | unreadableFile reason =>
      have hflat : ¬ reason.isDeep = true := by simpa [isForeseen] using h
      rw [settingsOutcome, if_neg hflat, told?, Option.map_none, Option.getD_none]
    | noEntries reason =>
      cases reason with
      | noEntries => exact nomatch h
      | notPair index length =>
        simp only [settingsOutcome, told?, Option.map_some, Option.getD_some]
    | malformedVariable setting | invalid entries issues =>
      simp only [settingsOutcome, told?, Option.map_some, Option.getD_some]
    | deepVariable reason => exact nomatch h

theorem not_breaksDown_iff :
    ¬ fault.BreaksDown ↔ fault.isForeseen = true ∧ ∀ text, fault.told? = some text →
      Console.styledLine? s!"[red]Error:[/red] {text}" ≠ none := by
  rw [BreaksDown, not_or, Bool.not_eq_false, not_exists]
  simp only [not_and, ne_eq]

theorem outcome_of_breaksDown (h : fault.BreaksDown) : fault.outcome = .brokenDown "" := by
  cases hforeseen : fault.isForeseen with
  | false => exact outcome_of_not_isForeseen hforeseen
  | true =>
    obtain ⟨text, htold, hline⟩ := h.resolve_left (by rw [hforeseen]; exact Bool.noConfusion)
    rw [outcome_of_isForeseen hforeseen, htold, Option.map_some, Option.getD_some,
      Outcome.refused, hline]
    rfl

theorem outcome_of_not_breaksDown (h : ¬ fault.BreaksDown) : fault.outcome = .misused := by
  obtain ⟨hforeseen, hline⟩ := not_breaksDown_iff.mp h
  rw [outcome_of_isForeseen hforeseen]
  cases htold : fault.told? with
  | none => rfl
  | some text =>
    rw [Option.map_some, Option.getD_some, Outcome.refused,
      if_pos (Option.isSome_iff_ne_none.mpr (hline text htold))]

/-- A command that breaks down over a fault ends like a check that found errors. -/
theorem code_outcome (fault : ConfigFault) :
    (fault.outcome.code = 1 ↔ fault.BreaksDown) ∧
      (fault.outcome.code = 2 ↔ ¬ fault.BreaksDown) := by
  by_cases h : fault.BreaksDown
  · rw [outcome_of_breaksDown h]
    simp [Outcome.brokenDown, h]
  · rw [outcome_of_not_breaksDown h]
    simp [Outcome.misused, h]

/-- Over a fault nothing is printed and nothing is written. -/
theorem outcome_silent (fault : ConfigFault) :
    fault.outcome.printed = "" ∧ fault.outcome.saved = none := by
  by_cases h : fault.BreaksDown
  · rw [outcome_of_breaksDown h]
    exact ⟨rfl, rfl⟩
  · rw [outcome_of_not_breaksDown h]
    exact ⟨rfl, rfl⟩

end ConfigFault

section Merged

variable {α : Type} {configuration : Except ConfigFault α}

/-- A command ends over the first fault in what it is configured with. -/
theorem merged_of_error {fault : ConfigFault} (h : configuration = .error fault)
    (next : α → Except Outcome Outcome) :
    Command.run.merged (configuration.mapError ConfigFault.outcome >>= next) = fault.outcome := by
  rw [h]
  rfl

/-- A command that is configured goes on, unless a path that it is given is too long. -/
theorem merged_of_ok {k : α} (h : configuration = .ok k) (long : Bool) (next : α → Outcome) :
    Command.run.merged (configuration.mapError ConfigFault.outcome >>= fun k =>
        if long then .error (.brokenDown "") else .ok (next k)) =
      if long then .brokenDown "" else next k := by
  rw [h]
  cases long <;> rfl

end Merged

end CodeConventions.CommandLine
