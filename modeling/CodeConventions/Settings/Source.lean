import CodeConventions.Json.Basic
import CodeConventions.Json.Pairs
import CodeConventions.Json.Reader
import CodeConventions.Options.Issue
import CodeConventions.Settings.Basic

/-!
# Where settings come from

Settings are put together from the environment, from a file, and from what the caller asks for.
What comes later in this list hides what comes earlier, but the objects among the settings are
joined key by key.

A file holds an object, or pairs of a key and a value.  A variable of the environment is meant for a
setting if its name is that of the setting behind `CONVLINT_`, in letters of any case.  Settings
that hold more than one value are written in the data format there, and null is as good as no
variable at all.
-/

namespace CodeConventions

/-- Why no settings can be put together. -/
inductive SettingsFault where
  /-- The file is not written in the data format. -/
  | unreadableFile (reason : JsonFault)
  /-- The value in the file gives no entries, or not with texts as keys. -/
  | noEntries (reason : PairsFault)
  /-- The variable for a setting is not written in the data format. -/
  | malformedVariable (setting : String)
  /-- The variable for a setting holds lists or objects that are nested too deep. -/
  | deepVariable (reason : JsonFault)
  /-- The entries have issues. -/
  | invalid (entries : Json.Entries) (issues : List Issue)
  deriving Repr

/-- The text of a fault in reading that has one. -/
def JsonFault.message? : JsonFault → Option String
  | .malformed => none
  | .longNumber digits => some (NumberLimit.readingFault digits)
  | .deepList =>
    some "maximum recursion depth exceeded while decoding a JSON array from a unicode string"
  | .deepObject =>
    some "maximum recursion depth exceeded while decoding a JSON object from a unicode string"

/-- Reading was given up inside too many lists and objects. -/
def JsonFault.isDeep (f : JsonFault) : Bool := f = .deepList || f = .deepObject

/-- The text of a fault that has one. -/
def SettingsFault.message? : SettingsFault → Option String
  | .unreadableFile reason | .deepVariable reason => reason.message?
  | .noEntries reason => reason.message?
  | .malformedVariable setting =>
    some s!"error parsing value for field \"{setting}\" from source \"EnvSettingsSource\""
  | .invalid entries issues => some (Issue.allToText entries issues)

/-- What settings are put together from. -/
structure SettingsSource where
  /-- The text of the file, if there is one. -/
  file : Option String := none
  /-- What the caller asks for; null is as good as nothing. -/
  given : Json.Entries := []
  /-- The variables of the environment, the later one counting among equal names. -/
  environment : List (String × String) := []

namespace SettingsSource

/-! ## The file -/

/-- Settings are named by a text that is none. -/
def brokenName : SettingsFault := .invalid [] [⟨[], .brokenText⟩]

/-- The entries that the value in a file gives. -/
def entriesOf : Json → Except SettingsFault Json.Entries
  | .object es => .ok es
  | .unkeyed .. => .error brokenName
  | j => do
    let pairs ← j.pairs?.mapError .noEntries
    -- only texts name settings
    if pairs.any fun p => p.1.shape ≠ .text then throw (.noEntries .noEntries)
    else if pairs.any fun p => p.1 matches .unpaired _ then throw brokenName
    else return Json.textEntries pairs

/-- The entries that the file gives, none if there is no file. -/
def fileEntries (s : SettingsSource) : Except SettingsFault Json.Entries :=
  match s.file with
  | none => .ok []
  | some text =>
    match Json.read text with
    | .error reason => .error (.unreadableFile reason)
    | .ok j => entriesOf j

/-! ## The environment -/

/-- The value of the variable for a setting. -/
def setVariable? (s : SettingsSource) (setting : String) : Option String :=
  (s.environment.reverse.find? fun e => Text.lower e.1 == "convlint_" ++ setting).map Prod.snd

/-- The value that a variable gives to a setting. -/
def variableValue? (setting text : String) : Except SettingsFault (Option Json) :=
  if Settings.compoundFields.contains setting then
    match Json.read text with
    | .error reason =>
      .error (if reason.isDeep then .deepVariable reason else .malformedVariable setting)
    | .ok .null => .ok none
    | .ok j => .ok (some j)
  else .ok (some (.text text))

/-- The entries that the environment gives to some settings. -/
def environmentEntries (s : SettingsSource) : List String → Except SettingsFault Json.Entries
  | [] => .ok []
  | setting :: rest =>
    match s.setVariable? setting with
    | none => s.environmentEntries rest
    | some text => do
      let value ← variableValue? setting text
      let more ← s.environmentEntries rest
      return (value.map fun j => (setting, j)).toList ++ more

/-! ## All together -/

/-- What the caller asks for, nulls aside. -/
def givenEntries (s : SettingsSource) : Json.Entries :=
  s.given.filter fun e => !e.2 matches .null

/-- The entries of the file, and over them what the caller asks for. -/
def directEntries (s : SettingsSource) : Except SettingsFault Json.Entries :=
  s.fileEntries.map fun es => Settings.named (es.update s.givenEntries)

/-- The entries of all sources. -/
def allEntries (s : SettingsSource) : Except SettingsFault Json.Entries := do
  let direct ← s.directEntries
  let environment ← s.environmentEntries (Settings.fields.map Field.name)
  return Json.overlayEntries environment direct

end SettingsSource

/-- The settings that their sources give. -/
def Settings.load (s : SettingsSource) : Except SettingsFault Settings := do
  let entries ← s.allEntries
  match read entries with
  | .good settings => return settings
  | .bad issues => throw (.invalid entries issues)

/-! ## What cannot be written -/

mutual

/-- The first code points with a lone half among them in a value. -/
def Json.unpaired? : Json → Option (List Nat)
  | .unpaired points => some points
  | .unkeyed key _ => some key
  | .list items => Json.unpairedIn? items
  | .object es => Json.unpairedUnder? es
  | _ => none

/-- The first code points with a lone half among them in some items. -/
def Json.unpairedIn? : List Json → Option (List Nat)
  | [] => none
  | j :: rest => j.unpaired? <|> Json.unpairedIn? rest

/-- The first code points with a lone half among them in some entries. -/
def Json.unpairedUnder? : List (String × Json) → Option (List Nat)
  | [] => none
  | (_, j) :: rest => j.unpaired? <|> Json.unpairedUnder? rest

end

/-- The first code points in some entries that keep the settings from being written. -/
def Settings.unwritable? (entries : Json.Entries) : Option (List Nat) :=
  fields.findSome? fun f => (entries.get? f.name).bind Json.unpaired?

end CodeConventions
