import Std.Data.TreeMap
import StreamLint.Json.Fault
import StreamLint.Json.Forms
/-!
# Settings

Settings say which checks run and with which options. A check that they do not mention runs with its
defaults. Their text is a JSON object in which unknown fields are errors;
`StreamLint.Settings.reader` undoes `StreamLint.Settings.toJson`.
-/

namespace StreamLint

open Json (Reader)

/-- Settings of one check. -/
structure Settings.Entry where
  /-- Whether the check runs. -/
  enabled : Bool := true
  /-- The options record; `null` stands for the defaults. -/
  options : Json := .null
  deriving Repr, Inhabited

namespace Settings.Entry

/-- Settings that turn a check off. -/
def disabled : Settings.Entry :=
  { enabled := false }

/-- Settings that run a check with options. -/
def ofOptions (options : Json) : Settings.Entry :=
  { options }

/-- Settings of a check as an object. -/
def toJson (settings : Settings.Entry) : Json :=
  .object [("enabled", .bool settings.enabled), ("options", settings.options)]

/-- Settings of a check of which some parts are still missing. -/
structure Draft where
  /-- Whether the check runs, once it is known. -/
  enabled : Option Bool := none
  /-- The options record, once it is known. -/
  options : Option Json := none

/-- Reads the settings of a check, any part of which may be left out. -/
def reader : Reader Settings.Entry := fun levels text => do
  let into {α : Type} (inner : Reader α) (set : α → Draft → Draft) : Reader (Draft → Draft) :=
    fun levels text => (inner levels text).map fun (a, rest) => (set a, rest)
  let fields : List (Reader.Field Draft) :=
    [{ name := "enabled", read := into Reader.boolean fun b d => { d with enabled := some b },
       isSet := (·.enabled.isSome), required := false },
     { name := "options", read := into Reader.value fun v d => { d with options := some v },
       isSet := (·.options.isSome), required := false }]
  let (draft, rest) ← Reader.record "CheckSettings" true fields {} levels text
  return ({ enabled := draft.enabled.getD true, options := draft.options.getD .null }, rest)

end Settings.Entry

/-- Settings of all checks. -/
structure Settings where
  /-- The settings of the checks that are mentioned, by their identifiers. -/
  checks : Std.TreeMap String Settings.Entry compare := {}

namespace Settings

/-- The settings of a check, if they are given. -/
def check? (settings : Settings) (id : String) : Option Settings.Entry :=
  settings.checks[id]?

/-- The settings with those of one check replaced. -/
def withEntry (settings : Settings) (id : String) (check : Settings.Entry) : Settings :=
  ⟨settings.checks.insert id check⟩

/-- Whether no check is mentioned. -/
def isDefault (settings : Settings) : Bool :=
  settings.checks.isEmpty

/-- Settings as an object. -/
def toJson (settings : Settings) : Json :=
  .object [("checks", .object (settings.checks.toList.map fun (id, check) =>
    (id, check.toJson)))]

/-- Reads settings. -/
def reader : Reader Settings := fun levels text => do
  let checks : Reader (Option (List (String × Settings.Entry)) →
      Option (List (String × Settings.Entry))) := fun levels text =>
    (Reader.map Settings.Entry.reader levels text).map fun (entries, rest) =>
      (fun _ => some entries, rest)
  let fields : List (Reader.Field (Option (List (String × Settings.Entry)))) :=
    [{ name := "checks", read := checks, isSet := (·.isSome), required := false }]
  let (entries, rest) ← Reader.record "Settings" true fields none levels text
  return (⟨.ofList (entries.getD [])⟩, rest)

end Settings

/-- Why settings cannot be loaded. -/
inductive SettingsError where
  /-- The file cannot be read. -/
  | unreadable (path why : String)
  /-- The text does not hold settings; the fault is also given in words. -/
  | invalid (fault : Json.ReadError) (words : String)
  deriving Repr

namespace SettingsError

/-- What is wrong, for people. -/
def message : SettingsError → String
  | unreadable path why => s!"failed to read settings from {path}: {why}"
  | invalid _ words => s!"invalid settings: {words}"

/-- The error as a configuration problem. -/
def report (error : SettingsError) : Diagnostics :=
  .single .settingsParse error.message <|
    match error with
    | unreadable path _ => some path
    | invalid .. => none

end SettingsError

/-- The settings that a text holds. -/
def Settings.ofText (text : String) : Except SettingsError Settings :=
  match Settings.reader.run text with
  | .ok settings => .ok settings
  | .error fault => .error (.invalid fault (fault.describe Settings.reader text))

end StreamLint
