import ActivityLedger.Json.Format
import ActivityLedger.Json.Reader
import ActivityLedger.Query.Window
import ActivityLedger.Settings.Ini
import ActivityLedger.Settings.Json5
import ActivityLedger.Settings.Location
import ActivityLedger.Settings.Place
import ActivityLedger.Settings.Ron
import ActivityLedger.Settings.Toml
import ActivityLedger.Settings.Yaml.Document

/-!
# Settings

What can be set, and how it is found: fixed values first, over them a file if one is
named, and over that the environment.
-/

namespace ActivityLedger

structure Settings where
  /-- Where the database is, unless it is at the usual place. -/
  path : Option String
  /-- The variable with the token for a database on another machine. -/
  tokenVariable : String
  /-- How long to wait for a locked file, in milliseconds. -/
  busyTimeout : Count
  /-- How many days one request may span. -/
  dayLimit : Small
deriving DecidableEq

namespace Settings

/-- What holds where nothing is set. -/
def standard : Settings where
  path := none
  tokenVariable := "TURSO_AUTH_TOKEN"
  busyTimeout := ⟨5000, by decide, by decide⟩
  dayLimit := Window.defaultLimit

def lowest : Setting := .table [
  ("database", .table [
    ("auth_token_env", .text standard.tokenVariable),
    ("busy_timeout_ms", .integer standard.busyTimeout.val)]),
  ("query", .table [("max_range_days", .integer standard.dayLimit.val)])]

/-- The settings in a table.  A limit beyond 32 bits loses its high bits. -/
def ofSetting? (setting : Setting) : Option Settings := do
  let database ← (← setting.find? "database").fields? ["path", "auth_token_env", "busy_timeout_ms"]
  let query ← (← setting.find? "query").fields? ["max_range_days"]
  match database, query with
  | [path, some tokenVariable, some busyTimeout], [some dayLimit] =>
      let path ←
        match path with
        | none | some .missing => some none
        | some path => path.text?.map some
      return {
        path := path
        tokenVariable := ← tokenVariable.text?
        busyTimeout := ← busyTimeout.count?
        dayLimit := Small.lowBits (← dayLimit.count?).val }
  | _, _ => none

inductive FileFormat where
  | toml
  | json
  | yaml
  | ini
  | ron
  | json5
deriving DecidableEq

def readFile? (text : String) : FileFormat → Option Setting
  | .toml => Toml.setting? text
  | .json => Json.setting? text
  | .yaml => Yaml.setting? text
  | .ini => Ini.setting? text
  | .ron => Ron.setting? text
  | .json5 => Json5.setting? text

/-- The settings from a file, if one is named, and the environment.  A file that is no table
sets nothing. -/
def load (environment : Environment) (file : Option (FileFormat × String)) :
    Except Error Settings :=
  let file : Option Setting :=
    match file with
    | none => some (.table [])
    | some (format, text) => readFile? text format
  match file with
  | none => .error .configuration
  | some file =>
      let given := Setting.layer environment.settings (Setting.layer file.entries (.table []))
      match ofSetting? (Setting.layer given.entries lowest) with
      | some settings => .ok settings
      | none => .error .configuration

def databasePath (settings : Settings) (environment : Environment) : String :=
  settings.path.getD (Environment.join environment.dataDirectory "tracking/tracking.db")

def location (settings : Settings) (environment : Environment) : Except Error Location :=
  Location.ofText environment (settings.databasePath environment) settings.tokenVariable

end Settings

open Json

instance : Format Settings where
  write settings := .object [
    ("database", .object [
      ("path", .of settings.path),
      ("auth_token_env", .of settings.tokenVariable),
      ("busy_timeout_ms", .of settings.busyTimeout)]),
    ("query", .object [("max_range_days", .of settings.dayLimit)])]
  read? value := do
    match ← fields? ["database", "query"] value with
    | [some database, some query] =>
        match ← fields? ["path", "auth_token_env", "busy_timeout_ms"] database,
            ← fields? ["max_range_days"] query with
        | [path, tokenVariable, busyTimeout], [dayLimit] =>
            return {
              path := ← optionalField path
              tokenVariable := ← requiredField tokenVariable
              busyTimeout := ← requiredField busyTimeout
              dayLimit := ← requiredField dayLimit }
        | _, _ => none
    | _ => none

end ActivityLedger
