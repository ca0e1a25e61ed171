import Holidays.Settings.ConfigFile
import Holidays.Settings.EnvFile

/-!
The settings of a run. A configuration file goes over the environment, the environment over a file
of variables, and all of them over the defaults.
-/
namespace Holidays

structure Settings where
  catalogPath : String
  calendar : String
  first : Date
  last : Date
  pretty : Bool
  level : String

inductive SettingsError where
  | malformedFile
  | missing (setting : String)
  | unfit (setting : String)
deriving DecidableEq

def SettingsError.message : SettingsError → String
  | .malformedFile => "The configuration file cannot be read"
  | .missing setting => "Missing setting: " ++ setting
  | .unfit setting => "Invalid value of setting: " ++ setting

namespace Settings

def defaults : Setting :=
  Setting.empty.overlay [("catalog.path", .text "calendars"), ("output.pretty", .flag false),
    ("logging.level", .text "info")]

def joinWords (cs : List Char) : List Char :=
  ['_'].intercalate ((cs.splitOnP fun c => c == '-' || c == ' ').filter (!·.isEmpty))

/-- The dotted name that a variable spells in any case, with underscores for dots. -/
def variablePath (name : String) : String :=
  let dotted := name.toList.map fun c => if c = '_' then '.' else c.toLower
  String.ofList (['.'].intercalate ((dotted.splitOn '.').map joinWords))

/-- The settings that variables make; an empty one makes none. -/
def ofVariables (env : EnvFile.Variables) : List (String × Setting) :=
  (env.filter fun v => v.2 ≠ "").map fun v => (variablePath v.1, Setting.ofWord v.2)

def field {α : Type} (root : Setting) (sect : String) (position : Nat) (name : String)
    (read? : Setting → Option α) : Except SettingsError α :=
  let full := sect ++ "." ++ name
  match (root.entry? sect).bind (Setting.field? position name) with
  | none => .error (.missing full)
  | some s =>
    match read? s with
    | none => .error (.unfit full)
    | some a => .ok a

def ofSetting (root : Setting) : Except SettingsError Settings := do
  return {
    catalogPath := ← field root "catalog" 0 "path" Setting.asText?
    calendar := ← field root "generate" 0 "calendar" Setting.asText?
    first := ← field root "generate" 1 "from" Setting.asDate?
    last := ← field root "generate" 2 "to" Setting.asDate?
    pretty := ← field root "output" 0 "pretty" Setting.asFlag?
    level := ← field root "logging" 0 "level" Setting.asText? }

def load (environment : EnvFile.Variables) (envFile : Option String) (config : Option ConfigFile) :
    Except SettingsError Settings := do
  let env := (envFile.map (EnvFile.add environment)).getD environment
  let root := defaults.overlay (ofVariables env)
  match config with
  | none => ofSetting root
  | some file =>
    match file.entries? with
    | none => .error .malformedFile
    | some entries => ofSetting (root.overlay entries)

end Settings

end Holidays
