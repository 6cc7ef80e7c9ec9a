import DesignBridge.Json.Basic
import DesignBridge.Number.Numeral
import DesignBridge.Text.Case

/-! # Settings of the bridge

The bridge takes its settings from the environment, the variables that a process finds when it
starts, as texts. Values that cannot be read are reported together; values out of range are refused
one at a time, the reply timeout before the port.
-/

namespace DesignBridge

open Text

/-- The variables that are set. -/
abbrev Environment := Table String String

namespace Environment

/-- The value of a variable, or a fallback when it is not set. An empty value counts as set. -/
def getD (env : Environment) (name : String) (fallback : String) : String :=
  (env.get? name).getD fallback

/-- Sets a variable, or unsets it. -/
def assign (env : Environment) (name : String) : Option String → Environment
  | some value => env.insert name value
  | none => env.erase name

end Environment

/-- A setting: its name, the variable that holds it, its value when the variable is not set, and
what it is for. -/
structure Setting where
  name : String
  variableName : String
  fallback : String
  about : String
  deriving DecidableEq, Repr

namespace Setting

/-- The raw value of a setting. -/
def raw (setting : Setting) (env : Environment) : String :=
  env.getD setting.variableName setting.fallback

def host : Setting := ⟨"host", "BRIDGE_HOST", "127.0.0.1", "Bridge bind address"⟩

def port : Setting :=
  ⟨"port", "BRIDGE_HTTP_PORT", "8788", "HTTP port, also serving the executor WebSocket"⟩

/-- The level of the bridge's own loggers. -/
def logLevel : Setting := ⟨"log_level", "LOG_LEVEL", "INFO", "Level for the flowbridge loggers"⟩

/-- How long a reply is waited for. -/
def taskTimeout : Setting :=
  ⟨"task_timeout", "TASK_TIMEOUT", "10",
    "Seconds to wait for an executor reply before answering optimistically"⟩

/-- Whether the server reloads when its files change. -/
def debug : Setting := ⟨"debug", "DEBUG", "false", "Auto reload under uvicorn"⟩

/-- The origins that may call from a browser. -/
def corsOrigins : Setting :=
  ⟨"cors_origins", "CORS_ORIGINS", "*", "Comma separated allowed origins"⟩

/-- The settings that the bridge cannot do without. -/
def needed : List Setting := [host, port, logLevel, taskTimeout]

def others : List Setting := [debug, corsOrigins]

def describe (setting : Setting) : Json :=
  .object [("env", .text setting.variableName), ("default", .text setting.fallback),
    ("description", .text setting.about)]

def describeAll : Json :=
  let section_ := fun settings : List Setting =>
    Json.object (settings.map fun setting => (setting.name, setting.describe))
  .object [("required", section_ needed), ("optional", section_ others)]

end Setting

/-- The settings of the bridge. -/
structure BridgeSettings where
  host : String
  port : Int
  logLevel : String
  taskTimeout : Float
  debug : Bool
  corsOrigins : List String

/-- Why there are no settings. -/
inductive SettingsError where
  /-- Some variables hold values that cannot be read. -/
  | unreadable (values : List (String × String))
  | timeoutRange
  | portRange
  deriving DecidableEq, Repr

def SettingsError.message : SettingsError → String
  | unreadable values =>
    "Invalid configuration values: " ++
      joinWith ", " (values.map fun (name, value) => name ++ "=" ++ quoted value)
  | timeoutRange => "TASK_TIMEOUT must be a positive number of seconds"
  | portRange => "BRIDGE_HTTP_PORT must be between 1 and 65535"

namespace BridgeSettings

/-- Whether a text says yes. -/
def flag (s : String) : Bool :=
  ["1", "true", "yes"].contains (lower (trim s))

def origins (s : String) : List String :=
  ((split ',' s).map trim).filter (· ≠ "")

/-- The variables whose values cannot be read, with these values. -/
def unreadable (env : Environment) : List (String × String) :=
  let bad {α : Type} (setting : Setting) (read : String → Except NumeralError α) :=
    match read (setting.raw env) with
    | .ok _ => []
    | .error _ => [(setting.variableName, setting.raw env)]
  bad .port Numeral.int? ++ bad .taskTimeout Numeral.real?

/-- Reads the settings without a look at their range. -/
def read (env : Environment) : Except SettingsError BridgeSettings :=
  match Numeral.int? (Setting.port.raw env), Numeral.real? (Setting.taskTimeout.raw env) with
  | .ok port, .ok taskTimeout => .ok
    { host := Setting.host.raw env
      port
      logLevel := upper (Setting.logLevel.raw env)
      taskTimeout
      debug := flag (Setting.debug.raw env)
      corsOrigins := origins (Setting.corsOrigins.raw env) }
  | _, _ => .error (.unreadable (unreadable env))

/-- Refuses settings that are out of range. -/
def check (settings : BridgeSettings) : Except SettingsError BridgeSettings :=
  if settings.taskTimeout ≤ 0 then .error .timeoutRange
  else if 0 < settings.port ∧ settings.port < 65536 then .ok settings
  else .error .portRange

/-- Takes the settings from the environment. -/
def load (env : Environment) : Except SettingsError BridgeSettings :=
  (read env).bind check

def toTable (settings : BridgeSettings) : Table Json String :=
  Table.ofList
    [(Setting.host.name, .text settings.host), (Setting.port.name, .int settings.port),
      (Setting.logLevel.name, .text settings.logLevel),
      (Setting.taskTimeout.name, .number (.real settings.taskTimeout)),
      (Setting.debug.name, .bool settings.debug),
      (Setting.corsOrigins.name, .strings settings.corsOrigins)]

end BridgeSettings

/-- The settings that a process shares: loaded on first use, kept until they are dropped. Values can
be replaced by name. -/
structure SharedSettings where
  loaded : Option (Table Json String)

namespace SharedSettings

/-- Nothing is loaded yet. -/
def fresh : SharedSettings := ⟨none⟩

/-- The settings, loaded if need be; also tells whether they were there already. -/
def get (shared : SharedSettings) (env : Environment) :
    Except SettingsError (SharedSettings × Table Json String × Bool) :=
  match shared.loaded with
  | some table => .ok (shared, table, true)
  | none => (BridgeSettings.load env).map fun settings =>
    (⟨some settings.toTable⟩, settings.toTable, false)

def set (shared : SharedSettings) (name : String) (value : Json) : SharedSettings :=
  ⟨shared.loaded.map (·.insert name value)⟩

end SharedSettings

end DesignBridge
