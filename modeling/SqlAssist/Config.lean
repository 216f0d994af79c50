/-
# Configuration

Six settings are read from environment variables, in a fixed order; the first value that cannot
be read is reported. A variable set to the empty text counts as not set, unless the setting is
a text. Numbers and switches may stand between white space.
-/

import SqlAssist.Duration
import SqlAssist.Sql.Statement
import SqlAssist.Text.Number
import SqlAssist.Text.WhiteSpace

namespace SqlAssist

/-- Read a switch; ASCII case does not matter. -/
def readSwitch? (text : String) : Option Bool :=
  let word := String.ofList (text.toList.map Char.toLower)
  if word ∈ ["1", "true", "yes"] then some true
  else if word ∈ ["0", "false", "no"] then some false
  else none

/-- A value that does not fit its setting. -/
inductive ConfigFault where
  /-- The trimmed value is no number of this many bits. -/
  | number (bits : Nat) (value : String) (cause : Text.NumberError)
  /-- The trimmed value is no switch. -/
  | switch (value : String)
  deriving DecidableEq, Repr

/-- What a reader is told about the value. -/
def ConfigFault.message : ConfigFault → String
  | number bits value cause =>
    "invalid value '" ++ value ++ "' for type u" ++ toString bits ++ ": " ++ cause.message
  | switch value => "invalid value for bool: '" ++ value ++ "'"

/-- A setting and the environment variable that holds it. -/
structure Setting where
  field : String
  variableName : String
  deriving DecidableEq, Repr

/-- The first setting that could not be read. -/
structure ConfigError where
  setting : Setting
  fault : ConfigFault
  deriving DecidableEq, Repr

/-- What a reader is told. -/
def ConfigError.message (e : ConfigError) : String :=
  "failed to deserialize value `Config::" ++ e.setting.field ++
    "` from environment variable `" ++ e.setting.variableName ++ "`: " ++ e.fault.message

/-- The variables of a process: the value of each that is set. -/
abbrev Environment := String → Option String

namespace Setting

/-- Read a setting whose values can be malformed. The empty text means the default. -/
def read {α : Type} (setting : Setting) (parse : String → Except ConfigFault α) (default : α)
    (env : Environment) : Except ConfigError α :=
  match env setting.variableName with
  | none => .ok default
  | some raw =>
    match parse (Text.trim raw) with
    | .ok value => .ok value
    | .error fault => if raw = "" then .ok default else .error ⟨setting, fault⟩

/-- A number of the given size. -/
def number (setting : Setting) (bits default : Nat) (env : Environment) :
    Except ConfigError Nat :=
  setting.read
    (fun value =>
      match Text.readNumber bits value with
      | .ok n => .ok n
      | .error cause => .error (.number bits value cause))
    default env

/-- A switch that is off unless set. -/
def switch (setting : Setting) (env : Environment) : Except ConfigError Bool :=
  setting.read
    (fun value =>
      match readSwitch? value with
      | some b => .ok b
      | none => .error (.switch value))
    false env

end Setting

/-- The settings of a session. -/
structure Config where
  /-- The longest a single fetch of metadata may take. -/
  fetchTimeoutMs : Nat := 5000
  refreshOnDdlOnly : Bool := false
  schemaOnlyAfterDot : Bool := false
  /-- Restrict the reading of the schema to one schema. -/
  schema : Option String := none
  /-- The most connections that are open at one time. -/
  maxConnections : Nat := 3
  /-- Rows counted per result set before it is reported as cut off. -/
  maxResult : Nat := 1000
  deriving DecidableEq, Repr

namespace Config

/-- Read the configuration from the environment. -/
def ofEnvironment (env : Environment) : Except ConfigError Config := do
  let fetchTimeoutMs ←
    Setting.number ⟨"fetch_timeout_ms", "SQLCOMPLETE_FETCH_TIMEOUT_MS"⟩ 64 5000 env
  let refreshOnDdlOnly ←
    Setting.switch ⟨"refresh_on_ddl_only", "SQLCOMPLETE_REFRESH_ON_DDL_ONLY"⟩ env
  let schemaOnlyAfterDot ←
    Setting.switch ⟨"schema_only_after_dot", "SQLCOMPLETE_SCHEMA_ONLY_AFTER_DOT"⟩ env
  let schema := env "SQLCOMPLETE_SCHEMA"
  let maxConnections ←
    Setting.number ⟨"max_connections", "SQLCOMPLETE_MAX_CONNECTIONS"⟩ 32 3 env
  let maxResult ← Setting.number ⟨"max_result", "SQLCOMPLETE_MAX_RESULT"⟩ 64 1000 env
  return { fetchTimeoutMs, refreshOnDdlOnly, schemaOnlyAfterDot, schema, maxConnections,
           maxResult }

/-- The longest a single fetch of metadata may take. -/
def fetchTimeout (config : Config) : Duration :=
  .ofMilliseconds config.fetchTimeoutMs

/-- Which statements make the schema be read again. -/
def refreshTrigger (config : Config) : Sql.RefreshTrigger :=
  if config.refreshOnDdlOnly then .ddlOnly else .always

end Config

end SqlAssist
