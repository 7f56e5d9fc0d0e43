import BalanceSheet.Json.Basic
import BalanceSheet.Net.Address
import BalanceSheet.Store.Client
import BalanceSheet.Text.Basic

/-!
The configuration of the program, and what it says of logging.
-/

namespace BalanceSheet

/-! ### Logging

A level holds for the program's own parts; all else is logged at warnings, or at errors where the level is that.
-/

inductive LogLevel where
  | trace | debug | info | warn | error
  deriving DecidableEq

namespace LogLevel

def all : List LogLevel := [trace, debug, info, warn, error]

def name : LogLevel → String
  | trace => "trace"
  | debug => "debug"
  | info => "info"
  | warn => "warn"
  | error => "error"

def spellings (level : LogLevel) : List String :=
  match level with
  | warn => ["warn", "warning"]
  | _ => [level.name]

/-- The parts of the program that a level holds for. -/
def targets : List String := ["tally", "tally_analytics", "tally_api", "tally_config", "tally_query"]

/-- The level of all other parts. -/
def background : LogLevel → LogLevel
  | error => error
  | _ => warn

/-- The level of each part, in the form that log filters are written in. -/
def directive (level : LogLevel) : String :=
  ",".intercalate (level.background.name :: targets.map fun target => target ++ "=" ++ level.name)

inductive Fault where
  | unknown (word : String)
  deriving DecidableEq

def Fault.message : Fault → String
  | unknown word => s!"unknown log level '{word}'"

/-- Reads a level in any letter case, with blanks around it. -/
def read (s : String) : Except Fault LogLevel :=
  let word := Text.lowerAscii (Text.trim s)
  match all.find? fun level => level.spellings.contains word with
  | some level => .ok level
  | none => .error (.unknown word)

def ofJson? : Json → Option LogLevel := Json.asConstant? all name

end LogLevel

inductive LogFormat where
  | console | json
  deriving DecidableEq

namespace LogFormat

def all : List LogFormat := [console, json]

def name : LogFormat → String
  | console => "console"
  | json => "json"

def ofJson? : Json → Option LogFormat := Json.asConstant? all name

end LogFormat

structure LogSettings where
  level : LogLevel
  format : LogFormat
  deriving DecidableEq

namespace LogSettings

/-- What holds where nothing is set. -/
def standard : LogSettings := ⟨.info, .console⟩

def ofJson? (json : Json) : Option LogSettings := do
  let fields ← json.asFields? ["level", "format"]
  return { level := ← Json.defaulted? fields "level" LogLevel.ofJson? standard.level
           format := ← Json.defaulted? fields "format" LogFormat.ofJson? standard.format }

end LogSettings

/-! ### The whole configuration

The configuration is of logging, the store, the server and the file of the registry. Every
setting has a value for where it is not set.
-/

/-- Where the server listens, and which web pages may ask it. -/
structure ServerSettings where
  host : String
  port : Nat
  origins : List String
  deriving DecidableEq

namespace ServerSettings

/-- What holds where nothing is set. -/
def standard : ServerSettings := ⟨"0.0.0.0", 3000, []⟩

def ofJson? (json : Json) : Option ServerSettings := do
  let fields ← json.asFields? ["host", "port", "cors_origins"]
  let port? := Json.asNatural? Decimal.maxUInt16
  return { host := ← Json.defaulted? fields "host" Json.asString? standard.host
           port := ← Json.defaulted? fields "port" port? standard.port
           origins := ← Json.defaulted? fields "cors_origins" (Json.asList? Json.asString?) standard.origins }

/-- The address to listen on, if host and port make one. -/
def address? (s : ServerSettings) : Option SocketAddress :=
  SocketAddress.parse? (s.host ++ ":" ++ toString s.port)

/-- Whether pages of any origin may ask. -/
def admitsAnyOrigin (s : ServerSettings) : Bool := s.origins.contains "*"

end ServerSettings

structure Config where
  log : LogSettings
  store : StoreSettings
  server : ServerSettings
  /-- The file of the registry; without one the built-in registry is used. -/
  registryFile : Option String
  deriving DecidableEq

namespace Config

/-- What holds where nothing is set. -/
def standard : Config := ⟨.standard, .standard, .standard, none⟩

def registryFileOfJson? (json : Json) : Option (Option String) := do
  Json.optional? (← json.asFields? ["registry_file"]) "registry_file" Json.asString?

def ofJson? (json : Json) : Option Config := do
  let fields ← json.asFields? ["log", "query", "api_server", "analytics"]
  return { log := ← Json.defaulted? fields "log" LogSettings.ofJson? standard.log
           store := ← Json.defaulted? fields "query" StoreSettings.ofJson? standard.store
           server := ← Json.defaulted? fields "api_server" ServerSettings.ofJson? standard.server
           registryFile := ← Json.defaulted? fields "analytics" registryFileOfJson? standard.registryFile }

end Config

end BalanceSheet
