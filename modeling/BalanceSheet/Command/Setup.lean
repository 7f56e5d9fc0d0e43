import BalanceSheet.Api.Query
import BalanceSheet.Config.Validation
import BalanceSheet.Registry.Builtin
import BalanceSheet.Registry.Json
import BalanceSheet.Store.Client

/-!
What a command finds before it starts, and why it fails.
-/

namespace BalanceSheet.Command

/-! ### Faults

A fault is told with its causes, each the cause of the one before.
-/

inductive Fault where
  | noConfigFile (path : String)
  | config (path : String) (fault : ConfigFault)
  | registry (path : String) (fault : RegistryFault)
  | client (fault : StoreSettings.Fault)
  | malformedFilter (filter : String)
  | request (fault : Api.Fault)
  | noAddress
  | addressTaken (address : SocketAddress) (reason : String)

namespace Fault

def configCauses (fault : ConfigFault) : List String :=
  fault.message :: match fault with
    | .unreadable _ fault => [fault.message]
    | .malformed => ["TOML parse error"]
    | _ => []

def registryCauses (fault : RegistryFault) : List String :=
  fault.message :: match fault with
    | .unreadable _ fault => [fault.message]
    | .malformed => ["TOML parse error"]
    | _ => []

/-- What a fault says, and what its causes say. -/
def causes : Fault → List String
  | noConfigFile path => ["config file not found: " ++ path]
  | config path fault => ("failed to load configuration from " ++ path) :: configCauses fault
  | registry path fault => ("failed to load metric registry from " ++ path) :: registryCauses fault
  | client fault => ["failed to create ClickHouse backend", fault.toStoreFault.message]
  | malformedFilter filter => [s!"filter '{filter}' must be column=value"]
  | request (.failure (.store fault)) => [(Failure.store fault).message, fault.message]
  | request fault => [fault.message]
  | noAddress => ["invalid bind address"]
  | addressTaken address reason => ["failed to bind to " ++ address.text, reason]

/-- A text with every line but the first moved to the right. -/
def hang (indent text : String) : String := Text.replace "\n" ("\n" ++ indent) text

/-- A cause with its place among several. -/
def numbered (index : Nat) (cause : String) : String :=
  let digits := toString index
  String.ofList (List.replicate (5 - digits.length) ' ') ++ digits ++ ": " ++ hang "       " cause

/-- The fault with its causes below; several are numbered. -/
def report (fault : Fault) : String :=
  match fault.causes with
  | [] => "Error: "
  | [message] => "Error: " ++ message
  | [message, cause] => "Error: " ++ message ++ "\n\nCaused by:\n    " ++ hang "    " cause
  | message :: causes =>
    "Error: " ++ message ++ "\n\nCaused by:\n" ++
      "\n".intercalate (causes.zipIdx.map fun (cause, index) => numbered index cause)

end Fault

/-! ### Configuration and registry

A command finds the configuration first, and then the registry that it names. A configuration
file that is named must be there; of those that are not named the first that is there counts, and without
any the standard configuration holds.
-/

/-- Access to files: whether there is anything at a path, and what reading it as text comes to. -/
structure FileSystem (m : Type → Type) where
  has : String → m Bool
  read : String → m (Except FileFault String)

/-- Where the configuration may be. -/
def configPaths : List String := ["configs/tally.toml", "tally.toml"]

variable {m : Type → Type} [Monad m]

/-- The file that the configuration is in, if there is one. -/
def configPath? (files : FileSystem m) : Option String → ExceptT Fault m (Option String)
  | some path => do
    if ← files.has path then return some path
    throw (.noConfigFile path)
  | none => do configPaths.findM? fun path => (files.has path : m Bool)

def loadConfig (files : FileSystem m) (named : Option String) : ExceptT Fault m Config := do
  match ← configPath? files named with
  | none => return .standard
  | some path =>
    match Config.ofFile path (← files.read path) with
    | .ok c => return c
    | .error fault => throw (.config path fault)

def loadRegistry (files : FileSystem m) (c : Config) : ExceptT Fault m Registry := do
  match c.registryFile with
  | none => return Registry.builtin
  | some path =>
    match Registry.ofFile path (← files.read path) with
    | .ok r => return r
    | .error fault => throw (.registry path fault)

end BalanceSheet.Command
