import BalanceSheet.Config.Basic
import BalanceSheet.File.Tree
import BalanceSheet.Toml.Parser

/-!
Which configurations are accepted, and why the others are not.
-/

namespace BalanceSheet

/-! ### Faults

A configuration cannot be read, it is no configuration, a setting is missing, or a setting has a value that it may
not have.
-/

/-- A setting that may not be blank. -/
inductive NeededSetting where
  | storeUrl | storeDatabase | serverHost
  deriving DecidableEq

def NeededSetting.message : NeededSetting → String
  | storeUrl => "query is missing required field 'url'"
  | storeDatabase => "query is missing required field 'database'"
  | serverHost => "api_server is missing required field 'host'"

/-- What is wrong with the value of a setting. -/
inductive SettingFault where
  | storeScheme (url : String)
  | loneCredential
  | noExecutionTime
  | shortTimeout (timeout limit : Nat)
  | noPort
  | hostNotAddress (host : String)
  | emptyOrigin
  | emptyRegistryFile
  deriving DecidableEq

def SettingFault.message : SettingFault → String
  | storeScheme url => s!"query has invalid url: '{url}' must start with http:// or https://"
  | loneCredential => "query has invalid username: username and password must be set together"
  | noExecutionTime => "query has invalid max_execution_time: must be greater than 0"
  | shortTimeout timeout limit =>
    s!"query has invalid request_timeout: {timeout}s is shorter than max_execution_time ({limit}s)"
  | noPort => "api_server has invalid port: must be greater than 0"
  | hostNotAddress host => s!"api_server has invalid host: '{host}' is not an IP address"
  | emptyOrigin => "api_server has invalid cors_origins: origins must not be empty"
  | emptyRegistryFile => "analytics has invalid registry_file: path must not be empty"

inductive ConfigFault where
  | unreadable (path : String) (fault : FileFault)
  | malformed
  | missing (setting : NeededSetting)
  | invalid (fault : SettingFault)
  deriving DecidableEq

def ConfigFault.message : ConfigFault → String
  | unreadable path fault => s!"failed to read config file '{path}': {fault.message}"
  | malformed => "failed to parse config: TOML parse error"
  | missing setting => setting.message
  | invalid fault => fault.message

/-! ### Acceptance

The first fault counts: those of the store come before those of the server, and these before that of the
registry's file.
-/

/-- Whether an address of the store starts with one of the schemes that it may have. -/
def StoreSettings.hasScheme (s : StoreSettings) : Bool :=
  ["http://", "https://"].any fun scheme => scheme.toList.isPrefixOf s.url.toList

def StoreSettings.fault? (s : StoreSettings) : Option ConfigFault :=
  if Text.isBlankText s.url then some (.missing .storeUrl)
  else if !s.hasScheme then some (.invalid (.storeScheme s.url))
  else if Text.isBlankText s.database then some (.missing .storeDatabase)
  else if s.hasLoneCredential then some (.invalid .loneCredential)
  else if s.maxExecutionTime = 0 then some (.invalid .noExecutionTime)
  else if s.requestTimeout < s.maxExecutionTime then
    some (.invalid (.shortTimeout s.requestTimeout s.maxExecutionTime))
  else none

def ServerSettings.fault? (s : ServerSettings) : Option ConfigFault :=
  if Text.isBlankText s.host then some (.missing .serverHost)
  else if s.port = 0 then some (.invalid .noPort)
  else if s.address?.isNone then some (.invalid (.hostNotAddress s.host))
  else if s.origins.any Text.isBlankText then some (.invalid .emptyOrigin)
  else none

namespace Config

/-- The first fault of a configuration. -/
def fault? (c : Config) : Option ConfigFault :=
  (c.store.fault?.or c.server.fault?).or
    (if c.registryFile = some "" then some (.invalid .emptyRegistryFile) else none)

/-- The configuration that a document describes, if it is accepted. -/
def ofToml (text : String) : Except ConfigFault Config :=
  match (Toml.parse? text).bind fun document => ofJson? document.toJson with
  | none => .error .malformed
  | some c =>
    match c.fault? with
    | some fault => .error fault
    | none => .ok c

/-- The configuration with the registry's file as it is seen from the directory of `path`. -/
def resolve (c : Config) (path : String) : Config :=
  match Path.directory? path with
  | some directory => { c with registryFile := c.registryFile.map (Path.join directory) }
  | none => c

/-- The configuration in the file at `path`, given what reading that file came to. -/
def ofFile (path : String) (contents : Except FileFault String) : Except ConfigFault Config :=
  match contents with
  | .error fault => .error (.unreadable path fault)
  | .ok text => (ofToml text).map fun c => c.resolve path

end Config

end BalanceSheet
