import BalanceSheet.Decimal
import BalanceSheet.Exchange
import BalanceSheet.Guard
import BalanceSheet.Http.Fault
import BalanceSheet.Http.Message
import BalanceSheet.Json.Basic
import BalanceSheet.Json.Parser
import BalanceSheet.Text.Bytes
import BalanceSheet.Text.Quoted
import BalanceSheet.Url.Reader

/-!
The client of the store, and the settings that it is made of.
-/

namespace BalanceSheet

/-! ### Settings

How the store is reached: its address, the database, optional credentials, and two limits in seconds,
one for the store's own work and one for a whole request.
-/

structure StoreSettings where
  url : String
  database : String
  username : Option String
  password : Option String
  maxExecutionTime : Nat
  requestTimeout : Nat
  deriving DecidableEq

namespace StoreSettings

/-- What holds where nothing is set. -/
def standard : StoreSettings :=
  { url := "http://localhost:8123", database := "default", username := none, password := none,
    maxExecutionTime := 60, requestTimeout := 90 }

def ofJson? (json : Json) : Option StoreSettings := do
  let fields ← json.asFields?
    ["url", "database", "username", "password", "max_execution_time", "request_timeout"]
  let seconds? := Json.asNatural? Decimal.maxUInt64
  return { url := ← Json.defaulted? fields "url" Json.asString? standard.url
           database := ← Json.defaulted? fields "database" Json.asString? standard.database
           username := ← Json.optional? fields "username" Json.asString?
           password := ← Json.optional? fields "password" Json.asString?
           maxExecutionTime :=
             ← Json.defaulted? fields "max_execution_time" seconds? standard.maxExecutionTime
           requestTimeout := ← Json.defaulted? fields "request_timeout" seconds? standard.requestTimeout }

/-- Whether there is a user name without a password or the reverse. -/
def hasLoneCredential (s : StoreSettings) : Bool := s.username.isSome != s.password.isSome

end StoreSettings

/-! ### The client

A statement that the guard admits is posted to the store's address, with the settings and the parameters in the
query; the reply has one row in JSON on each line that is not blank.
-/

/-- Why there is no client for some settings. -/
inductive StoreSettings.Fault where
  | malformedUrl (url : String)
  | emptyDatabase
  | loneCredential
  deriving DecidableEq

def StoreSettings.Fault.detail : StoreSettings.Fault → String
  | malformedUrl url => s!"invalid ClickHouse url '{url}'"
  | emptyDatabase => "database must not be empty"
  | loneCredential => "username and password must be set together"

def StoreSettings.Fault.toStoreFault (f : StoreSettings.Fault) : StoreFault := ⟨.config, f.detail⟩

/-- A request of the client, whose reply may fail to come. -/
abbrev StoreCall (α : Type) := Exchange HttpRequest (Option HttpReply) (Except StoreFault α)

/-- Settings that a client can be made of. -/
structure StoreClient where
  settings : StoreSettings
  url : Url
  deriving DecidableEq

namespace StoreClient

def name : String := "clickhouse"

/-- The client for some settings. -/
def ofSettings [Url.DomainRule] (s : StoreSettings) : Except StoreSettings.Fault StoreClient :=
  match Url.parse? s.url with
  | none => .error (.malformedUrl s.url)
  | some url =>
    if Text.isBlankText s.database then .error .emptyDatabase
    else if s.hasLoneCredential then .error .loneCredential
    else .ok ⟨s, url⟩

/-- The client as it is shown, without its credentials. -/
def description (c : StoreClient) : String :=
  "ClickHouseBackend \x7b url: " ++ Text.quoted c.settings.url ++ ", database: " ++
    Text.quoted c.settings.database ++ " \x7d"

/-- Settings and parameters as names with values. Numbers of 64 bits come back as numbers, and a name
means a column before it means another column's alias. -/
def pairs (c : StoreClient) (params : Params) : List (String × String) :=
  [("database", c.settings.database), ("max_execution_time", toString c.settings.maxExecutionTime),
    ("output_format_json_quote_64bit_integers", "0"), ("prefer_column_name_to_alias", "1")] ++
    params.toList.map fun p => ("param_" ++ p.name, p.value)

def basic (username password : String) : String :=
  "Basic " ++ String.ofList (Base64.encode (Utf8.encode (username ++ ":" ++ password).toList))

/-- The credentials of a request: those in the address, else those of the settings. -/
def authorization? (c : StoreClient) : Option String :=
  match c.url.credentials?, c.settings.username, c.settings.password with
  | some (username, password), _, _ => some (basic username (password.getD ""))
  | none, some username, some password => some (basic username password)
  | none, _, _ => none

def request (c : StoreClient) (text : String) (params : Params) : HttpRequest :=
  { url := c.url.addPairs (c.pairs params), authorization := c.authorization?, body := text
    timeout := c.settings.requestTimeout }

/-- Sends a text and reads what comes back. -/
def send {α : Type} (c : StoreClient) (text : String) (params : Params)
    (read : String → Except StoreFault α) : StoreCall α :=
  if c.url.takesRequests then
    .asks (c.request text params) fun reply =>
      match reply.filter HttpReply.isFinal with
      | none => .error ⟨.connection, "ClickHouse connection failed"⟩
      | some reply =>
        if Http.isSuccess reply.status then read reply.content
        else
          .error ⟨.execution, "ClickHouse error (" ++ Http.statusText reply.status ++ "): " ++ reply.content⟩
  else .settled (.error ⟨.connection, "ClickHouse connection failed"⟩)

/-- A statement without blanks around it and without the semicolons at its end. -/
def bareStatement (sql : String) : String :=
  String.ofList ((Text.trim sql).toList.reverse.dropWhile (· == ';')).reverse

/-- The record that a line writes. -/
def record? (line : List Char) : Option Record :=
  match Json.ofChars? line with
  | some (.members entries) => some entries
  | _ => none

/-- The records of the lines that are not blank. -/
def recordsOfLines (body : String) : Except StoreFault (List Record) :=
  match ((body.toList.splitOn '\n').filter fun line => !line.all Text.isBlank).mapM record? with
  | some records => .ok records
  | none => .error ⟨.serialization, "failed to parse JSON row"⟩

/-- Asks the store for the rows of a statement. -/
def execute (c : StoreClient) (sql : String) (params : Params) : StoreCall Rows :=
  match Guard.checkText sql, Guard.checkParams sql params with
  | .error fault, _ => .settled (.error fault.toStoreFault)
  | .ok (), .error fault => .settled (.error fault.toStoreFault)
  | .ok (), .ok () =>
    c.send (bareStatement sql ++ " FORMAT JSONEachRow") params fun body =>
      (recordsOfLines body).map Rows.ofRecords

/-- Asks the store whether it answers. -/
def healthCheck (c : StoreClient) : StoreCall Unit := c.send "SELECT 1" .empty fun _ => .ok ()

/-- Puts a question to the store. -/
def ask (c : StoreClient) : StoreQuestion → StoreCall Rows
  | .rows statement => c.execute statement.sql statement.params
  | .health => c.healthCheck.map fun answer => answer.map fun () => Rows.empty

end StoreClient

end BalanceSheet
