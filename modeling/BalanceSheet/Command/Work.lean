import BalanceSheet.Api.Server
import BalanceSheet.Command.Options
import BalanceSheet.Command.Setup
import BalanceSheet.Registry.Diagnosis

/-!
What commands do once their files are read. A check sums up the registry. A query has the same names and
values as one over the server, and is asked or only shown. The server tries the store once, and starts
whatever comes of that if its address makes sense.
-/

namespace BalanceSheet.Command

/-- Work on its way to a result, with at most one request to the store. -/
abbrev Work (α : Type) := Exchange HttpRequest (Option HttpReply) (Except Fault α)

/-- The registry in a few lines, with its gaps. -/
def summary (r : Registry) : List String :=
  let counts :=
    s!"{r.tables.length} tables, {r.base.length} base metrics, {r.calculated.length} calculated metrics"
  let gaps := r.diagnose.map fun gap => "warning: " ++ gap.message
  ["registry: " ++ counts, "group by: " ++ ", ".intercalate r.dimensionNames,
    "filters:  " ++ ", ".intercalate r.filterableColumns] ++
    if gaps.isEmpty then ["no issues found"] else gaps

def clientOf [Url.DomainRule] (c : Config) : Except Fault StoreClient :=
  (StoreClient.ofSettings c.store).mapError .client

namespace QueryOptions

/-- The name and the value of a filter. -/
def filterEntry (filter : String) : Except Fault (String × String) :=
  match Text.cut '=' filter.toList with
  | some (name, value) => .ok (Text.trim (String.ofList name), String.ofList value)
  | none => .error (.malformedFilter filter)

/-- The names that have options of their own, with the values given. -/
def reserved (o : QueryOptions) : List (String × Option String) :=
  [("start_date", o.startDate), ("end_date", o.endDate), ("metrics", o.metrics), ("group_by", o.groupBy),
    ("limit", o.limit.map toString), ("offset", o.offset.map toString), ("order_by", o.orderBy),
    ("order_direction", o.orderDirection)]

/-- The names and values that the options amount to. A name's own option counts before a filter. -/
def raw (o : QueryOptions) : Except Fault Api.RawQuery := do
  let filters ← o.filters.mapM filterEntry
  return Sorted.ofList (filters ++ o.reserved.filterMap fun (name, value) => value.map fun v => (name, v))

def query (o : QueryOptions) : Except Fault Api.BalanceQuery := do
  (Api.BalanceQuery.ofRaw (← o.raw)).mapError .request

/-- A statement as a dry run shows it. -/
def shown : Option Statement → Json
  | some statement =>
    .object [("sql", .string statement.sql), ("params", statement.params.toJson),
      ("skipped_tables", .strings statement.skipped), ("calculated", .strings statement.calculated)]
  | none =>
    .object [("sql", .null), ("reason", .string "no requested table has the grouping dimension")]

/-- The metrics, by group if a dimension is named. -/
def answer (q : Api.BalanceQuery) (r : Registry) (today : Date) : Api.Errand Json :=
  match q.groupBy with
  | some _ => (q.grouped r today).map fun outcome => outcome.map GroupedResult.toJson
  | none => (q.yoy r today).map fun outcome => outcome.map fun values => .members [("data", values.toJson)]

/-- Carries a query out. -/
def work [Url.DomainRule] (o : QueryOptions) (c : Config) (r : Registry) (today : Date) : Work Json :=
  match o.query with
  | .error fault => .settled (.error fault)
  | .ok q =>
    if o.dryRun then .settled (((q.statement? r today).map shown).mapError .request)
    else
      match clientOf c with
      | .error fault => .settled (.error fault)
      | .ok client => ((answer q r today).through client.ask).map fun outcome => outcome.mapError .request

end QueryOptions

/-- A server that is about to listen. -/
structure Service where
  address : SocketAddress
  registry : Registry
  client : StoreClient
  origins : Option Api.OriginRule

namespace Service

/-- Answers a request, with the store's part in it. -/
def handle (s : Service) (today : Date) (request : Api.Request) :
    Exchange HttpRequest (Option HttpReply) Api.Response :=
  let server : Api.Server := ⟨s.registry, today, StoreClient.name, s.origins⟩
  (server.handle request).through s.client.ask

end Service

namespace ServeOptions

/-- The settings of the server where the options count first. -/
def settings (o : ServeOptions) (s : ServerSettings) : ServerSettings :=
  { s with host := o.host.getD s.host, port := o.port.getD s.port }

def service (settings : ServerSettings) (r : Registry) (client : StoreClient) : Except Fault Service :=
  match settings.address? with
  | some address => .ok ⟨address, r, client, Api.OriginRule.ofOrigins? settings.origins⟩
  | none => .error .noAddress

def work [Url.DomainRule] (o : ServeOptions) (c : Config) (r : Registry) : Work Service :=
  match clientOf c with
  | .error fault => .settled (.error fault)
  | .ok client => client.healthCheck.map fun _ => service (o.settings c.server) r client

end ServeOptions

/-- What a command comes to: a text to print, or a server to run. -/
inductive Outcome where
  | text (text : String)
  | service (service : Service)

def work [Url.DomainRule] (command : Command) (c : Config) (r : Registry) (today : Date) : Work Outcome :=
  match command with
  | .check => .settled (.ok (.text ("\n".intercalate (summary r) ++ "\n")))
  | .query o =>
    (o.work c r today).map fun outcome => outcome.map fun json => .text (json.sortKeys.pretty 0 ++ "\n")
  | .serve o => (o.work c r).map fun outcome => outcome.map .service

/-- Finds what a command needs, and what is then to be done. -/
def Invocation.prepare {m : Type → Type} [Monad m] [Url.DomainRule] (files : FileSystem m) (invocation : Invocation)
    (today : Date) : ExceptT Fault m (Work Outcome) := do
  let c ← loadConfig files invocation.shared.configPath
  let r ← loadRegistry files c
  return invocation.command.work c r today

end BalanceSheet.Command
