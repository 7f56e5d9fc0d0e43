import BalanceSheet.Api.Query
import BalanceSheet.Engine
import BalanceSheet.Http.Fault
import BalanceSheet.Http.Message
import BalanceSheet.Json.Printer
import BalanceSheet.Response
import BalanceSheet.Text.Bytes
import BalanceSheet.Url.Basic

/-!
The server: routes, queries carried out, responses, the rule for origins, and which request is answered how.
-/

namespace BalanceSheet.Api

/-! ### Routes

Requests to the server and where they lead. An address is one of five routes or unknown.
-/

inductive Route where
  | health
  | metrics
  | groups
  /-- The values of a column, whose name is given as it stands in the address. -/
  | values (column : List Char)
  | schema
  deriving DecidableEq

namespace Route

def root : List Char := "/api/v1/balance-sheet".toList

/-- The column between the fixed parts of an address. -/
def column? (path : List Char) : Option (List Char) := do
  let rest ← Text.dropStart? "/filters/".toList path
  let column ← Text.dropEnding? "/values".toList rest
  if column.isEmpty || column.contains '/' then none else some column

def ofPath? (path : String) : Option Route :=
  if path = "/health" then some health
  else
    match Text.dropStart? root path.toList with
    | none => none
    | some rest =>
      if rest.isEmpty then some metrics
      else if rest = "/grouped".toList then some groups
      else if rest = "/schema".toList then some schema
      else (column? rest).map values

end Route

inductive Method where
  | get | head | options | other
  deriving DecidableEq

namespace Method

def ofName (name : String) : Method :=
  if name = "GET" then get else if name = "HEAD" then head else if name = "OPTIONS" then options else other

end Method

/-- A request, as far as its response depends on it. -/
structure Request where
  method : Method
  path : String
  query : String
  /-- The origin of the page that asks, if it is named. -/
  origin : Option String
  deriving DecidableEq

namespace Request

/-- A target without the scheme and the host that it may start with. -/
def withoutHost (target : List Char) : List Char :=
  match (Text.dropStart? "http://".toList target).or (Text.dropStart? "https://".toList target) with
  | none => target
  | some rest =>
    match rest.dropWhile fun c => c ≠ '/' && c ≠ '?' with
    | '/' :: path => '/' :: path
    | query => '/' :: query

/-- The request for a target: a path, and a query after a question mark. -/
def ofTarget (method target : String) (origin : Option String) : Request :=
  let target := withoutHost (target.toList.takeWhile (· ≠ '#'))
  let (path, query) := (Text.cut '?' target).getD (target, [])
  ⟨.ofName method, String.ofList path, String.ofList query, origin⟩

/-- The names and values of the query; of those with one name the last counts. -/
def raw (request : Request) : RawQuery := Sorted.ofList (Form.decodePairs request.query.toList)

end Request

/-! ### Queries carried out

What a query comes to is the answer of the engine, or the fault of the query itself; without the store, the
statement that it would be asked can still be seen.
-/

/-- A query on its way to an answer. -/
abbrev Errand (α : Type) := Exchange StoreQuestion StoreReply (Except Fault α)

namespace Errand

/-- Goes on with a query unless it is at fault. -/
def ofQuery {query α : Type} (read : Except Fault query) (run : query → Errand α) : Errand α :=
  match read with
  | .error fault => .settled (.error fault)
  | .ok q => run q

/-- Makes the inquiry that a request stands for, unless the request is at fault. -/
def ofRequest {request α : Type} (read : Except Fault request) (inquire : request → Inquiry α) : Errand α :=
  ofQuery read fun request => (inquire request).map fun answer => answer.mapError .failure

end Errand

namespace BalanceQuery

def yoy (q : BalanceQuery) (r : Registry) (today : Date) : Errand MetricValues :=
  .ofRequest (q.yoyRequest r) (Engine.yoy r today)

def grouped (q : BalanceQuery) (r : Registry) (today : Date) : Errand GroupedResult :=
  .ofRequest (q.groupedRequest r) (Engine.grouped r today)

/-- The statement that the store would be asked, by group if a dimension is named; there is none where
no group can be. -/
def statement? (q : BalanceQuery) (r : Registry) (today : Date) : Except Fault (Option Statement) := do
  match q.groupBy with
  | some _ => (Grouped.statement r (← q.groupedRequest r) today).mapError .failure
  | none => return some (← (Yoy.statement r (← q.yoyRequest r) today).mapError .failure)

end BalanceQuery

def ValuesQuery.values (q : ValuesQuery) (column : String) (r : Registry) : Errand (List String) :=
  .ofRequest (q.request column r) (Engine.distinct r)

/-! ### Responses

Responses are JSON texts with a status, apart from the few that say nothing or only why an
address makes no sense.
-/

structure Response where
  status : Nat
  headers : List (String × String)
  body : String
  deriving DecidableEq

namespace Response

def json (status : Nat) (body : Json) : Response :=
  ⟨status, [("content-type", "application/json")], body.compact⟩

/-- A response with data. -/
def data (data : Json) : Response := json 200 (.members [("data", data)])

def ofFault (fault : Fault) : Response :=
  json fault.status (.members [("error", .string fault.code), ("message", .string fault.publicMessage)])

/-- The response to what came of a request. -/
def ofOutcome {α : Type} (respond : α → Response) : Except Fault α → Response
  | .ok a => respond a
  | .error fault => ofFault fault

def ofGroups (result : GroupedResult) : Response :=
  json 200 result.toJson

def ofSchemas (r : Registry) : Response :=
  data (.members [("row", (Schema.ofRow r).toJson), ("grouped_row", (Schema.ofGroupedRow r).toJson)])

/-- Whether the store answers. -/
def ofHealth (storeName : String) (reachable : Bool) : Response :=
  json (if reachable then 200 else 503)
    (.members [("status", .string (if reachable then "ok" else "degraded")), ("backend", .string storeName),
      ("backend_reachable", .bool reachable)])

def notFound : Response := ⟨404, [], ""⟩

/-- The methods that an address takes. -/
def allow : String × String := ("allow", "GET,HEAD")

def methodNotAllowed : Response := ⟨405, [allow], ""⟩

/-- A part of the address whose bytes are no text. -/
def notText (part : String) : Response :=
  ⟨400, [("content-type", "text/plain; charset=utf-8")], "Invalid URL: Invalid UTF-8 in `" ++ part ++ "`"⟩

/-- The response to a request that wants no body. -/
def withoutBody (r : Response) : Response := { r with body := "" }

def withHeaders (r : Response) (headers : List (String × String)) : Response :=
  { r with headers := r.headers ++ headers }

end Response

/-! ### Origins

The origins of the web pages that may read the responses are listed, or all are admitted; an
origin that cannot stand in a header is ignored. A browser first asks with a request of its own kind, and
is told that any method and any header may be used.
-/

inductive OriginRule where
  | any
  | only (origins : List String)
  deriving DecidableEq

namespace OriginRule

def isHeaderChar (c : Char) : Bool := (' ' ≤ c && c ≠ '\x7f') || c = '\t'

/-- The rule that a list of origins makes; an empty list makes none. -/
def ofOrigins? (origins : List String) : Option OriginRule :=
  if origins.isEmpty then none
  else if origins.contains "*" then some any
  else some (only (origins.filter fun origin => origin.toList.all isHeaderChar))

/-- What a response says to a page of an origin. -/
def headers (rule : OriginRule) (origin : Option String) : List (String × String) :=
  let name := "access-control-allow-origin"
  match rule, origin with
  | any, _ => [(name, "*")]
  | only origins, some origin => if origins.contains origin then [(name, origin)] else []
  | only _, none => []

/-- What the response to a browser's first question says besides. -/
def permissions : List (String × String) :=
  [("access-control-allow-methods", "*"), ("access-control-allow-headers", "*")]

end OriginRule

/-! ### Answers

A route takes requests to read, with or without the body of the response, and no request asks the store more than
once. Where there is a rule for origins, every response has its headers, and a browser's first question is
answered by the rule alone.
-/

/-- A request on its way to a response. -/
abbrev Handling := Exchange StoreQuestion StoreReply Response

structure Server where
  registry : Registry
  today : Date
  storeName : String
  /-- Which pages may read the responses; without a rule nothing is said of that. -/
  origins : Option OriginRule

namespace Server

/-- The values of a column, whose name must be text once it is decoded. -/
def values (s : Server) (column : List Char) (raw : RawQuery) : Handling :=
  match Utf8.decode? (Percent.bytes column) with
  | none => .settled (.notText "column")
  | some column =>
    (Errand.ofQuery (ValuesQuery.ofRaw raw) fun q => q.values (String.ofList column) s.registry).map
      (.ofOutcome fun values => .data (.strings values))

/-- Answers a request to read. -/
def read (s : Server) (route : Route) (raw : RawQuery) : Handling :=
  match route with
  | .health => Engine.health.map fun answer => .ofHealth s.storeName answer.toBool
  | .schema => .settled (.ofSchemas s.registry)
  | .metrics =>
    (Errand.ofQuery (BalanceQuery.ofRaw raw) fun q => q.yoy s.registry s.today).map
      (.ofOutcome fun values => .data values.toJson)
  | .groups =>
    (Errand.ofQuery (BalanceQuery.ofRaw raw) fun q => q.grouped s.registry s.today).map
      (.ofOutcome .ofGroups)
  | .values column => s.values column raw

/-- Answers a request without regard to origins. -/
def respond (s : Server) (request : Request) : Handling :=
  match Route.ofPath? request.path, request.method with
  | none, _ => .settled .notFound
  | some route, .get => s.read route request.raw
  | some route, .head => (s.read route request.raw).map Response.withoutBody
  | some _, .options | some _, .other => .settled .methodNotAllowed

/-- Tells a browser what it may ask. -/
def permit (rule : OriginRule) (request : Request) : Response :=
  { status := 200, body := ""
    headers := rule.headers request.origin ++ OriginRule.permissions ++
      ((Route.ofPath? request.path).map fun _ => Response.allow).toList }

/-- Answers a request. -/
def handle (s : Server) (request : Request) : Handling :=
  match s.origins with
  | none => s.respond request
  | some rule =>
    if request.method = .options then .settled (permit rule request)
    else (s.respond request).map fun response => response.withHeaders (rule.headers request.origin)

end Server

/-! ### Messages as bytes -/

/-- The request that a head asks for. -/
def Request.ofHead? (head : Http.Head) : Option Request :=
  match head.start.splitOn " " with
  | [method, target, _] => some (.ofTarget method target (head.field? "origin"))
  | _ => none

def Response.bytes (r : Response) : List UInt8 :=
  let body := Utf8.encode r.body.toList
  let head : Http.Head :=
    ⟨"HTTP/1.1 " ++ Http.statusText r.status,
      r.headers ++ [("content-length", toString body.length), ("connection", "close")]⟩
  Utf8.encode head.text.toList ++ body

/-- The response to what is no request. -/
def Response.badRequest : Response := ⟨400, [], ""⟩

end BalanceSheet.Api
