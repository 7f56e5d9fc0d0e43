import BalanceSheet.Condition.Filter
import BalanceSheet.Decimal
import BalanceSheet.Json.Basic
import BalanceSheet.Registry.Basic
import BalanceSheet.Request

/-!
The queries that the server takes, and why a request fails.
-/

namespace BalanceSheet.Api

/-! ### Faults

Why a request to the server fails, and what the one who asked is told. Faults of the store and of the
configuration are told without detail, and so is any other fault of the server itself.
-/

/-- What is wrong with a request before it is known what it asks for. -/
inductive RequestFault where
  | noGroupBy
  | noTable
  | zeroPage
  | notNumber (key value : String)
  | stated (reason : String)
  deriving DecidableEq

def RequestFault.message : RequestFault → String
  | noGroupBy => "group_by is required"
  | noTable => "table is required"
  | zeroPage => "page must be at least 1"
  | notNumber key value => s!"{key} must be a non-negative integer, got '{value}'"
  | stated reason => reason

inductive Fault where
  | badRequest (fault : RequestFault)
  | notFound (what : String)
  | internal (reason : String)
  | failure (cause : Failure)

namespace Fault

def message : Fault → String
  | badRequest fault => "bad request: " ++ fault.message
  | notFound what => "not found: " ++ what
  | internal reason => "internal error: " ++ reason
  | failure cause => cause.message

/-- The status that a request fails with. -/
def status : Fault → Nat
  | badRequest _ => 400
  | notFound _ => 404
  | internal _ => 500
  | failure cause => if cause.isRequestFault then 400 else 500

/-- The code that names the kind of the failure. -/
def code : Fault → String
  | badRequest _ => "BAD_REQUEST"
  | notFound _ => "NOT_FOUND"
  | internal _ => "INTERNAL_ERROR"
  | failure (.filter _) => "INVALID_FILTER"
  | failure (.operator _) => "INVALID_OPERATOR"
  | failure (.date _) => "INVALID_DATE"
  | failure (.groupBy _) => "INVALID_GROUP_BY"
  | failure (.unknownMetric _) => "UNKNOWN_METRIC"
  | failure (.unknownTable _) => "UNKNOWN_TABLE"
  | failure (.unknownColumn _ _) => "UNKNOWN_COLUMN"
  | failure (.outOfRange _) => "OUT_OF_RANGE"
  | failure (.registry _) => "INTERNAL_ERROR"
  | failure (.store _) => "QUERY_FAILED"

/-- What the one who asked is told. -/
def publicMessage (f : Fault) : String := if f.status = 500 then "internal error" else f.message

end Fault

/-! ### Queries

Requests out of names with values, as the query of an address or a command line gives them. Some names
are reserved and have a meaning of their own; each of the others is a filter on a column. A reserved name
with a blank value is as good as absent.
-/

/-- Names with values, in the order of names. -/
abbrev RawQuery := List (String × String)

namespace RawQuery

/-- The value of a reserved name, unless it is blank. -/
def value? (raw : RawQuery) (key : String) : Option String :=
  (Sorted.get? raw key).filter fun value => !Text.isBlankText value

/-- The entries whose names are not among `reserved`. -/
def others (raw : RawQuery) (reserved : List String) : RawQuery :=
  raw.filter fun entry => !reserved.contains entry.1

/-- The value of a reserved name as a number. -/
def number? (raw : RawQuery) (key : String) : Except Fault (Option Nat) :=
  match raw.value? key with
  | none => .ok none
  | some value =>
    match Decimal.unsigned? Decimal.maxUInt32 (Text.trim value) with
    | some n => .ok (some n)
    | none => .error (.badRequest (.notNumber key value))

end RawQuery

/-- The conditions of a period: the bounds on the date, then the filters. -/
def periodConditions (r : Registry) (bounds : DateBounds) (filters : RawQuery) :
    Except Fault (List Condition) := do
  match bounds.conditions with
  | .error failure => .error (.failure failure)
  | .ok dates =>
    match Filter.conditions r.filterableColumns filters with
    | .error failure => .error (.failure failure)
    | .ok others => .ok (dates ++ others)

/-- What a query for metrics says. -/
structure BalanceQuery where
  bounds : DateBounds
  groupBy : Option String
  page : Option Nat
  limit : Option Nat
  offset : Option Nat
  orderBy : Option String
  orderDirection : Option String
  /-- The metrics that are asked for, none for all. -/
  metrics : List String
  filters : RawQuery
  deriving DecidableEq

namespace BalanceQuery

def reservedKeys : List String :=
  ["start_date", "end_date", "group_by", "page", "limit", "offset", "order_by", "order_direction", "metrics"]

def ofRaw (raw : RawQuery) : Except Fault BalanceQuery := do
  let page ← raw.number? "page"
  let limit ← raw.number? "limit"
  let offset ← raw.number? "offset"
  return { bounds := ⟨raw.value? "start_date", raw.value? "end_date"⟩
           groupBy := raw.value? "group_by"
           page, limit, offset
           orderBy := raw.value? "order_by"
           orderDirection := raw.value? "order_direction"
           metrics := ((raw.value? "metrics").map Filter.members).getD []
           filters := raw.others reservedKeys }

def conditions (q : BalanceQuery) (r : Registry) : Except Fault (List Condition) :=
  periodConditions r q.bounds q.filters

def yoyRequest (q : BalanceQuery) (r : Registry) : Except Fault YoyRequest := do
  return ⟨q.metrics, ← q.conditions r⟩

/-- How many rows to skip: as many as are named, else those of the pages before the one that is named. -/
def rowsToSkip (q : BalanceQuery) (limit : Nat) : Except Fault Nat :=
  match q.offset, q.page with
  | some offset, _ => .ok offset
  | none, none => .ok 0
  | none, some 0 => .error (.badRequest .zeroPage)
  | none, some (before + 1) => .ok (min (before * min limit Page.maxLimit) Decimal.maxUInt32)

def direction (q : BalanceQuery) : Except Fault Direction :=
  match q.orderDirection with
  | none => .ok .desc
  | some word => (Direction.read word).mapError .failure

def groupedRequest (q : BalanceQuery) (r : Registry) : Except Fault GroupedRequest :=
  match q.groupBy with
  | none => .error (.badRequest .noGroupBy)
  | some groupBy =>
    match r.dimension groupBy with
    | .error failure => .error (.failure failure)
    | .ok _ => do
      let limit := q.limit.getD Page.ofGroups.limit
      let offset ← q.rowsToSkip limit
      let filters ← q.conditions r
      return { metrics := q.metrics, filters, groupBy, page := ⟨limit, offset⟩, orderBy := q.orderBy
               direction := ← q.direction }

end BalanceQuery

/-- What a query for the values of a column says. -/
structure ValuesQuery where
  table : String
  page : Page
  bounds : DateBounds
  filters : RawQuery
  deriving DecidableEq

namespace ValuesQuery

def reservedKeys : List String := ["table", "limit", "offset", "start_date", "end_date"]

def ofRaw (raw : RawQuery) : Except Fault ValuesQuery :=
  match raw.value? "table" with
  | none => .error (.badRequest .noTable)
  | some table => do
    let limit ← raw.number? "limit"
    let offset ← raw.number? "offset"
    return { table, page := ⟨limit.getD Page.ofValues.limit, offset.getD Page.ofValues.offset⟩
             bounds := ⟨raw.value? "start_date", raw.value? "end_date"⟩
             filters := raw.others reservedKeys }

def request (q : ValuesQuery) (column : String) (r : Registry) : Except Fault DistinctRequest := do
  return ⟨q.table, column, ← periodConditions r q.bounds q.filters, q.page⟩

end ValuesQuery

end BalanceSheet.Api
