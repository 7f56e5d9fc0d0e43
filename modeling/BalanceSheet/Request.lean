import BalanceSheet.Calendar.Date
import BalanceSheet.Condition.Basic
import BalanceSheet.Registry.Parts
import BalanceSheet.Store.Rows
import BalanceSheet.Text.Basic

/-!
What can be asked of the engine, and why it fails.
-/

namespace BalanceSheet

/-! ### Failures

Why a request fails. The request itself is at fault unless the configuration or the store is; each
class of request fault lists its causes, and `stated` stands for a reason that a caller gives in words.
-/

inductive FilterFault where
  | malformedKey (key : String)
  | noField (key : String)
  | notFilterable (field : String)
  | noValue (field : String)
  | emptyList (field : String)
  | unfitOperand (operator : Operator) (operand : Operand) (field : String)
  | unreadable (value : String) (type : ValueType) (field : String)
  | unknownDirection (text : String)
  | stated (reason : String)
  deriving DecidableEq

def FilterFault.message : FilterFault → String
  | malformedKey key => s!"malformed filter key '{key}'"
  | noField key => s!"filter key '{key}' has no field"
  | notFilterable field => s!"'{field}' is not a filterable field"
  | noValue field => s!"filter '{field}' has no value"
  | emptyList field => s!"'{field}' needs at least one value"
  | unfitOperand operator operand field =>
    s!"operator {operator.title} cannot take value {operand.title} for '{field}'"
  | unreadable value type field => s!"'{value}' is not a valid {type.storeName} value for '{field}'"
  | unknownDirection text => s!"unknown order direction: {text}"
  | stated reason => reason

inductive DateFault where
  | unreadable (text : String)
  | unreadableFor (text field : String)
  | reversed (first last : Date)
  | stated (reason : String)

def DateFault.message : DateFault → String
  | unreadable text => s!"'{text}' is not a YYYY-MM-DD date"
  | unreadableFor text field => s!"'{text}' is not a YYYY-MM-DD date for '{field}'"
  | reversed first last => s!"start_date {first.text} is after end_date {last.text}"
  | stated reason => reason

inductive GroupFault where
  | unknownGranularity (text : String)
  | notAllowed (name : String) (allowed : List String)
  | stated (reason : String)
  deriving DecidableEq

def GroupFault.message : GroupFault → String
  | unknownGranularity text => s!"unknown granularity: {text}"
  | notAllowed name allowed => "'" ++ name ++ "' (allowed: " ++ ", ".intercalate allowed ++ ")"
  | stated reason => reason

inductive RangeFault where
  | zeroLimit
  | stated (reason : String)
  deriving DecidableEq

def RangeFault.message : RangeFault → String
  | zeroLimit => "limit must be at least 1"
  | stated reason => reason

inductive Failure where
  | filter (fault : FilterFault)
  | operator (text : String)
  | date (fault : DateFault)
  | groupBy (fault : GroupFault)
  | unknownMetric (name : String)
  | unknownTable (table : String)
  | unknownColumn (table column : String)
  | outOfRange (fault : RangeFault)
  | registry (fault : RegistryFault)
  | store (fault : StoreFault)

namespace Failure

def message : Failure → String
  | filter fault => "invalid filter: " ++ fault.message
  | operator text => "invalid operator: " ++ text
  | date fault => "invalid date: " ++ fault.message
  | groupBy fault => "invalid group by: " ++ fault.message
  | unknownMetric name => "unknown metric: " ++ name
  | unknownTable table => "unknown table: " ++ table
  | unknownColumn table column => s!"unknown column '{column}' on table '{table}'"
  | outOfRange fault => "value out of range: " ++ fault.message
  | registry fault => fault.message
  | store fault => "backend error: " ++ fault.message

/-- Whether the request is at fault rather than the store or the configuration. -/
def isRequestFault : Failure → Bool
  | registry _ | store _ => false
  | _ => true

end Failure

/-! ### Requests

What can be asked: one row of metrics for a period, the same split by a dimension and paged, and the
distinct values of a column. Pages have at most ten thousand rows and at least one.
-/

inductive Direction where
  | asc | desc
  deriving DecidableEq

namespace Direction

def all : List Direction := [asc, desc]

def name : Direction → String
  | asc => "asc"
  | desc => "desc"

def keyword : Direction → String
  | asc => "ASC"
  | desc => "DESC"

def spellings : Direction → List String
  | asc => ["asc", "ascending"]
  | desc => ["desc", "descending"]

/-- Reads a direction in any letter case. -/
def read (s : String) : Except Failure Direction :=
  match all.find? fun d => d.spellings.contains (Text.lower s) with
  | some d => .ok d
  | none => .error (.filter (.unknownDirection s))

end Direction

/-- Rows to return at most, and rows to skip before them. -/
structure Page where
  limit : Nat
  offset : Nat
  deriving DecidableEq

namespace Page

def maxLimit : Nat := 10000

/-- The page of groups where a request names none. -/
def ofGroups : Page := ⟨50, 0⟩

/-- The page of values where a request names none. -/
def ofValues : Page := ⟨100, 0⟩

/-- The limit that is applied. -/
def effectiveLimit (p : Page) : Except Failure Nat :=
  if p.limit = 0 then .error (.outOfRange .zeroLimit) else .ok (min p.limit maxLimit)

end Page

/-- Metrics by name, all base metrics where none is named, and the conditions of the current period. -/
structure YoyRequest where
  metrics : List String
  filters : List Condition
  deriving DecidableEq

structure GroupedRequest extends YoyRequest where
  groupBy : String
  page : Page
  orderBy : Option String
  direction : Direction
  deriving DecidableEq

structure DistinctRequest where
  table : String
  column : String
  filters : List Condition
  page : Page
  deriving DecidableEq

end BalanceSheet
