import BalanceSheet.Json.Basic
import BalanceSheet.Json.Printer

/-!
What comes back from the store: rows, or a fault.
-/

namespace BalanceSheet

/-! ### Faults

What can go wrong with the store: the kind of the failure and what is said of it.
-/

inductive StoreFaultKind where
  | connection | execution | invalidSql | invalidParam | config | serialization
  deriving DecidableEq

def StoreFaultKind.label : StoreFaultKind → String
  | connection => "connection failed"
  | execution => "query execution failed"
  | invalidSql => "invalid SQL"
  | invalidParam => "invalid parameter"
  | config => "configuration error"
  | serialization => "serialization error"

structure StoreFault where
  kind : StoreFaultKind
  detail : String
  deriving DecidableEq

def StoreFault.message (f : StoreFault) : String := f.kind.label ++ ": " ++ f.detail

/-! ### Rows

What the store returns: typed columns and rows of values in the order of the columns. Records are turned
into rows by the columns of the first record; what a later record lacks is null there.
-/

inductive CellType where
  | int64 | uint64 | float64 | string | boolean | json | unknown
  deriving DecidableEq

namespace CellType

def all : List CellType := [int64, uint64, float64, string, boolean, json, unknown]

def name : CellType → String
  | int64 => "int64"
  | uint64 => "uint64"
  | float64 => "float64"
  | string => "string"
  | boolean => "boolean"
  | json => "json"
  | unknown => "unknown"

/-- The type that a value shows. -/
def ofValue : Json → CellType
  | .null => unknown
  | .bool _ => boolean
  | .number (.natural _) => uint64
  | .number (.negative _) => int64
  | .number (.float _) => float64
  | .string _ => string
  | .array _ | .members _ => json

def toJson (t : CellType) : Json := .string t.name

def ofJson? : Json → Option CellType := Json.asConstant? all name

end CellType

structure ResultColumn where
  name : String
  type : CellType
  nullable : Bool
  deriving DecidableEq

namespace ResultColumn

def toJson (c : ResultColumn) : Json :=
  .object [("name", .string c.name), ("data_type", c.type.toJson), ("nullable", .bool c.nullable)]

def ofJson? (json : Json) : Option ResultColumn := do
  let fields ← json.asFields? ["name", "data_type", "nullable"]
  return { name := ← Json.required? fields "name" Json.asString?
           type := ← Json.required? fields "data_type" CellType.ofJson?
           nullable := ← Json.required? fields "nullable" Json.asBool? }

end ResultColumn

structure Rows where
  columns : List ResultColumn
  rows : List (List Json)
  rowCount : Nat
  milliseconds : Nat

namespace Rows

def empty : Rows := ⟨[], [], 0, 0⟩

def ofRecords (records : List Record) : Rows :=
  match records with
  | [] => empty
  | first :: _ =>
    let columns := first.map fun (name, value) => (⟨name, .ofValue value, true⟩ : ResultColumn)
    let rows := records.map fun record => columns.map fun c => (Sorted.get? record c.name).getD .null
    ⟨columns, rows, rows.length, 0⟩

def columnNames (r : Rows) : List String := r.columns.map ResultColumn.name

/-- The values of a row by column. -/
def record (r : Rows) (row : List Json) : Record := Sorted.ofList (r.columnNames.zip row)

def records (r : Rows) : List Record := r.rows.map r.record

def first? (r : Rows) : Option Record := r.rows.head?.map r.record

def toJson (r : Rows) : Json :=
  .object [("columns", .array (r.columns.map ResultColumn.toJson)), ("rows", .array (r.rows.map .array)),
    ("row_count", .natural r.rowCount), ("execution_time_ms", .natural r.milliseconds)]

def ofJson? (json : Json) : Option Rows := do
  let fields ← json.asFields? ["columns", "rows", "row_count", "execution_time_ms"]
  return { columns := ← Json.required? fields "columns" (Json.asList? ResultColumn.ofJson?)
           rows := ← Json.required? fields "rows" (Json.asList? (Json.asList? some))
           rowCount := ← Json.required? fields "row_count" (Json.asNatural? Decimal.maxUInt64)
           milliseconds := ← Json.required? fields "execution_time_ms" (Json.asNatural? Decimal.maxUInt64) }

end Rows

end BalanceSheet
