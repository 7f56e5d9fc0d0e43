import BalanceSheet.Json.Basic
import BalanceSheet.Json.Printer
import BalanceSheet.Registry.Basic
import BalanceSheet.Text.Basic

/-!
Responses, and the schemas that describe them.
-/

namespace BalanceSheet

/-! ### Values and rows

A response has every field of the registry, in its order, whatever columns the store has
returned: what is absent, no number or not finite reads as zero.
-/

/-- Values by field, in the order of the registry. -/
abbrev MetricValues := List (String × Float)

namespace MetricValues

def get? (values : MetricValues) (name : String) : Option Float :=
  (values.find? fun entry => entry.1 == name).map Prod.snd

/-- The members of the object, in the order of the values. -/
def entries (values : MetricValues) : List (String × Json) := values.map fun (name, x) => (name, .float x)

def toJson (values : MetricValues) : Json := .members values.entries

end MetricValues

/-- A value of the store as a number. The store may send numbers as text. -/
def numberOf (value : Option Json) : Float :=
  let x := match value with
    | some (.number (.natural n)) => some (Float.ofNat n)
    | some (.number (.negative n)) => some (Float.ofInt n)
    | some (.number (.float x)) => some x
    | some (.string s) => Decimal.float? (Text.trim s)
    | _ => none
  (x.filter Float.isFinite).getD 0.0

/-- A value of the store as a count. -/
def countOf : Option Json → Nat
  | some (.number (.natural n)) => n
  | some (.string s) => (Decimal.unsigned? Decimal.maxUInt64 (Text.trim s)).getD 0
  | _ => 0

/-- A value of the store as text. -/
def textOf? : Option Json → Option String
  | some (.string s) => some s
  | some (.number n) => some (Json.numberText n)
  | some (.bool b) => some (if b then "true" else "false")
  | _ => none

namespace MetricValues

/-- The three fields of a base metric. Last year's value may stand under the name that it has inside a
statement. -/
def ofMetric (raw : Record) (m : BaseMetric) : MetricValues :=
  let lastYear := (Sorted.get? raw m.lastYearField).or (Sorted.get? raw m.previousColumn)
  [(m.name, numberOf (Sorted.get? raw m.name)), (m.lastYearField, numberOf lastYear),
    (m.changeField, numberOf (Sorted.get? raw m.changeField))]

/-- The values of a row. -/
def ofRecord (r : Registry) (raw : Record) : MetricValues :=
  r.base.flatMap (ofMetric raw) ++ r.calculated.map fun m => (m.name, numberOf (Sorted.get? raw m.name))

end MetricValues

structure GroupedRow where
  id : String
  name : String
  metrics : MetricValues
  /-- The number of groups on all pages. -/
  totalCount : Nat

namespace GroupedRow

def ofRecord (r : Registry) (raw : Record) : GroupedRow :=
  let id := (textOf? (Sorted.get? raw "id")).getD ""
  { id, name := ((textOf? (Sorted.get? raw "name")).filter fun name => !name.isEmpty).getD id
    metrics := .ofRecord r raw, totalCount := countOf (Sorted.get? raw "_total_count") }

def toJson (row : GroupedRow) : Json :=
  .members ([("id", .string row.id), ("name", .string row.name)] ++ row.metrics.entries ++
    [("_total_count", .natural row.totalCount)])

end GroupedRow

/-- Where a page stands among all groups. -/
structure PageMeta where
  groupBy : String
  total : Nat
  count : Nat
  page : Nat
  limit : Nat
  totalPages : Nat
  deriving DecidableEq

namespace PageMeta

/-- Pages are counted from one, in 32 bits. -/
def ofPage (groupBy : String) (total count limit offset : Nat) : PageMeta :=
  let limit := max limit 1
  { groupBy, total, count, limit
    page := (offset / limit + 1) % (Decimal.maxUInt32 + 1), totalPages := (total + limit - 1) / limit }

def toJson (m : PageMeta) : Json :=
  .members [("group_by", .string m.groupBy), ("total", .natural m.total), ("count", .natural m.count),
    ("page", .natural m.page), ("limit", .natural m.limit), ("total_pages", .natural m.totalPages)]

end PageMeta

structure GroupedResult where
  rows : List GroupedRow
  page : PageMeta

def GroupedResult.toJson (result : GroupedResult) : Json :=
  .members [("data", .array (result.rows.map GroupedRow.toJson)), ("meta", result.page.toJson)]

/-! ### Schemas

A schema is made from the registry: which fields a row has, of which type, and what they mean. Every field is
required and no other is allowed; fields stand in the order of names.
-/

namespace Schema

structure Property where
  description : String
  type : String

def Property.toJson (p : Property) : Json :=
  .members [("description", .string p.description), ("type", .string p.type)]

structure Document where
  title : String
  description : String
  /-- Properties in the order of names, all of them required. -/
  properties : List (String × Property)

/-- An object without fields has neither a list of required fields nor one of properties. -/
def Document.toJson (d : Document) : Json :=
  let fields : List (String × Json) :=
    if d.properties.isEmpty then []
    else [("required", .strings (d.properties.map Prod.fst)),
      ("properties", .members (d.properties.map fun (name, p) => (name, p.toJson)))]
  .members ([("$schema", .string "http://json-schema.org/draft-07/schema#"), ("title", .string d.title),
    ("description", .string d.description), ("type", .string "object")] ++ fields ++
    [("additionalProperties", .bool false)])

def ofMetric (m : BaseMetric) : List (String × Property) :=
  [(m.name, ⟨s!"{m.aggregation.name} of {m.table}.{m.field}", "number"⟩),
    (m.lastYearField, ⟨s!"{m.name} for the same period last year", "number"⟩),
    (m.changeField, ⟨s!"{m.name} change vs last year, percent", "number"⟩)]

def ofCalculated (m : CalculatedMetric) : String × Property :=
  (m.name, ⟨"Derived from " ++ ", ".intercalate m.dependencies, "number"⟩)

def metricProperties (r : Registry) : List (String × Property) :=
  r.base.flatMap ofMetric ++ r.calculated.map ofCalculated

/-- The schema of a response with one row. -/
def ofRow (r : Registry) : Document where
  title := "BalanceSheet"
  description := "Current period, same period last year and percent change per metric"
  properties := Sorted.ofList (metricProperties r)

/-- The schema of one row of a grouped response. -/
def ofGroupedRow (r : Registry) : Document where
  title := "BalanceSheetRow"
  description := "Balance-sheet metrics for one group"
  properties := Sorted.ofList
    ([("id", ⟨"Group key", "string"⟩), ("name", ⟨"Group display name", "string"⟩)] ++ metricProperties r ++
      [("_total_count", ⟨"Groups matching the request", "integer"⟩)])

end Schema

end BalanceSheet
