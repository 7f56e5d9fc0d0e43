import BalanceSheet.File.Tree
import BalanceSheet.Json.Basic
import BalanceSheet.Text.Basic

/-!
The parts of a registry, and why a registry is refused.
-/

namespace BalanceSheet

/-! ### Tables

A fact table has a name, typed columns, and a column that holds the date of a row. A name that goes into
a statement as it stands is an identifier: a letter or underscore, then letters, digits and underscores.
-/

/-- Types of columns and of the parameters compared with them. -/
inductive ValueType where
  | string | date | float64 | int64 | uint64
  deriving DecidableEq

namespace ValueType

def all : List ValueType := [string, date, float64, int64, uint64]

/-- The name in configuration and in the JSON form. -/
def name : ValueType → String
  | string => "string"
  | date => "date"
  | float64 => "float64"
  | int64 => "int64"
  | uint64 => "uint64"

/-- The name that the store has for the type. -/
def storeName : ValueType → String
  | string => "String"
  | date => "Date"
  | float64 => "Float64"
  | int64 => "Int64"
  | uint64 => "UInt64"

end ValueType

structure Column where
  name : String
  type : ValueType
  deriving DecidableEq

structure Table where
  name : String
  dateColumn : String
  columns : List Column
  deriving DecidableEq

namespace Table

/-- The first column of that name. -/
def column? (t : Table) (name : String) : Option Column := t.columns.find? fun c => c.name == name

def hasColumn (t : Table) (name : String) : Bool := (t.column? name).isSome

theorem hasColumn_iff {t : Table} {name : String} :
    t.hasColumn name = true ↔ ∃ c ∈ t.columns, c.name = name := by
  simp [hasColumn, column?, List.find?_isSome]

end Table

namespace Identifier

def isStart (c : Char) : Bool := c.isAlpha || c = '_'

def isPart (c : Char) : Bool := c.isAlphanum || c = '_'

/-- Whether these characters form an identifier. -/
def isValid : List Char → Bool
  | [] => false
  | c :: cs => isStart c && cs.all isPart

end Identifier

def isIdentifier (s : String) : Bool := Identifier.isValid s.toList

/-! ### Metrics

A base metric aggregates one column of one table; its value for the same period last year and
the percent change are reported under names that extend its name. A calculated metric is a formula over
other metrics, in which each dependency stands in braces.
-/

inductive Aggregation where
  | sum | avg | count | countDistinct | min | max
  deriving DecidableEq

namespace Aggregation

def all : List Aggregation := [sum, avg, count, countDistinct, min, max]

def name : Aggregation → String
  | sum => "sum"
  | avg => "avg"
  | count => "count"
  | countDistinct => "count_distinct"
  | min => "min"
  | max => "max"

/-- The aggregate in the store's language, which is zero over an empty set. -/
def function : Aggregation → String
  | sum => "sumOrDefault"
  | avg => "avgOrDefault"
  | count => "count"
  | countDistinct => "uniqExact"
  | min => "minOrDefault"
  | max => "maxOrDefault"

def expr (a : Aggregation) (field : String) : String := a.function ++ "(" ++ field ++ ")"

end Aggregation

structure BaseMetric where
  table : String
  field : String
  aggregation : Aggregation
  name : String
  deriving DecidableEq

namespace BaseMetric

/-- The column of the previous period inside a statement. -/
def previousColumn (m : BaseMetric) : String := m.name ++ "_ly"

/-- The output field with last year's value. -/
def lastYearField (m : BaseMetric) : String := m.name ++ "_last_year"

/-- The output field with the percent change. -/
def changeField (m : BaseMetric) : String := m.name ++ "_vs_last_year"

def expr (m : BaseMetric) : String := m.aggregation.expr m.field

/-- The fields of a metric in a response. -/
def fields (m : BaseMetric) : List String := [m.name, m.lastYearField, m.changeField]

end BaseMetric

structure CalculatedMetric where
  name : String
  dependencies : List String
  formula : String
  deriving DecidableEq

/-- Base metrics by the table they read, tables in the order of their first metric. -/
abbrev TableMetrics := List (String × List BaseMetric)

namespace TableMetrics

/-- Puts a metric behind the others of its table. -/
def insert (m : BaseMetric) : TableMetrics → TableMetrics
  | [] => [(m.table, [m])]
  | (table, ms) :: rest =>
    if table = m.table then (table, ms ++ [m]) :: rest else (table, ms) :: insert m rest

def ofMetrics (metrics : List BaseMetric) : TableMetrics := metrics.foldl (fun groups m => insert m groups) []

def metrics (groups : TableMetrics) : List BaseMetric := groups.flatMap Prod.snd

end TableMetrics

/-! ### Dimensions

A request may group by a column, or by a calendar bucket over the date column of each table. The key of a column
dimension may have a name for display in a column of one table.
-/

inductive Granularity where
  | daily | weekly | monthly | quarterly | yearly
  deriving DecidableEq

namespace Granularity

def all : List Granularity := [daily, weekly, monthly, quarterly, yearly]

def name : Granularity → String
  | daily => "daily"
  | weekly => "weekly"
  | monthly => "monthly"
  | quarterly => "quarterly"
  | yearly => "yearly"

def spellings : Granularity → List String
  | daily => ["daily", "day"]
  | weekly => ["weekly", "week"]
  | monthly => ["monthly", "month"]
  | quarterly => ["quarterly", "quarter"]
  | yearly => ["yearly", "year"]

/-- Reads a granularity in any letter case. -/
def parse? (s : String) : Option Granularity := all.find? fun g => g.spellings.contains (Text.lower s)

/-- The store's function from a date to the first day of its bucket. -/
def function : Granularity → String
  | daily => "toDate"
  | weekly => "toMonday"
  | monthly => "toStartOfMonth"
  | quarterly => "toStartOfQuarter"
  | yearly => "toStartOfYear"

end Granularity

/-- The column that holds the names for the keys of a dimension. -/
structure NameColumn where
  table : String
  column : String
  deriving DecidableEq

structure Dimension where
  name : String
  bucket : Option Granularity
  nameColumn : Option NameColumn
  deriving DecidableEq

/-- The two windows that a request compares. -/
inductive Period where
  | current | previous
  deriving DecidableEq

namespace Dimension

/-- Whether a table can be grouped by the dimension. -/
def appliesTo (d : Dimension) (t : Table) : Bool := d.bucket.isSome || t.hasColumn d.name

/-- The key that a row of the table belongs to. A row of the previous period counts a year later, so
that it falls into the same bucket as the day it is compared with. -/
def keyExpr? (d : Dimension) (t : Table) (period : Period) : Option String :=
  match d.bucket, period with
  | some bucket, .current => some s!"toString({bucket.function}({t.dateColumn}))"
  | some bucket, .previous => some s!"toString({bucket.function}(addYears({t.dateColumn}, 1)))"
  | none, _ => if t.hasColumn d.name then some s!"toString({d.name})" else none

end Dimension

/-! ### Faults -/

inductive DimensionFault where
  | declaredTwice
  | noColumn
  | unknownNameTable
  | noNameColumn
  deriving DecidableEq

def DimensionFault.message : DimensionFault → String
  | declaredTwice => "declared twice"
  | noColumn => "no table has this column"
  | unknownNameTable => "name field table is unknown"
  | noNameColumn => "name field table lacks the id or name column"

inductive RegistryFault where
  | duplicateAlias (metric : String)
  | duplicateTable (table : String)
  | duplicateCalculated (name : String)
  | nameCollision (name : String)
  | unknownTable (metric table : String)
  | unknownField (metric table field : String)
  | invalidDimension (name : String) (fault : DimensionFault)
  | invalidIdentifier (name : String)
  | unreadable (path : String) (fault : FileFault)
  | malformed
  deriving DecidableEq

def RegistryFault.message : RegistryFault → String
  | duplicateAlias metric => s!"duplicate metric alias '{metric}'"
  | duplicateTable table => s!"duplicate table '{table}'"
  | duplicateCalculated name => s!"duplicate calculated metric '{name}'"
  | nameCollision name => s!"calculated metric '{name}' collides with a base metric field"
  | unknownTable metric table => s!"metric '{metric}' references unknown table '{table}'"
  | unknownField metric table field => s!"metric '{metric}' references unknown column '{table}.{field}'"
  | invalidDimension name fault => s!"invalid dimension '{name}': {fault.message}"
  | invalidIdentifier name => s!"invalid identifier '{name}'"
  | unreadable path fault => s!"failed to read registry file '{path}': {fault.message}"
  | malformed => "failed to parse registry: TOML parse error"

end BalanceSheet
