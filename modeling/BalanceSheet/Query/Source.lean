import BalanceSheet.Condition.Clause
import BalanceSheet.Condition.Filter
import BalanceSheet.Formula
import BalanceSheet.Registry.Basic

/-!
What a statement is made of: clauses, the sources that it reads, and the columns that it puts out.
-/

namespace BalanceSheet

/-! ### Clauses

The text of a SELECT statement is put together clause by clause. Clauses that have nothing to say are left out, and
without columns the statement selects all.
-/

structure Select where
  /-- Names and texts of the common table expressions. -/
  ctes : List (String × String) := []
  columns : List String := []
  source : Option String := none
  joins : List String := []
  conjuncts : List String := []
  groupBy : List String := []
  orderBy : List String := []
  limit : Option Nat := none
  offset : Option Nat := none

namespace Select

/-- An expression under a name of its own. -/
def named (expr name : String) : String := expr ++ " AS " ++ name

def crossJoin (source : String) : String := "CROSS JOIN " ++ source

def leftJoin (source left right : String) : String := s!"LEFT JOIN {source} ON {left} = {right}"

/-- A clause made of items, or nothing where there are none. -/
def clause (word separator : String) (items : List String) : String :=
  if items.isEmpty then "" else word ++ separator.intercalate items

def withText (ctes : List (String × String)) : String :=
  if ctes.isEmpty then ""
  else "WITH " ++ ", ".intercalate (ctes.map fun (name, body) => name ++ " AS (" ++ body ++ ")") ++ " "

def text (s : Select) : String :=
  withText s.ctes ++
  "SELECT " ++ (if s.columns.isEmpty then "*" else ", ".intercalate s.columns) ++
  (match s.source with | some source => " FROM " ++ source | none => "") ++
  String.join (s.joins.map fun join => " " ++ join) ++
  clause " WHERE " " AND " s.conjuncts ++
  clause " GROUP BY " ", " s.groupBy ++
  clause " ORDER BY " ", " s.orderBy ++
  (match s.limit with | some n => " LIMIT " ++ toString n | none => "") ++
  (match s.offset with | some n => " OFFSET " ++ toString n | none => "")

end Select

/-! ### Sources

Each requested table is read twice, once for each period, and aggregated there. A table that cannot answer the
request, because it lacks the dimension or a filtered column, is skipped.
-/

/-- The column with the group key inside a source. -/
def groupId : String := "group_id"

/-- The aggregates of one table over one period. -/
structure Source where
  name : String
  table : String
  /-- The expression of the group key, in a grouped statement. -/
  key : Option String
  /-- Expressions and the columns they make. -/
  aggregates : List (String × String)
  clauses : List (Clause Param)

namespace Source

def toSelect (s : Source) : Select where
  columns := (s.key.toList.map fun key => Select.named key groupId) ++
    s.aggregates.map fun (expr, column) => Select.named expr column
  source := some s.table
  conjuncts := s.clauses.map Clause.text
  groupBy := s.key.toList.map fun _ => groupId

/-- The columns that other parts of the statement may refer to. -/
def columns (s : Source) : List String := (s.key.toList.map fun _ => groupId) ++ s.aggregates.map Prod.snd

/-- The column of a metric in a source of the period. -/
def metricColumn (period : Period) (m : BaseMetric) : String :=
  match period with
  | .current => m.name
  | .previous => m.previousColumn

def nameOf (table : String) : Period → String
  | .current => currentSource table
  | .previous => previousSource table

/-- The group key of a table, where the request has a dimension. -/
def keyOf (table : Table) (dimension : Option Dimension) (period : Period) : Binding (Option String) :=
  match dimension with
  | none => pure none
  | some d =>
    match d.keyExpr? table period with
    | some key => pure (some key)
    | none => Binding.fail (.unknownColumn table.name d.name)

/-- The source for the metrics of a table in one period. -/
def ofTable (table : Table) (metrics : List BaseMetric) (conditions : List Condition)
    (dimension : Option Dimension) (period : Period) : Binding Source := do
  let key ← keyOf table dimension period
  let clauses ← conditions.mapM (Condition.clause table)
  return { name := nameOf table.name period, table := table.name, key
           aggregates := metrics.map fun m => (m.expr, metricColumn period m), clauses }

end Source

/-- A table that takes part in a statement. -/
structure Joined where
  table : String
  current : Source
  previous : Source

/-- The conditions of the two periods. -/
structure Windows where
  current : List Condition
  previous : List Condition

def Windows.ofFilters (filters : List Condition) (today : Date) : Except Failure Windows := do
  return ⟨filters, ← Condition.previousPeriod filters today⟩

/-- The tables that take part, and those that are skipped. -/
structure Sources where
  joined : List Joined
  skipped : List String

namespace Sources

/-- Whether the table can be grouped by the dimension, if there is one, and takes all the conditions. -/
def answers (table : Table) (dimension : Option Dimension) (conditions : List Condition) : Bool :=
  dimension.all (fun d => d.appliesTo table) && Condition.supported conditions table

/-- The part that one table takes: none if it is skipped. -/
def joinTable (r : Registry) (windows : Windows) (dimension : Option Dimension) (name : String)
    (metrics : List BaseMetric) : Binding (Option Joined) :=
  match r.table? name with
  | none => Binding.fail (.unknownTable name)
  | some table =>
    if answers table dimension windows.current then do
      let current ← Source.ofTable table metrics windows.current dimension .current
      let previous ← Source.ofTable table metrics windows.previous dimension .previous
      return some ⟨name, current, previous⟩
    else pure none

/-- The sources of all requested tables, in the order of their first metric. -/
def ofMetrics (r : Registry) (windows : Windows) (dimension : Option Dimension) :
    TableMetrics → Binding Sources
  | [] => pure ⟨[], []⟩
  | (name, metrics) :: rest => do
    let joined ← joinTable r windows dimension name metrics
    let sources ← ofMetrics r windows dimension rest
    return match joined with
      | some j => { sources with joined := j :: sources.joined }
      | none => { sources with skipped := name :: sources.skipped }

/-- Both sources of every table that takes part. -/
def all (s : Sources) : List Source := s.joined.flatMap fun j => [j.current, j.previous]

/-- The sources as common table expressions. -/
def ctes (s : Sources) : List (String × String) := s.all.map fun source => (source.name, source.toSelect.text)

end Sources

/-! ### Output columns

For every requested metric a statement puts out its value, last year's value and the percent change, then the
calculated metrics. A metric of a skipped table is zero, and has the column of its previous period too, since
formulas may refer to it.
-/

/-- What an output column computes. -/
inductive OutputExpr where
  | zero
  | value (r : Reference)
  /-- A value that is absent where the group is missing from the source. -/
  | valueOrZero (r : Reference)
  /-- The change from last year's value in percent, which is zero where that value is. -/
  | change (current lastYear : Reference)
  /-- The name of a group, or its key where the name is missing or empty. -/
  | nameOrKey (name key : Reference)
  /-- The number of groups on all pages. -/
  | groupCount
  /-- A configured formula over other columns. -/
  | formula (text : String)

def OutputExpr.text : OutputExpr → String
  | zero => "0"
  | value r => r.text
  | valueOrZero r => s!"coalesce({r.text}, 0)"
  | change current lastYear =>
    s!"if({lastYear.text} != 0, (({current.text} - {lastYear.text}) / {lastYear.text}) * 100, 0)"
  | nameOrKey name key => s!"coalesce(nullIf({name.text}, ''), {key.text})"
  | groupCount => "count() OVER ()"
  | formula text => text

structure Output where
  name : String
  expr : OutputExpr

namespace Output

def text (o : Output) : String := o.expr.text ++ " AS " ++ o.name

def ofResolved (m : ResolvedMetric) : Output := ⟨m.name, .formula m.expr⟩

/-- The columns of a metric whose table is skipped. -/
def zeros (m : BaseMetric) : List Output :=
  [⟨m.name, .zero⟩, ⟨m.previousColumn, .zero⟩, ⟨m.lastYearField, .zero⟩, ⟨m.changeField, .zero⟩]

/-- The columns of a metric, read from the sources of its table by `read`. -/
def compared (read : Reference → OutputExpr) (m : BaseMetric) : List Output :=
  [⟨m.name, read (.column (currentSource m.table) m.name)⟩,
    ⟨m.lastYearField, read (.column (previousSource m.table) m.previousColumn)⟩,
    ⟨m.changeField, .change (.output m.name) (.output m.lastYearField)⟩]

/-- The columns of all requested metrics. -/
def ofMetrics (read : Reference → OutputExpr) (skipped : List String) (groups : TableMetrics) : List Output :=
  groups.metrics.flatMap fun m => if skipped.contains m.table then zeros m else compared read m

end Output

end BalanceSheet
