import BalanceSheet.Condition.Clause
import BalanceSheet.Json.Basic
import BalanceSheet.Param
import BalanceSheet.Query.Source
import BalanceSheet.Registry.Basic
import BalanceSheet.Request

/-!
The statements that answer requests, for one row of metrics, for metrics by group and for the values of a
column.
-/

namespace BalanceSheet

/-! ### Statements -/

/-- A statement as it goes to the store, with what is known of the columns it returns. -/
structure Statement where
  sql : String
  params : Params
  /-- Tables whose metrics are zero, in the order of names. -/
  skipped : List String
  /-- Calculated metrics among the output columns. -/
  calculated : List String

/-- The names in order, each once. -/
def Sorted.names (names : List String) : List String :=
  (Sorted.ofList (names.map fun name => (name, ()))).map Prod.fst

/-! ### One row of metrics

The sources of all tables, each of a single row, are joined, so that one statement answers however many metrics
and tables are asked for.
-/

namespace Yoy

/-- A statement before it is written out. -/
structure Plan where
  sources : Sources
  outputs : List Output
  resolved : List ResolvedMetric

namespace Plan

/-- The first source and the joins of the others. -/
def joins (s : Sources) : Option String × List String :=
  match s.all.map Source.name with
  | [] => (none, [])
  | first :: rest => (some first, rest.map Select.crossJoin)

def toSelect (p : Plan) : Select where
  ctes := p.sources.ctes
  columns := p.outputs.map Output.text
  source := (joins p.sources).1
  joins := (joins p.sources).2

def ofRequest (r : Registry) (request : YoyRequest) (today : Date) : Binding Plan := do
  let groups ← Binding.ofExcept (r.metricsByTable request.metrics)
  let windows ← Binding.ofExcept (Windows.ofFilters request.filters today)
  let sources ← Sources.ofMetrics r windows none groups
  let resolved := CalculatedMetric.resolveAll (Aliases.ofMetrics sources.skipped groups) r.calculated
  return { sources, resolved
           outputs := Output.ofMetrics .value sources.skipped groups ++ resolved.map Output.ofResolved }

end Plan

/-- The statement that answers a request. -/
def statement (r : Registry) (request : YoyRequest) (today : Date) : Except Failure Statement :=
  match (Plan.ofRequest r request today).run .empty with
  | (.error f, _) => .error f
  | (.ok plan, params) => .ok
    { sql := plan.toSelect.text, params, skipped := Sorted.names plan.sources.skipped
      calculated := plan.resolved.map ResolvedMetric.name }

end Yoy

/-! ### Metrics by group

A statement is for one page at a time. The keys found in any source form the rows, the
sources are joined to them, and the names of the keys too where the dimension has names. No statement is
needed where no requested table has the dimension: there are no groups then.
-/

namespace Grouped

/-- The expression with the keys of all groups. -/
def groupKeys : String := "group_keys"

/-- The expression with the names of keys. -/
def groupNames : String := "group_names"

def groupName : String := "group_name"

def keyReference : Reference := .column groupKeys groupId

/-- Where the names of keys come from. -/
structure NameSource where
  table : String
  key : String
  column : String
  clauses : List (Clause Param)

def NameSource.toSelect (s : NameSource) : Select where
  columns := [Select.named s.key groupId, Select.named ("any(" ++ s.column ++ ")") groupName]
  source := some s.table
  conjuncts := s.clauses.map Clause.text
  groupBy := [groupId]

/-- A statement before it is written out. -/
structure Plan where
  sources : Sources
  names : Option NameSource
  outputs : List Output
  resolved : List ResolvedMetric
  orderBy : String
  direction : Direction
  limit : Nat
  offset : Nat

namespace Plan

/-- The keys of every source, each once. -/
def keysText (s : Sources) : String :=
  let keys := s.all.map fun source => s!"SELECT {groupId} FROM {source.name}"
  s!"SELECT DISTINCT {groupId} FROM (" ++ " UNION ALL ".intercalate keys ++ ")"

/-- Joins a source to the keys. -/
def joinToKeys (source : String) : String :=
  Select.leftJoin source (Reference.column source groupId).text keyReference.text

def toSelect (p : Plan) : Select where
  ctes := p.sources.ctes ++ (groupKeys, keysText p.sources) ::
    p.names.toList.map fun names => (groupNames, names.toSelect.text)
  columns := p.outputs.map Output.text
  source := some groupKeys
  joins := (p.sources.all.map fun source => joinToKeys source.name) ++
    p.names.toList.map fun _ => joinToKeys groupNames
  orderBy := [p.orderBy ++ " " ++ p.direction.keyword, "id ASC"]
  limit := some p.limit
  offset := some p.offset

/-- The names for the keys of a dimension. They do not depend on the period, so conditions on the date
are left out; there are none where the table of names lacks a column of the other conditions. -/
def nameSource (r : Registry) (d : Dimension) (conditions : List Condition) : Binding (Option NameSource) :=
  let undated := conditions.filter fun c => !c.isDate
  match d.nameColumn with
  | none => pure none
  | some nameColumn =>
    match r.table? nameColumn.table with
    | none => pure none
    | some table =>
      match d.keyExpr? table .current with
      | none => pure none
      | some key =>
        if Condition.supported undated table then do
          let clauses ← undated.mapM (Condition.clause table)
          return some { table := table.name, key, column := nameColumn.column, clauses }
        else pure none

/-- The fields that rows can be ordered by. -/
def orderFields (groups : TableMetrics) (resolved : List ResolvedMetric) : List String :=
  ["id", "name"] ++ resolved.map ResolvedMetric.name ++ groups.metrics.flatMap BaseMetric.fields

/-- The field asked for, or the first requested metric where it is not among the output. -/
def orderField (groups : TableMetrics) (resolved : List ResolvedMetric) (requested : Option String) : String :=
  match requested.filter fun field => (orderFields groups resolved).contains field with
  | some field => field
  | none => (groups.metrics.head?.map BaseMetric.name).getD "id"

/-- The key, the name, the metrics and the number of groups. -/
def columnsOf (named : Bool) (skipped : List String) (groups : TableMetrics) (resolved : List ResolvedMetric) :
    List Output :=
  let name : OutputExpr :=
    if named then .nameOrKey (.column groupNames groupName) keyReference else .value keyReference
  [⟨"id", .value keyReference⟩, ⟨"name", name⟩] ++ Output.ofMetrics .valueOrZero skipped groups ++
    resolved.map Output.ofResolved ++ [⟨"_total_count", .groupCount⟩]

def ofRequest (r : Registry) (request : GroupedRequest) (today : Date) : Binding (Option Plan) := do
  let dimension ← Binding.ofExcept (r.dimension request.groupBy)
  let groups ← Binding.ofExcept (r.metricsByTable request.metrics)
  let limit ← Binding.ofExcept request.page.effectiveLimit
  let windows ← Binding.ofExcept (Windows.ofFilters request.filters today)
  let sources ← Sources.ofMetrics r windows (some dimension) groups
  if sources.joined.isEmpty then return none
  let resolved := CalculatedMetric.resolveAll (Aliases.ofMetrics sources.skipped groups) r.calculated
  let names ← nameSource r dimension windows.current
  return some
    { sources, names, resolved
      outputs := columnsOf names.isSome sources.skipped groups resolved
      orderBy := orderField groups resolved request.orderBy
      direction := request.direction, limit, offset := request.page.offset }

end Plan

/-- The statement that answers a request, or nothing where there are no groups. -/
def statement (r : Registry) (request : GroupedRequest) (today : Date) : Except Failure (Option Statement) :=
  match (Plan.ofRequest r request today).run .empty with
  | (.error f, _) => .error f
  | (.ok none, _) => .ok none
  | (.ok (some plan), params) => .ok <| some
    { sql := plan.toSelect.text, params, skipped := Sorted.names plan.sources.skipped
      calculated := plan.resolved.map ResolvedMetric.name }

end Grouped

/-! ### Distinct values

The values of a column come in ascending order and without the missing ones.
-/

namespace Distinct

def toSelect (table : Table) (column : Column) (clauses : List (Clause Param)) (page : Page) : Select where
  columns := [s!"DISTINCT toString({column.name}) AS value"]
  source := some table.name
  conjuncts := (Clause.isNotNull column.name :: clauses).map Clause.text
  orderBy := ["value ASC"]
  limit := some page.limit
  offset := some page.offset

/-- The statement that answers a request. -/
def statement (r : Registry) (request : DistinctRequest) : Except Failure Statement :=
  match r.table? request.table with
  | none => .error (.unknownTable request.table)
  | some table =>
    match table.column? request.column with
    | none => .error (.unknownColumn table.name request.column)
    | some column => do
      let limit ← request.page.effectiveLimit
      let (clauses, params) := Binding.run (request.filters.mapM (Condition.clause table)) .empty
      return { sql := (toSelect table column (← clauses) ⟨limit, request.page.offset⟩).text, params
               skipped := [], calculated := [] }

end Distinct

end BalanceSheet
