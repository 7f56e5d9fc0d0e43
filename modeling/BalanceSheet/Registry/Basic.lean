import BalanceSheet.Registry.Parts
import BalanceSheet.Request

/-!
The registry: what can be asked for, and which registries are accepted.
-/

namespace BalanceSheet

/-! ### Declarations

The registry lists the tables, the base and calculated metrics and the dimensions, each in the order of
declaration, which is also the order of the fields in a response.
-/

structure Registry where
  tables : List Table
  base : List BaseMetric
  calculated : List CalculatedMetric
  dimensions : List Dimension
  deriving DecidableEq

namespace Registry

def table? (r : Registry) (name : String) : Option Table := r.tables.find? fun t => t.name == name

def baseMetric? (r : Registry) (name : String) : Option BaseMetric := r.base.find? fun m => m.name == name

def dimensionNames (r : Registry) : List String := r.dimensions.map Dimension.name

/-- The dimension that a request may group by under this name. -/
def dimension (r : Registry) (name : String) : Except Failure Dimension :=
  match r.dimensions.find? fun d => d.name == name with
  | some d => .ok d
  | none => .error (.groupBy (.notAllowed name r.dimensionNames))

/-- The fields of every response, in order. -/
def responseFields (r : Registry) : List String :=
  r.base.flatMap BaseMetric.fields ++ r.calculated.map CalculatedMetric.name

/-- The columns that filters may restrict: those that hold no date in some table. -/
def filterableColumns (r : Registry) : List String :=
  (r.tables.flatMap fun t =>
    (t.columns.filter fun c => c.name ≠ t.dateColumn && c.type ≠ .date).map Column.name).eraseDups

/-- The base metric of a name. -/
def metric (r : Registry) (name : String) : Except Failure BaseMetric :=
  match r.baseMetric? name with
  | some m => .ok m
  | none => .error (.unknownMetric name)

/-- The metrics asked for, each once; without aliases, all base metrics. -/
def selectMetrics (r : Registry) (aliases : List String) : Except Failure (List BaseMetric) :=
  if aliases.isEmpty then .ok r.base else aliases.eraseDups.mapM r.metric

def metricsByTable (r : Registry) (aliases : List String) : Except Failure TableMetrics :=
  (r.selectMetrics aliases).map TableMetrics.ofMetrics

end Registry

/-! ### Acceptance

Names that enter a statement are identifiers; tables, calculated metrics and dimensions have names of their own;
metrics and dimensions refer to columns that exist; and the fields of base metrics, the calculated metrics and the
fixed columns of a grouped row never share a name. The first fault in the order of declaration is reported, tables
first, then base metrics, calculated metrics and dimensions.
-/

namespace Registry

/-- Columns that a grouped row has besides its metrics. -/
def reservedFields : List String := ["id", "name", "_total_count", "group_id", "group_name"]

def checkIdentifier (name : String) : Except RegistryFault Unit :=
  if isIdentifier name then .ok () else .error (.invalidIdentifier name)

/-- Checks the tables after those named in `seen`. -/
def checkTables (seen : List String) : List Table → Except RegistryFault Unit
  | [] => .ok ()
  | t :: rest => do
    checkIdentifier t.name
    if seen.contains t.name then .error (.duplicateTable t.name)
    else
      t.columns.forM fun c => checkIdentifier c.name
      if t.hasColumn t.dateColumn then checkTables (t.name :: seen) rest
      else .error (.unknownField "<date>" t.name t.dateColumn)

/-- The names that a base metric takes in a statement or a response. -/
def fieldsTaken (m : BaseMetric) : List String :=
  [m.name, m.previousColumn, m.lastYearField, m.changeField]

/-- Adds fields of one metric to those taken. -/
def takeFields (metric : String) (taken : List String) : List String → Except RegistryFault (List String)
  | [] => .ok taken
  | field :: rest =>
    if reservedFields.contains field || taken.contains field then .error (.duplicateAlias metric)
    else takeFields metric (field :: taken) rest

/-- Checks base metrics and gives the fields that they take, besides those in `taken`. -/
def checkBase (r : Registry) (taken : List String) : List BaseMetric → Except RegistryFault (List String)
  | [] => .ok taken
  | m :: rest => do
    checkIdentifier m.name
    match r.table? m.table with
    | none => .error (.unknownTable m.name m.table)
    | some t =>
      if t.hasColumn m.field then
        let taken ← takeFields m.name taken (fieldsTaken m)
        checkBase r taken rest
      else .error (.unknownField m.name m.table m.field)

/-- Checks calculated metrics against the fields of base metrics and the names in `seen`. -/
def checkCalculated (fields : List String) (seen : List String) :
    List CalculatedMetric → Except RegistryFault Unit
  | [] => .ok ()
  | m :: rest => do
    checkIdentifier m.name
    if fields.contains m.name || reservedFields.contains m.name then .error (.nameCollision m.name)
    else if seen.contains m.name then .error (.duplicateCalculated m.name)
    else checkCalculated fields (m.name :: seen) rest

/-- Checks where the names of a dimension's keys come from. -/
def checkNameColumn (r : Registry) (d : Dimension) : Except RegistryFault Unit :=
  match d.nameColumn with
  | none => .ok ()
  | some source =>
    match r.table? source.table with
    | none => .error (.invalidDimension d.name .unknownNameTable)
    | some t =>
      if t.hasColumn source.column && t.hasColumn d.name then .ok ()
      else .error (.invalidDimension d.name .noNameColumn)

def checkDimensions (r : Registry) (seen : List String) : List Dimension → Except RegistryFault Unit
  | [] => .ok ()
  | d :: rest => do
    checkIdentifier d.name
    if seen.contains d.name then .error (.invalidDimension d.name .declaredTwice)
    else if d.bucket.isNone && !r.tables.any d.appliesTo then .error (.invalidDimension d.name .noColumn)
    else
      checkNameColumn r d
      checkDimensions r (d.name :: seen) rest

def validate (r : Registry) : Except RegistryFault Unit := do
  checkTables [] r.tables
  let fields ← checkBase r [] r.base
  checkCalculated fields [] r.calculated
  checkDimensions r [] r.dimensions

/-- The registry with these parts, if it is accepted. -/
def build (tables : List Table) (base : List BaseMetric) (calculated : List CalculatedMetric)
    (dimensions : List Dimension) : Except RegistryFault Registry := do
  let r : Registry := ⟨tables, base, calculated, dimensions⟩
  r.validate
  return r

end Registry

end BalanceSheet
