import BalanceSheet.Json.Basic
import BalanceSheet.Registry.Basic
import BalanceSheet.Toml.Parser

/-!
Registries written as documents: as JSON values, and as TOML tables of the same shape.
-/

namespace BalanceSheet

/-! ### The JSON form

The JSON form of tables, metrics, dimensions and registries, which the tables of a configuration file
have as well.
-/

namespace ValueType

def toJson (type : ValueType) : Json := .string type.name

def ofJson? : Json → Option ValueType := Json.asConstant? all name

end ValueType

namespace Column

def toJson (c : Column) : Json := .object [("name", .string c.name), ("type", c.type.toJson)]

def ofJson? (json : Json) : Option Column := do
  let fields ← json.asFields? ["name", "type"]
  return { name := ← Json.required? fields "name" Json.asString?
           type := ← Json.required? fields "type" ValueType.ofJson? }

end Column

namespace Table

def toJson (t : Table) : Json :=
  .object [("name", .string t.name), ("date_column", .string t.dateColumn),
    ("columns", .array (t.columns.map Column.toJson))]

def ofJson? (json : Json) : Option Table := do
  let fields ← json.asFields? ["name", "date_column", "columns"]
  return { name := ← Json.required? fields "name" Json.asString?
           dateColumn := ← Json.defaulted? fields "date_column" Json.asString? "date"
           columns := ← Json.required? fields "columns" (Json.asList? Column.ofJson?) }

end Table

namespace Aggregation

def toJson (a : Aggregation) : Json := .string a.name

def ofJson? : Json → Option Aggregation := Json.asConstant? all name

end Aggregation

namespace BaseMetric

def toJson (m : BaseMetric) : Json :=
  .object [("table", .string m.table), ("field", .string m.field), ("aggregation", m.aggregation.toJson),
    ("alias", .string m.name)]

def ofJson? (json : Json) : Option BaseMetric := do
  let fields ← json.asFields? ["table", "field", "aggregation", "alias"]
  return { table := ← Json.required? fields "table" Json.asString?
           field := ← Json.required? fields "field" Json.asString?
           aggregation := ← Json.required? fields "aggregation" Aggregation.ofJson?
           name := ← Json.required? fields "alias" Json.asString? }

end BaseMetric

namespace CalculatedMetric

def toJson (m : CalculatedMetric) : Json :=
  .object [("name", .string m.name), ("dependencies", .strings m.dependencies),
    ("formula", .string m.formula)]

def ofJson? (json : Json) : Option CalculatedMetric := do
  let fields ← json.asFields? ["name", "dependencies", "formula"]
  return { name := ← Json.required? fields "name" Json.asString?
           dependencies := ← Json.required? fields "dependencies" (Json.asList? Json.asString?)
           formula := ← Json.required? fields "formula" Json.asString? }

end CalculatedMetric

namespace Granularity

def toJson (g : Granularity) : Json := .string g.name

def ofJson? : Json → Option Granularity := Json.asConstant? all name

end Granularity

namespace NameColumn

def toJson (n : NameColumn) : Json := .object [("table", .string n.table), ("column", .string n.column)]

def ofJson? (json : Json) : Option NameColumn := do
  let fields ← json.asFields? ["table", "column"]
  return { table := ← Json.required? fields "table" Json.asString?
           column := ← Json.required? fields "column" Json.asString? }

end NameColumn

namespace Dimension

def toJson (d : Dimension) : Json :=
  .object [("name", .string d.name), ("bucket", .ofOption Granularity.toJson d.bucket),
    ("name_field", .ofOption NameColumn.toJson d.nameColumn)]

def ofJson? (json : Json) : Option Dimension := do
  let fields ← json.asFields? ["name", "bucket", "name_field"]
  return { name := ← Json.required? fields "name" Json.asString?
           bucket := ← Json.optional? fields "bucket" Granularity.ofJson?
           nameColumn := ← Json.optional? fields "name_field" NameColumn.ofJson? }

end Dimension

namespace Registry

/-- The parts of a registry, not yet validated. -/
def partsOfJson? (json : Json) : Option Registry := do
  let fields ← json.asFields? ["tables", "base", "calculated", "dimensions"]
  return { tables := ← Json.required? fields "tables" (Json.asList? Table.ofJson?)
           base := ← Json.required? fields "base" (Json.asList? BaseMetric.ofJson?)
           calculated := ← Json.defaulted? fields "calculated" (Json.asList? CalculatedMetric.ofJson?) []
           dimensions := ← Json.defaulted? fields "dimensions" (Json.asList? Dimension.ofJson?) [] }

/-- The registry that a JSON form describes, if it is accepted. -/
def ofJson (json : Json) : Except RegistryFault Registry :=
  match partsOfJson? json with
  | some parts => build parts.tables parts.base parts.calculated parts.dimensions
  | none => .error .malformed

end Registry

/-! ### TOML documents -/

namespace Registry

/-- The registry that a document describes, if it is accepted. -/
def ofToml (text : String) : Except RegistryFault Registry :=
  match Toml.parse? text with
  | some document => ofJson document.toJson
  | none => .error .malformed

/-- The registry in the file at `path`, given what reading that file came to. -/
def ofFile (path : String) (contents : Except FileFault String) : Except RegistryFault Registry :=
  match contents with
  | .error fault => .error (.unreadable path fault)
  | .ok text => ofToml text

end Registry

end BalanceSheet
