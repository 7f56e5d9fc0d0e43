import BalanceSheet.Calendar.Date
import BalanceSheet.Param
import BalanceSheet.Request

/-!
Conditions as clauses of a statement. A clause names a column of the table and holds the parameters that
its values were bound to, in order; its text carries their placeholders and none of the values. Binding
goes on in a state of parameters that a failure leaves as it found them at that point.
-/

namespace BalanceSheet

/-- Steps that bind parameters and may fail; what was bound before a failure stays bound. -/
abbrev Binding (α : Type) := ExceptT Failure (StateM Params) α

namespace Binding

def fail {α : Type} (f : Failure) : Binding α := throw f

/-- A step that binds nothing. -/
def ofExcept {α : Type} (e : Except Failure α) : Binding α := ExceptT.mk (pure e)

def run {α : Type} (b : Binding α) (params : Params) : Except Failure α × Params :=
  StateT.run (ExceptT.run b) params

/-- Binds a value without looking at it. -/
def bind (type : ValueType) (value : String) : Binding Param := do
  let (p, ps) := Params.bind (← get) type value
  set ps
  return p

end Binding

/-- A test of one column, over the values it compares the column with. -/
inductive Clause (α : Type) where
  | isNull (column : String)
  | isNotNull (column : String)
  | compares (column symbol : String) (value : α)
  | isAmong (column symbol : String) (values : List α)
  | contains (target : String) (value : α)
  | lacks (target : String) (value : α)
  | startsWith (target : String) (value : α)
  | endsWith (target : String) (value : α)

namespace Clause

/-- The values of a clause, in the order of its text. -/
def values {α : Type} : Clause α → List α
  | isNull _ | isNotNull _ => []
  | compares _ _ v | contains _ v | lacks _ v | startsWith _ v | endsWith _ v => [v]
  | isAmong _ _ vs => vs

def map {α β : Type} (f : α → β) : Clause α → Clause β
  | isNull column => isNull column
  | isNotNull column => isNotNull column
  | compares column symbol v => compares column symbol (f v)
  | isAmong column symbol vs => isAmong column symbol (vs.map f)
  | contains target v => contains target (f v)
  | lacks target v => lacks target (f v)
  | startsWith target v => startsWith target (f v)
  | endsWith target v => endsWith target (f v)

def text : Clause Param → String
  | isNull column => s!"{column} IS NULL"
  | isNotNull column => s!"{column} IS NOT NULL"
  | compares column symbol p => s!"{column} {symbol} {p.placeholder}"
  | isAmong column symbol ps =>
    column ++ " " ++ symbol ++ " (" ++ ", ".intercalate (ps.map Param.placeholder) ++ ")"
  | contains target p => s!"position({target}, {p.placeholder}) > 0"
  | lacks target p => s!"position({target}, {p.placeholder}) = 0"
  | startsWith target p => s!"startsWith({target}, {p.placeholder})"
  | endsWith target p => s!"endsWith({target}, {p.placeholder})"

end Clause

namespace ValueType

/-- Whether a column of the type can hold what the text writes. -/
def admits (type : ValueType) (value : String) : Bool :=
  match type with
  | string => true
  | date => (Date.parse? value).isSome
  | float64 => (Decimal.float? value).any Float.isFinite
  | int64 => (Decimal.signed? Decimal.maxInt64 value).isSome
  | uint64 => (Decimal.unsigned? Decimal.maxUInt64 value).isSome

/-- The failure of a value that a column of the type cannot hold. -/
def misfit (type : ValueType) (field value : String) : Failure :=
  match type with
  | date => .date (.unreadableFor value field)
  | _ => .filter (.unreadable value type field)

end ValueType

namespace Condition

/-- The column that a condition on `field` restricts. -/
def column? (table : Table) (field : String) : Option Column :=
  if field == dateField then some ⟨table.dateColumn, .date⟩ else table.column? field

/-- Binds a value that the column can hold. -/
def bindValue (field : String) (type : ValueType) (value : String) : Binding Param :=
  if type.admits value then Binding.bind type value else Binding.fail (type.misfit field value)

/-- What a search in text looks at: the column itself if it holds text, else the text of its value. -/
def searched (column : Column) : String :=
  if column.type = .string then column.name else s!"toString({column.name})"

/-- The clause that a condition on `column` makes. -/
def clauseOn (column : Column) (c : Condition) : Binding (Clause Param) :=
  let bound := bindValue c.field column.type
  let pattern := Binding.bind .string
  match c.operator, c.operand with
  | .isSet, _ => return .isNotNull column.name
  | .isNotSet, _ => return .isNull column.name
  | .isIn, .multiple [] | .notIn, .multiple [] => Binding.fail (.filter (.emptyList c.field))
  | .isIn, .multiple vs => return .isAmong column.name "IN" (← vs.mapM bound)
  | .notIn, .multiple vs => return .isAmong column.name "NOT IN" (← vs.mapM bound)
  | .isIn, .single v => return .isAmong column.name "IN" [← bound v]
  | .notIn, .single v => return .isAmong column.name "NOT IN" [← bound v]
  | .eq, .single v => return .compares column.name "=" (← bound v)
  | .ne, .single v => return .compares column.name "!=" (← bound v)
  | .gt, .single v => return .compares column.name ">" (← bound v)
  | .gte, .single v => return .compares column.name ">=" (← bound v)
  | .lt, .single v => return .compares column.name "<" (← bound v)
  | .lte, .single v => return .compares column.name "<=" (← bound v)
  | .contains, .single v => return .contains (searched column) (← pattern v)
  | .notContains, .single v => return .lacks (searched column) (← pattern v)
  | .startsWith, .single v => return .startsWith (searched column) (← pattern v)
  | .endsWith, .single v => return .endsWith (searched column) (← pattern v)
  | operator, operand => Binding.fail (.filter (.unfitOperand operator operand c.field))

/-- The clause that a condition makes for a table. -/
def clause (table : Table) (c : Condition) : Binding (Clause Param) :=
  match column? table c.field with
  | some column => clauseOn column c
  | none => Binding.fail (.unknownColumn table.name c.field)

/-- Whether every condition restricts a column that the table has. -/
def supported (conditions : List Condition) (table : Table) : Bool :=
  conditions.all fun c => c.isDate || table.hasColumn c.field

end Condition
end BalanceSheet
