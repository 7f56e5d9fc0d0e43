import BalanceSheet.Condition.Basic
import BalanceSheet.Json.Basic

/-!
The JSON form of conditions. The operand is null, a string or a list of strings, and is told by its shape.
-/

namespace BalanceSheet

namespace Operand

def toJson : Operand → Json
  | none => .null
  | single v => .string v
  | multiple vs => .strings vs

def ofJson? : Json → Option Operand
  | .null => some .none
  | .string v => some (.single v)
  | .array items => (items.mapM Json.asString?).map multiple
  | _ => Option.none

end Operand

namespace Operator

def toJson (op : Operator) : Json := .string op.name

def ofJson? : Json → Option Operator := Json.asConstant? all name

end Operator

namespace Condition

def toJson (c : Condition) : Json :=
  .object [("field", .string c.field), ("operator", c.operator.toJson), ("value", c.operand.toJson)]

def ofJson? (json : Json) : Option Condition := do
  let fields ← json.asFields? ["field", "operator", "value"]
  return { field := ← Json.required? fields "field" Json.asString?
           operator := ← Json.required? fields "operator" Operator.ofJson?
           operand := ← Json.required? fields "value" Operand.ofJson? }

end Condition
end BalanceSheet
