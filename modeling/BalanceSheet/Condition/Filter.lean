import BalanceSheet.Calendar.Date
import BalanceSheet.Request

/-!
The conditions of a request: made from its bounds and filters, and moved a year back.
-/

namespace BalanceSheet

/-! ### Bounds and filters

Two optional dates bound the period from below and from above. Every other entry is a filter: the key is a field,
or a field with an operator in square brackets, and the value is text in which commas separate the members of a
list. Lists turn equality into membership; the operators that compare or search take the value as a whole.
-/

/-- The dates that bound a request, as they were given. -/
structure DateBounds where
  first : Option String
  last : Option String
  deriving DecidableEq

namespace Date

/-- Reads a date with blanks around it. -/
def read (s : String) : Except Failure Date :=
  match parse? (Text.trim s) with
  | some d => .ok d
  | none => .error (.date (.unreadable s))

end Date

/-- One condition for each bound that is given. -/
def DateBounds.conditions (bounds : DateBounds) : Except Failure (List Condition) := do
  let first ← bounds.first.mapM Date.read
  let last ← bounds.last.mapM Date.read
  match first, last with
  | some a, some b =>
    if a ≤ b then .ok [.gte Condition.dateField a.text, .lte Condition.dateField b.text]
    else .error (.date (.reversed a b))
  | some a, none => .ok [.gte Condition.dateField a.text]
  | none, some b => .ok [.lte Condition.dateField b.text]
  | none, none => .ok []

namespace Filter

/-- The field of a key, and the operator if one is given. -/
def splitKey (key : String) : Except Failure (String × Option Operator) := do
  let trimmed := Text.trim key
  let (field, operator) ← match Text.cut '[' trimmed.toList with
    | none => pure (trimmed, none)
    | some (field, afterBracket) =>
      match Text.dropEnding? [']'] afterBracket with
      | none => .error (.filter (.malformedKey trimmed))
      | some word =>
        let spelling := String.ofList word
        match Operator.parse? spelling with
        | none => .error (.operator spelling)
        | some operator => pure (String.ofList field, some operator)
  if field.isEmpty then .error (.filter (.noField trimmed)) else .ok (field, operator)

/-- The members of a list, without blanks around them and without empty ones. -/
def members (value : String) : List String :=
  ((value.toList.splitOn ',').map fun cs => Text.trim (String.ofList cs)).filter fun v => !v.isEmpty

/-- The condition that a field, an operator and a value make. -/
def operand (field : String) (operator : Option Operator) (value : String) : Except Failure Condition :=
  let values := members value
  let noValue : Except Failure Condition := .error (.filter (.noValue field))
  match operator.getD .eq with
  | .eq =>
    match values with
    | [] => noValue
    | [v] => .ok (.eq field v)
    | _ => .ok (.isIn field values)
  | .ne =>
    match values with
    | [] => noValue
    | [v] => .ok (.ne field v)
    | _ => .ok (.notIn field values)
  | .isIn => if values.isEmpty then noValue else .ok (.isIn field values)
  | .notIn => if values.isEmpty then noValue else .ok (.notIn field values)
  | .isSet => .ok (.isSet field)
  | .isNotSet => .ok (.isNotSet field)
  | op => if Text.isBlankText value then noValue else .ok ⟨field, op, .single (Text.trim value)⟩

/-- The condition of one entry, whose field must be among `allowed`. -/
def condition (allowed : List String) (key value : String) : Except Failure Condition := do
  let (field, operator) ← splitKey key
  if allowed.contains field then operand field operator value else .error (.filter (.notFilterable field))

/-- One condition for each entry, in the order of the entries. -/
def conditions (allowed : List String) (entries : List (String × String)) : Except Failure (List Condition) :=
  entries.mapM fun (key, value) => condition allowed key value

end Filter

/-! ### The previous period

Conditions on the date move back a year and all others stay. A window that has no bound from above runs up to
today, so a year earlier it is capped at today's date of that year.
-/

namespace Condition

/-- A date, as text, one year earlier. -/
def yearEarlier (value : String) : Except Failure String := do
  return ((← Date.read value).shiftYears (-1)).text

def operandYearEarlier : Operand → Except Failure Operand
  | .none => .ok .none
  | .single v => return .single (← yearEarlier v)
  | .multiple vs => return .multiple (← vs.mapM yearEarlier)

/-- The condition for the previous period. -/
def shifted (c : Condition) : Except Failure Condition :=
  if c.isDate then return { c with operand := ← operandYearEarlier c.operand } else .ok c

/-- Whether the conditions bound the date from above. -/
def boundedAbove (conditions : List Condition) : Bool :=
  conditions.any fun c => c.isDate && c.operator.isUpperBound

/-- The bound of a window that would run up to `today`. -/
def cap (today : Date) : Condition := .lte dateField (today.shiftYears (-1)).text

/-- The conditions of the previous period. -/
def previousPeriod (conditions : List Condition) (today : Date) : Except Failure (List Condition) := do
  let moved ← conditions.mapM shifted
  return if boundedAbove conditions then moved else moved ++ [cap today]

end Condition

end BalanceSheet
