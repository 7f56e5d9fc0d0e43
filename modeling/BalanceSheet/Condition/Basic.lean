import BalanceSheet.Text.Basic
import BalanceSheet.Text.Quoted

/-!
A condition restricts one field: an operator and no value, one value or a list of values, all of them
text until a table gives the field a type. The field `date` stands for the date column of whichever
table the condition is put to.
-/

namespace BalanceSheet

inductive Operator where
  | eq | ne | gt | gte | lt | lte | contains | notContains | startsWith | endsWith | isIn | notIn | isSet
  | isNotSet
  deriving DecidableEq

namespace Operator

def all : List Operator :=
  [eq, ne, gt, gte, lt, lte, contains, notContains, startsWith, endsWith, isIn, notIn, isSet, isNotSet]

/-- The words and signs that a request may use, in lower case. -/
def spellings : Operator → List String
  | eq => ["eq", "=", "=="]
  | ne => ["ne", "neq", "!=", "<>"]
  | gt => ["gt", ">"]
  | gte => ["gte", ">="]
  | lt => ["lt", "<"]
  | lte => ["lte", "<="]
  | contains => ["contains", "like"]
  | notContains => ["not_contains", "not_like"]
  | startsWith => ["starts_with"]
  | endsWith => ["ends_with"]
  | isIn => ["in"]
  | notIn => ["not_in", "nin"]
  | isSet => ["is_set", "isset"]
  | isNotSet => ["is_not_set", "isnotset"]

/-- Reads an operator in any letter case. -/
def parse? (s : String) : Option Operator := all.find? fun op => op.spellings.contains (Text.lower s)

/-- The name in the JSON form of a condition. -/
def name : Operator → String
  | eq => "eq"
  | ne => "ne"
  | gt => "gt"
  | gte => "gte"
  | lt => "lt"
  | lte => "lte"
  | contains => "contains"
  | notContains => "not_contains"
  | startsWith => "starts_with"
  | endsWith => "ends_with"
  | isIn => "in"
  | notIn => "not_in"
  | isSet => "is_set"
  | isNotSet => "is_not_set"

/-- The name in messages. -/
def title : Operator → String
  | eq => "Eq"
  | ne => "Ne"
  | gt => "Gt"
  | gte => "Gte"
  | lt => "Lt"
  | lte => "Lte"
  | contains => "Contains"
  | notContains => "NotContains"
  | startsWith => "StartsWith"
  | endsWith => "EndsWith"
  | isIn => "In"
  | notIn => "NotIn"
  | isSet => "IsSet"
  | isNotSet => "IsNotSet"

/-- Whether the operator bounds a range from above. -/
def isUpperBound : Operator → Bool
  | lt | lte | eq | isIn => true
  | _ => false

end Operator

/-- What a condition compares its field with. -/
inductive Operand where
  | none
  | single (value : String)
  | multiple (values : List String)
  deriving DecidableEq

namespace Operand

def values : Operand → List String
  | none => []
  | single v => [v]
  | multiple vs => vs

/-- The form in messages. -/
def title : Operand → String
  | none => "None"
  | single v => "Single(" ++ Text.quoted v ++ ")"
  | multiple vs => "Multiple([" ++ ", ".intercalate (vs.map Text.quoted) ++ "])"

end Operand

structure Condition where
  field : String
  operator : Operator
  operand : Operand
  deriving DecidableEq

namespace Condition

/-- The field that stands for the date column of each table. -/
def dateField : String := "date"

def isDate (c : Condition) : Bool := c.field == dateField

def eq (field value : String) : Condition := ⟨field, .eq, .single value⟩

def ne (field value : String) : Condition := ⟨field, .ne, .single value⟩

def gte (field value : String) : Condition := ⟨field, .gte, .single value⟩

def lte (field value : String) : Condition := ⟨field, .lte, .single value⟩

def contains (field value : String) : Condition := ⟨field, .contains, .single value⟩

def isIn (field : String) (values : List String) : Condition := ⟨field, .isIn, .multiple values⟩

def notIn (field : String) (values : List String) : Condition := ⟨field, .notIn, .multiple values⟩

def isSet (field : String) : Condition := ⟨field, .isSet, .none⟩

def isNotSet (field : String) : Condition := ⟨field, .isNotSet, .none⟩

end Condition
end BalanceSheet
