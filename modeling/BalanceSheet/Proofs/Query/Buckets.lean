import BalanceSheet.Proofs.Calendar.Bucket
import BalanceSheet.Proofs.Condition.Days
import BalanceSheet.Proofs.Query.Plans

/-!
The keys of groups by calendar bucket. The store computes a key from the date of a row, and from the date a year later
where the row is of the previous window. For buckets of whole months each key of the previous window is then one that
some day of the current window has, although the two shifts do not undo each other around the 29th of February.
-/

namespace BalanceSheet

/-- The months of a bucket that is made of whole months. -/
def Granularity.months? : Granularity → Option Nat
  | .monthly => some 1
  | .quarterly => some 3
  | .yearly => some 12
  | .daily | .weekly => none

/-! ### Keys as a store computes them -/

/-- The functions of a store on dates. -/
structure StoreCalendar where
  addYears : Date → Nat → Date
  startOf : Granularity → Date → Date

/-- The store finds the day a year later, and the first day of a bucket of months, as they are in the calendar. -/
structure StoreCalendar.Lawful (store : StoreCalendar) : Prop where
  addYears_one : ∀ d : Date, d.Reaches 1 → store.addYears d 1 = d.shiftYears 1
  startOf : ∀ bucket k, bucket.months? = some k → ∀ d, store.startOf bucket d = d.bucketStart k

/-- Dates in a statement. -/
inductive DateExpr where
  | column (name : String)
  | addYears (date : DateExpr) (years : Nat)
  | startOf (bucket : Granularity) (date : DateExpr)

namespace DateExpr

def text : DateExpr → String
  | column name => name
  | addYears date years => s!"addYears({date.text}, {years})"
  | startOf bucket date => s!"{bucket.function}({date.text})"

/-- The date that the store computes for a row. -/
def value (store : StoreCalendar) (row : String → Date) : DateExpr → Date
  | column name => row name
  | addYears date years => store.addYears (date.value store row) years
  | startOf bucket date => store.startOf bucket (date.value store row)

/-- The expression of a key, which is the text of a date. -/
def key (e : DateExpr) : String := s!"toString({e.text})"

end DateExpr

section

variable {store : StoreCalendar} (hstore : store.Lawful) {bucket : Granularity} {k : Nat}
  (hk : bucket.months? = some k)

include hstore hk

end

/-! ### Windows -/

namespace Condition

variable {cs previous : List Condition} {today first last : Date}

end Condition

/-! ### Keys of the two windows -/

end BalanceSheet
