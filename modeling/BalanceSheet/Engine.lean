import BalanceSheet.Exchange
import BalanceSheet.Query.Statement
import BalanceSheet.Response

/-!
Requests answered by way of the store. A request that fails, or whose answer is known without the store,
asks nothing; any other asks for the rows of one statement.
-/

namespace BalanceSheet

/-- A request on its way to an answer. -/
abbrev Inquiry (α : Type) := Exchange StoreQuestion StoreReply (Except Failure α)

namespace Inquiry

/-- Asks the store and reads the rows that come back. -/
def ofQuestion {α : Type} (question : StoreQuestion) (read : Rows → α) : Inquiry α :=
  .asks question fun
    | .ok rows => .ok (read rows)
    | .error fault => .error (.store fault)

end Inquiry

namespace Engine

/-- The metrics of one period beside last year's. -/
def yoy (r : Registry) (today : Date) (request : YoyRequest) : Inquiry MetricValues :=
  match Yoy.statement r request today with
  | .error failure => .settled (.error failure)
  | .ok statement => Inquiry.ofQuestion (.rows statement) fun rows => .ofRecord r (rows.first?.getD [])

/-- A page of groups. The number of groups is read off the first row, so a page without rows has none. -/
def groupedResult (r : Registry) (request : GroupedRequest) (limit : Nat) (rows : Rows) : GroupedResult :=
  let groups := rows.records.map (GroupedRow.ofRecord r)
  let total := (groups.head?.map GroupedRow.totalCount).getD 0
  ⟨groups, .ofPage request.groupBy total groups.length limit request.page.offset⟩

/-- The metrics by group, one page of them. -/
def grouped (r : Registry) (today : Date) (request : GroupedRequest) : Inquiry GroupedResult :=
  match request.page.effectiveLimit with
  | .error failure => .settled (.error failure)
  | .ok limit =>
    match Grouped.statement r request today with
    | .error failure => .settled (.error failure)
    | .ok none => .settled (.ok ⟨[], .ofPage request.groupBy 0 0 limit request.page.offset⟩)
    | .ok (some statement) => Inquiry.ofQuestion (.rows statement) (groupedResult r request limit)

/-- The value of a row as text; a missing one is none. -/
def valueText? (record : Record) : Option String :=
  match Sorted.get? record "value" with
  | none | some .null => none
  | some (.string s) => some s
  | some other => some other.compact

/-- The distinct values of a column. -/
def distinct (r : Registry) (request : DistinctRequest) : Inquiry (List String) :=
  match Distinct.statement r request with
  | .error failure => .settled (.error failure)
  | .ok statement => Inquiry.ofQuestion (.rows statement) fun rows => rows.records.filterMap valueText?

/-- Whether the store answers. -/
def health : Inquiry Unit := Inquiry.ofQuestion .health fun _ => ()

end Engine
end BalanceSheet
