import BalanceSheet.Proofs.Lists
import BalanceSheet.Proofs.Sorted
import BalanceSheet.Registry.Builtin
import BalanceSheet.Response
import BalanceSheet.Store.Rows

/-!
Records put into a table and taken out again. A record comes out with the columns of the first one, and has null in
those that it lacked. As a number, a count and a text null is as good as nothing; but last year's value is looked
for under its name inside a statement only where nothing at all stands under its own. So the rows of a response stay
the same exactly if a record that lacks the column of last year's value has zero under that other name.
-/

namespace BalanceSheet

namespace Rows

variable {columns : List String} {raw : Record} {name : String}

/-- The record with these columns, and null in those that it lacks. -/
def tabulated (columns : List String) (raw : Record) : Record :=
  Sorted.ofList (columns.map fun name => (name, (Sorted.get? raw name).getD .null))

theorem records_ofRecords (first : Record) (rest : List Record) :
    (ofRecords (first :: rest)).records = (first :: rest).map (tabulated (first.map Prod.fst)) := by
  have hnames : (ofRecords (first :: rest)).columnNames = first.map Prod.fst := by
    rw [ofRecords, columnNames, List.map_map]
    rfl
  have hrow (raw : Record) : (ofRecords (first :: rest)).record
      ((first.map Prod.fst).map fun name => (Sorted.get? raw name).getD .null) =
        tabulated (first.map Prod.fst) raw := by
    rw [record, hnames, tabulated, List.map_prod_left_eq_zip]
  have hrows : (ofRecords (first :: rest)).rows = (first :: rest).map fun raw =>
      (first.map Prod.fst).map fun name => (Sorted.get? raw name).getD .null := by
    simp only [ofRecords, List.map_map, Function.comp_def]
  rw [records, hrows, List.map_map]
  exact List.map_congr_left fun raw _ => hrow raw

/-- A column of the table has the value of the record, or null. -/
theorem get?_tabulated_of_mem (h : name ∈ columns) :
    Sorted.get? (tabulated columns raw) name = some ((Sorted.get? raw name).getD .null) := by
  rw [tabulated]
  apply Sorted.get?_ofList_eq_some
  · simpa [Function.comp_def] using h
  · intro entry hentry hkey
    obtain ⟨other, -, rfl⟩ := List.mem_map.mp hentry
    cases hkey
    rfl

theorem get?_tabulated_of_not_mem (h : name ∉ columns) : Sorted.get? (tabulated columns raw) name = none := by
  rw [tabulated, Sorted.get?_eq_none_iff, Sorted.mem_keys_ofList]
  simpa [Function.comp_def] using h

/-- A record comes out as it was, but for null where it had nothing. -/
theorem get?_tabulated (hraw : raw.map Prod.fst ⊆ columns) (name : String) :
    Sorted.get? (tabulated columns raw) name = Sorted.get? raw name ∨
      Sorted.get? raw name = none ∧ Sorted.get? (tabulated columns raw) name = some .null := by
  by_cases hname : name ∈ columns
  · rw [get?_tabulated_of_mem hname]
    cases Sorted.get? raw name with
    | none => exact .inr ⟨rfl, rfl⟩
    | some value => exact .inl rfl
  · rw [get?_tabulated_of_not_mem hname]
    exact .inl (Sorted.get?_eq_none_iff.mpr fun hmem => hname (hraw hmem)).symm

/-- What makes no difference between null and nothing makes none between the two records. -/
theorem read_tabulated {α : Type} (read : Option Json → α) (hread : read (some .null) = read none)
    (hraw : raw.map Prod.fst ⊆ columns) (name : String) :
    read (Sorted.get? (tabulated columns raw) name) = read (Sorted.get? raw name) := by
  rcases get?_tabulated hraw name with hsame | ⟨habsent, hnull⟩
  · rw [hsame]
  · rw [hnull, habsent, hread]

end Rows

namespace MetricValues

open Rows

variable {r : Registry} {columns : List String} {raw : Record}

/-- Null does not hide a value of last year that stands under its name inside a statement. -/
def Unhidden (columns : List String) (raw : Record) (m : BaseMetric) : Prop :=
  m.lastYearField ∈ columns → m.lastYearField ∉ raw.map Prod.fst → numberOf (Sorted.get? raw m.previousColumn) = 0.0

theorem ofMetric_tabulated_iff (hraw : raw.map Prod.fst ⊆ columns) {m : BaseMetric} :
    ofMetric (tabulated columns raw) m = ofMetric raw m ↔ Unhidden columns raw m := by
  have hnumber := read_tabulated numberOf rfl hraw
  simp only [ofMetric, hnumber, List.cons.injEq, Prod.mk.injEq, true_and, and_true]
  by_cases hown : m.lastYearField ∈ raw.map Prod.fst
  · obtain ⟨value, hvalue⟩ := Option.isSome_iff_exists.mp (Sorted.isSome_get?.mpr hown)
    rw [get?_tabulated_of_mem (hraw hown), hvalue]
    exact iff_of_true rfl fun _ habsent => absurd hown habsent
  · rw [Sorted.get?_eq_none_iff.mpr hown, Option.none_or]
    by_cases hcolumn : m.lastYearField ∈ columns
    · rw [get?_tabulated_of_mem hcolumn, Sorted.get?_eq_none_iff.mpr hown]
      have hzero : numberOf (some .null) = 0.0 := rfl
      exact ⟨fun h _ _ => h.symm.trans hzero, fun h => hzero.trans (h hcolumn hown).symm⟩
    · rw [get?_tabulated_of_not_mem hcolumn, Option.none_or, hnumber]
      exact iff_of_true rfl fun h => absurd h hcolumn

theorem ofRecord_tabulated_iff (hraw : raw.map Prod.fst ⊆ columns) :
    ofRecord r (tabulated columns raw) = ofRecord r raw ↔ ∀ m ∈ r.base, Unhidden columns raw m := by
  have hcalculated (c : CalculatedMetric) :
      (c.name, numberOf (Sorted.get? (tabulated columns raw) c.name)) = (c.name, numberOf (Sorted.get? raw c.name)) := by
    rw [read_tabulated numberOf rfl hraw]
  simp only [ofRecord, hcalculated, List.append_left_inj]
  constructor
  · intro h m hm
    have hlength : ∀ m m' : BaseMetric, m = m' →
        (ofMetric (tabulated columns raw) m).length = (ofMetric raw m').length := fun _ _ _ => rfl
    have hstep := forall₂_of_flatMap_eq hlength (List.forall₂_refl r.base) h
    obtain ⟨m', -, rfl, heq⟩ := forall₂_exists_right hstep hm
    exact (ofMetric_tabulated_iff hraw).mp heq
  · intro h
    exact List.flatMap_congr fun m hm => (ofMetric_tabulated_iff hraw).mpr (h m hm)

end MetricValues

namespace GroupedRow

open Rows

/-- A row of a response stays the same exactly if its metrics do. -/
theorem ofRecord_tabulated_iff {r : Registry} {columns : List String} {raw : Record}
    (hraw : raw.map Prod.fst ⊆ columns) :
    ofRecord r (tabulated columns raw) = ofRecord r raw ↔ ∀ m ∈ r.base, MetricValues.Unhidden columns raw m := by
  have htext := read_tabulated textOf? rfl hraw
  have hcount := read_tabulated countOf rfl hraw
  rw [← MetricValues.ofRecord_tabulated_iff hraw]
  simp only [ofRecord, htext, hcount, GroupedRow.mk.injEq, true_and, and_true]

/-- Records whose columns are all columns of the first are the same rows of a response before and after they are put
into a table, exactly if no null hides a value of last year. -/
theorem rows_of_table_iff {r : Registry} {first : Record} {rest : List Record}
    (hkeys : ∀ raw ∈ first :: rest, raw.map Prod.fst ⊆ first.map Prod.fst) :
    (Rows.ofRecords (first :: rest)).records.map (ofRecord r) = (first :: rest).map (ofRecord r) ↔
      ∀ raw ∈ rest, ∀ m ∈ r.base, MetricValues.Unhidden (first.map Prod.fst) raw m := by
  have hfirst : ∀ m ∈ r.base, MetricValues.Unhidden (first.map Prod.fst) first m :=
    fun m _ hcolumn habsent => absurd hcolumn habsent
  rw [Rows.records_ofRecords, List.map_map, List.map_inj_left]
  constructor
  · intro h raw hmem
    have hraw : raw ∈ first :: rest := List.mem_cons_of_mem _ hmem
    exact (ofRecord_tabulated_iff (hkeys raw hraw)).mp (h raw hraw)
  · intro h raw hraw
    refine (ofRecord_tabulated_iff (hkeys raw hraw)).mpr ?_
    rcases List.mem_cons.mp hraw with rfl | hmem
    · exact hfirst
    · exact h raw hmem

/-- A group that has no stock, last year's stock under the inner name aside, which is zero. -/
theorem rows_of_table_empty_stock :
    let first : Record := [("id", .string "a"), ("stock_value", .natural 12), ("stock_value_last_year", .natural 10),
      ("stock_value_ly", .natural 10)]
    let later : Record := [("id", .string "b"), ("stock_value_ly", .string "0")]
    (∀ raw ∈ [first, later], raw.map Prod.fst ⊆ first.map Prod.fst) ∧
      (∀ raw ∈ [later], ∀ m ∈ Registry.builtin.base, MetricValues.Unhidden (first.map Prod.fst) raw m) ∧
      (Rows.ofRecords [first, later]).records.map (ofRecord .builtin) = [first, later].map (ofRecord .builtin) := by
  intro first later
  have hkeys : ∀ raw ∈ [first, later], raw.map Prod.fst ⊆ first.map Prod.fst := by
    rw [List.forall_mem_cons, List.forall_mem_singleton]
    decide +kernel
  have hunhidden : ∀ raw ∈ [later], ∀ m ∈ Registry.builtin.base,
      MetricValues.Unhidden (first.map Prod.fst) raw m := by
    rw [List.forall_mem_singleton]
    unfold MetricValues.Unhidden
    decide +kernel
  exact ⟨hkeys, hunhidden, (rows_of_table_iff hkeys).mpr hunhidden⟩

/-- Last year's stock of the second group is lost: the first group has it under both names, and so the second one
gets null under the one that it lacks. -/
theorem rows_of_table_hidden_stock :
    let first : Record := [("id", .string "a"), ("stock_value_last_year", .natural 10), ("stock_value_ly", .natural 10)]
    let later : Record := [("id", .string "b"), ("stock_value_ly", .natural 7)]
    let lastYear (rows : List GroupedRow) := rows.map fun row => row.metrics.get? "stock_value_last_year"
    (∀ raw ∈ [first, later], raw.map Prod.fst ⊆ first.map Prod.fst) ∧
      lastYear ([first, later].map (ofRecord .builtin)) = [some (Float.ofNat 10), some (Float.ofNat 7)] ∧
      lastYear ((Rows.ofRecords [first, later]).records.map (ofRecord .builtin)) = [some (Float.ofNat 10), some 0.0] ∧
      (Rows.ofRecords [first, later]).records.map (ofRecord .builtin) ≠ [first, later].map (ofRecord .builtin) := by
  intro first later lastYear
  have hkeys : ∀ raw ∈ [first, later], raw.map Prod.fst ⊆ first.map Prod.fst := by
    rw [List.forall_mem_cons, List.forall_mem_singleton]
    decide +kernel
  have hbefore : lastYear ([first, later].map (ofRecord .builtin)) = [some (Float.ofNat 10), some (Float.ofNat 7)] := by
    decide +kernel
  have hafter : lastYear ((Rows.ofRecords [first, later]).records.map (ofRecord .builtin)) =
      [some (Float.ofNat 10), some 0.0] := by
    decide +kernel
  refine ⟨hkeys, hbefore, hafter, fun heq => ?_⟩
  rw [heq, hbefore] at hafter
  exact absurd hafter (by decide +kernel)

end GroupedRow
end BalanceSheet
