import BalanceSheet.Proofs.Response.Conformance
import BalanceSheet.Proofs.Response.Reported

/-!
Responses as rows. The values of a response, put into a row under the names of their fields, make that response
again: last year's values are all there under their own names, so none is looked for under another. And a response
is made of nothing in its row but the fields of the registry and the previous columns of its metrics.
-/

namespace BalanceSheet

namespace MetricValues

variable {r : Registry} {raw raw' : Record}

/-- The row that has the values as its columns. -/
def toRecord (values : MetricValues) : Record := Sorted.ofList values.entries

/-- The registry reads no other columns of a row. -/
def Reads (r : Registry) (name : String) : Prop := name ∈ r.responseFields ∨ name ∈ r.base.map BaseMetric.previousColumn

theorem get?_toRecord {values : MetricValues} (hnodup : (values.map Prod.fst).Nodup) {entry : String × Float}
    (h : entry ∈ values) : Sorted.get? values.toRecord entry.1 = some (.float entry.2) := by
  rw [toRecord]
  apply Sorted.get?_ofList_eq_some
  · rw [keys_entries]
    exact List.mem_map_of_mem h
  · intro written hwritten hname
    obtain ⟨other, hother, rfl⟩ := List.mem_map.mp hwritten
    rw [List.inj_on_of_nodup_map hnodup hother h hname]

/-- Finite values are read off their row again. -/
theorem readOff_toRecord {values : MetricValues} (hnodup : (values.map Prod.fst).Nodup)
    (hfinite : ∀ entry ∈ values, entry.2.isFinite = true) : readOff values.toRecord (values.map Prod.fst) = values := by
  have hread : ∀ entry ∈ values, (entry.1, numberOf (Sorted.get? values.toRecord entry.1)) = entry := by
    intro entry hentry
    have hdenotes : (Json.float entry.2).Denotes entry.2 := .float (hfinite entry hentry)
    rw [get?_toRecord hnodup hentry, numberOf_of_denotes hdenotes]
  rw [readOff, List.map_map]
  exact (List.map_congr_left hread).trans (List.map_id' values)

/-- The row of a response makes the response again. -/
theorem ofRecord_toRecord (hr : r.WellFormed) (raw : Record) : ofRecord r (ofRecord r raw).toRecord = ofRecord r raw := by
  have hkeys : (ofRecord r raw).map Prod.fst = r.responseFields := keys_ofRecord
  have hnodup : ((ofRecord r raw).map Prod.fst).Nodup := hkeys ▸ hr.nodup_responseFields
  have hread : ofRecord r (ofRecord r raw).toRecord = readOff (ofRecord r raw).toRecord r.responseFields := by
    apply ofRecord_eq_readOff
    intro m hm _
    rw [toRecord, Sorted.mem_keys_ofList, keys_entries, hkeys, Registry.mem_responseFields]
    exact .inl ⟨m, hm, by simp [BaseMetric.fields]⟩
  rw [hread, ← hkeys]
  exact readOff_toRecord hnodup fun _ => isFinite_ofRecord

/-- Rows that agree on the columns that are read make one response. -/
theorem ofRecord_congr (h : ∀ name, Reads r name → Sorted.get? raw name = Sorted.get? raw' name) :
    ofRecord r raw = ofRecord r raw' := by
  have hmetric : ∀ m ∈ r.base, ofMetric raw m = ofMetric raw' m := by
    intro m hm
    have hown : ∀ field ∈ m.fields, Sorted.get? raw field = Sorted.get? raw' field := fun field hfield =>
      h field (.inl (Registry.mem_responseFields.mpr (.inl ⟨m, hm, hfield⟩)))
    rw [ofMetric, ofMetric, hown m.name (by simp [BaseMetric.fields]),
      hown m.lastYearField (by simp [BaseMetric.fields]), hown m.changeField (by simp [BaseMetric.fields]),
      h m.previousColumn (.inr (List.mem_map_of_mem hm))]
  have hcalculated : ∀ c ∈ r.calculated, (c.name, numberOf (Sorted.get? raw c.name)) =
      (c.name, numberOf (Sorted.get? raw' c.name)) := by
    intro c hc
    rw [h c.name (.inl (Registry.mem_responseFields.mpr (.inr (List.mem_map_of_mem hc))))]
  rw [ofRecord, ofRecord, List.flatMap_congr hmetric, List.map_congr_left hcalculated]

/-- Under an accepted registry a response is made of the fields of the registry and the previous columns only, and
what it is made into is left as it is. -/
theorem projects_of_build {tables : List Table} {base : List BaseMetric} {calculated : List CalculatedMetric}
    {dimensions : List Dimension} (hr : Registry.build tables base calculated dimensions = .ok r) :
    (∀ raw : Record, ofRecord r (ofRecord r raw).toRecord = ofRecord r raw) ∧
      ∀ raw raw' : Record, (∀ name, Reads r name → Sorted.get? raw name = Sorted.get? raw' name) →
        ofRecord r raw = ofRecord r raw' :=
  ⟨ofRecord_toRecord (Registry.wellFormed_of_build hr), fun _ _ => ofRecord_congr⟩

/-- A row with last year's stock under its name inside a statement, a text that is no number and a column that no
metric has. -/
theorem projects_builtin :
    let raw : Record := [("mystery", .natural 99), ("stock_value", .string " 2.5 "), ("stock_value_ly", .natural 8),
      ("units_sold", .string "many")]
    Registry.build Registry.Builtin.tables Registry.Builtin.base Registry.Builtin.calculated
        Registry.Builtin.dimensions = .ok .builtin ∧
      (ofRecord .builtin raw).get? "stock_value_last_year" = some (Float.ofNat 8) ∧
      ofRecord .builtin (ofRecord .builtin raw).toRecord = ofRecord .builtin raw ∧
      ofRecord .builtin (Sorted.erase raw "mystery") = ofRecord .builtin raw := by
  intro raw
  have hmystery : ∀ name, Reads .builtin name → name ≠ "mystery" := by
    rintro name hreads rfl
    exact absurd hreads (by rw [Reads]; decide +kernel)
  obtain ⟨hagain, hreads⟩ := projects_of_build Registry.build_builtin
  refine ⟨Registry.build_builtin, by decide +kernel, hagain raw, hreads _ _ fun name hname => ?_⟩
  have hne := hmystery name hname
  simp [Sorted.get?, Sorted.erase, raw, hne.symm]

end MetricValues
end BalanceSheet
