import BalanceSheet.Proofs.Registry.Acceptance
import BalanceSheet.Proofs.Registry.Selection
import Mathlib.Data.List.Pairwise

/-!
The fields of an accepted registry. A name that a base metric takes is taken by that metric alone, so metrics
that are selected have fields of their own, and none of these is the name of a calculated metric, of a fixed
column of a row or of the previous column of a metric.
-/

namespace BalanceSheet

theorem BaseMetric.fields_sublist (m : BaseMetric) : m.fields.Sublist (Registry.fieldsTaken m) := by
  simp [fields, Registry.fieldsTaken]

theorem BaseMetric.previousColumn_mem_taken (m : BaseMetric) : m.previousColumn ∈ Registry.fieldsTaken m := by
  simp [Registry.fieldsTaken]

namespace Registry

variable {r : Registry} {m m' : BaseMetric} {field : String}

/-- Base metrics give no name to a calculated metric. -/
theorem WellFormed.taken_ne_calculated (hr : r.WellFormed) (hm : m ∈ r.base) (hfield : field ∈ fieldsTaken m) :
    field ∉ r.calculated.map CalculatedMetric.name := by
  intro hmem
  obtain ⟨c, hc, rfl⟩ := List.mem_map.mp hmem
  exact (hr.calculated c hc).2.1 (List.mem_flatMap.mpr ⟨m, hm, hfield⟩)

theorem WellFormed.nodup_fieldsTaken (hr : r.WellFormed) (hm : m ∈ r.base) : (fieldsTaken m).Nodup :=
  (List.nodup_flatMap.mp hr.fields).1 m hm

/-- A name is taken by one metric. -/
theorem WellFormed.eq_of_taken (hr : r.WellFormed) (hm : m ∈ r.base) (hm' : m' ∈ r.base)
    (hfield : field ∈ fieldsTaken m) (hfield' : field ∈ fieldsTaken m') : m = m' := by
  by_contra hne
  have hsymm : Std.Symm (Function.onFun List.Disjoint fieldsTaken) := ⟨fun _ _ h _ hleft hright => h hright hleft⟩
  have hdisjoint := (List.nodup_flatMap.mp hr.fields).2.forall hm hm' hne
  exact hdisjoint hfield hfield'

theorem WellFormed.nodup_base (hr : r.WellFormed) : r.base.Nodup := by
  refine (List.nodup_flatMap.mp hr.fields).2.imp ?_
  rintro m _ hdisjoint rfl
  exact hdisjoint m.previousColumn_mem_taken m.previousColumn_mem_taken

/-- A request selects no metric twice. -/
theorem WellFormed.nodup_selectMetrics (hr : r.WellFormed) {aliases : List String} {metrics : List BaseMetric}
    (h : r.selectMetrics aliases = .ok metrics) : metrics.Nodup := by
  by_cases hnames : aliases = []
  · subst hnames
    cases h
    exact hr.nodup_base
  · refine .of_map BaseMetric.name ?_
    rw [names_of_selectMetrics hnames h]
    exact nodup_eraseDups aliases

/-- Parts of what different metrics take are given once. -/
theorem WellFormed.nodup_flatMap_fields (hr : r.WellFormed) {metrics : List BaseMetric}
    (hnodup : metrics.Nodup) (hbase : ∀ m ∈ metrics, m ∈ r.base) {part : BaseMetric → List String}
    (hpart : ∀ m, (part m).Sublist (fieldsTaken m)) : (metrics.flatMap part).Nodup := by
  rw [List.nodup_flatMap]
  constructor
  · intro m hm
    exact (hr.nodup_fieldsTaken (hbase m hm)).sublist (hpart m)
  · refine hnodup.imp_of_mem ?_
    intro m m' hm hm' hne field hfield hfield'
    exact hne (hr.eq_of_taken (hbase m hm) (hbase m' hm') ((hpart m).subset hfield) ((hpart m').subset hfield'))

theorem WellFormed.nodup_names (hr : r.WellFormed) : (r.base.map BaseMetric.name).Nodup := by
  rw [List.map_eq_flatMap]
  exact hr.nodup_flatMap_fields hr.nodup_base (fun _ hm => hm) fun m => by simp [fieldsTaken]

/-! ### The fields of a response -/

theorem mem_responseFields : field ∈ r.responseFields ↔
    (∃ m ∈ r.base, field ∈ m.fields) ∨ field ∈ r.calculated.map CalculatedMetric.name := by
  rw [responseFields, List.mem_append, List.mem_flatMap]

theorem WellFormed.nodup_responseFields (hr : r.WellFormed) : r.responseFields.Nodup := by
  rw [responseFields, List.nodup_append]
  refine ⟨hr.nodup_flatMap_fields hr.nodup_base (fun _ hm => hm) BaseMetric.fields_sublist,
    hr.calculatedNames, ?_⟩
  rintro field hfield other hother rfl
  obtain ⟨m, hm, hfield⟩ := List.mem_flatMap.mp hfield
  exact hr.taken_ne_calculated hm (m.fields_sublist.subset hfield) hother

theorem WellFormed.responseField_unreserved (hr : r.WellFormed) (hfield : field ∈ r.responseFields) :
    field ∉ reservedFields := by
  rcases mem_responseFields.mp hfield with ⟨m, hm, hmem⟩ | hmem
  · exact hr.unreserved field (List.mem_flatMap.mpr ⟨m, hm, m.fields_sublist.subset hmem⟩)
  · obtain ⟨c, hc, rfl⟩ := List.mem_map.mp hmem
    exact (hr.calculated c hc).2.2

/-- The previous column of a metric is a matter of statements only. -/
theorem WellFormed.previousColumn_ne_responseField (hr : r.WellFormed) (hm : m ∈ r.base) :
    m.previousColumn ∉ r.responseFields := by
  intro hmem
  rcases mem_responseFields.mp hmem with ⟨m', hm', hfield⟩ | hcalculated
  · obtain rfl := hr.eq_of_taken hm hm' m.previousColumn_mem_taken (m'.fields_sublist.subset hfield)
    have hnodup := hr.nodup_fieldsTaken hm
    simp only [BaseMetric.fields, fieldsTaken, List.nodup_cons, List.mem_cons, List.not_mem_nil, or_false,
      not_or] at hfield hnodup
    rcases hfield with heq | heq | heq
    · exact hnodup.1.1 heq.symm
    · exact hnodup.2.1.1 heq
    · exact hnodup.2.1.2 heq
  · exact hr.taken_ne_calculated hm m.previousColumn_mem_taken hcalculated

end Registry
end BalanceSheet
