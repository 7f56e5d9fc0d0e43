import BalanceSheet.Proofs.Sorted
import BalanceSheet.Query.Statement
import Mathlib.Data.List.Basic

/-!
Output columns and aliases. Both are made from the requested metrics and go by the tables that are skipped:
a metric of a skipped table is an output column of its own, and any other is a column of the sources of its
table. Its fields are output columns either way, and rows are ordered by an output column, whatever was
asked for.
-/

namespace BalanceSheet

namespace Output

variable {read : Reference → OutputExpr} {skipped : List String} {groups : TableMetrics} {m : BaseMetric}

theorem mem_ofMetrics {o : Output} : o ∈ ofMetrics read skipped groups ↔
    ∃ m ∈ groups.metrics, o ∈ if skipped.contains m.table then zeros m else compared read m :=
  List.mem_flatMap

/-- The fields of a metric are output columns, whether its table takes part or not. -/
theorem fields_subset_names (hm : m ∈ groups.metrics) :
    m.fields ⊆ (ofMetrics read skipped groups).map Output.name := by
  intro field hfield
  by_cases htable : skipped.contains m.table = true
  · have hzero : (⟨field, .zero⟩ : Output) ∈ zeros m := by
      simp only [BaseMetric.fields, List.mem_cons, List.not_mem_nil, or_false] at hfield
      rcases hfield with rfl | rfl | rfl <;> simp [zeros]
    exact List.mem_map.mpr ⟨_, mem_ofMetrics.mpr ⟨m, hm, by rwa [if_pos htable]⟩, rfl⟩
  · have hcompared : field ∈ (compared read m).map Output.name := by
      simpa [compared, BaseMetric.fields] using hfield
    obtain ⟨o, ho, rfl⟩ := List.mem_map.mp hcompared
    exact List.mem_map_of_mem (mem_ofMetrics.mpr ⟨m, hm, by rwa [if_neg htable]⟩)

/-- A metric of a skipped table has its previous column in the output. -/
theorem previousColumn_mem_names (hm : m ∈ groups.metrics) (htable : m.table ∈ skipped) :
    m.previousColumn ∈ (ofMetrics read skipped groups).map Output.name := by
  have hzero : (⟨m.previousColumn, .zero⟩ : Output) ∈ zeros m := by simp [zeros]
  exact List.mem_map.mpr ⟨_, mem_ofMetrics.mpr ⟨m, hm, by rwa [if_pos (by simpa using htable)]⟩, rfl⟩

end Output

namespace Aliases

variable {skipped : List String} {groups : TableMetrics} {name : String}

/-- A name with a reference has it from a metric. -/
theorem reference_mem (h : (ofMetrics skipped groups).has name = true) :
    ∃ m ∈ groups.metrics, (name, (ofMetrics skipped groups).reference name) ∈ ofMetric skipped m := by
  obtain ⟨reference, hget⟩ := Option.isSome_iff_exists.mp h
  have hreference : (ofMetrics skipped groups).reference name = reference := by
    rw [Aliases.reference, hget]
    rfl
  rw [hreference]
  exact List.mem_flatMap.mp (Sorted.mem_of_mem_ofList (Sorted.mem_of_get? hget))

/-- The reference for a name is that of a metric: a column of a source, or an output column of a skipped
table. -/
theorem reference_cases (h : (ofMetrics skipped groups).has name = true) :
    ∃ m ∈ groups.metrics,
      (m.table ∉ skipped ∧ ∃ period, (ofMetrics skipped groups).reference name =
        .column (Source.nameOf m.table period) (Source.metricColumn period m)) ∨
      (m.table ∈ skipped ∧ ∃ period,
        (ofMetrics skipped groups).reference name = .output (Source.metricColumn period m)) := by
  obtain ⟨m, hm, hmem⟩ := reference_mem h
  refine ⟨m, hm, ?_⟩
  unfold ofMetric at hmem
  split at hmem
  case isTrue htable =>
      refine .inr ⟨by simpa using htable, ?_⟩
      rcases List.mem_pair.mp hmem with heq | heq
      · exact ⟨.current, (Prod.mk.inj heq).2⟩
      · exact ⟨.previous, (Prod.mk.inj heq).2⟩
  case isFalse htable =>
      refine .inl ⟨by simpa using htable, ?_⟩
      rcases List.mem_pair.mp hmem with heq | heq
      · exact ⟨.current, (Prod.mk.inj heq).2⟩
      · exact ⟨.previous, (Prod.mk.inj heq).2⟩

/-- A name without a reference of its own refers to an output column. -/
theorem reference_eq_output (h : ¬ (ofMetrics skipped groups).has name = true) :
    (ofMetrics skipped groups).reference name = .output name := by
  have hget : Sorted.get? (ofMetrics skipped groups) name = none := by simpa [has] using h
  rw [reference, hget]
  rfl

end Aliases

namespace Grouped.Plan

/-- Rows are ordered by an output column, asked for or not. -/
theorem orderField_mem {named : Bool} {skipped : List String} {groups : TableMetrics}
    {resolved : List ResolvedMetric} (requested : Option String) :
    orderField groups resolved requested ∈ (columnsOf named skipped groups resolved).map Output.name := by
  have hmetrics {m : BaseMetric} (hm : m ∈ groups.metrics) :
      m.fields ⊆ (columnsOf named skipped groups resolved).map Output.name := by
    have hfields : m.fields ⊆ (Output.ofMetrics .valueOrZero skipped groups).map Output.name :=
      Output.fields_subset_names hm
    refine List.Subset.trans hfields ?_
    apply List.map_subset
    intro o ho
    simp [columnsOf, ho]
  unfold orderField
  split
  case h_1 field hfield =>
      obtain ⟨-, haccepted⟩ := Option.filter_eq_some_iff.mp hfield
      rw [List.contains_iff_mem, orderFields, List.mem_append, List.mem_append] at haccepted
      rcases haccepted with (hfixed | hcalculated) | hbase
      · rcases List.mem_pair.mp hfixed with rfl | rfl <;> simp [columnsOf]
      · obtain ⟨m, hm, rfl⟩ := List.mem_map.mp hcalculated
        have ho : Output.ofResolved m ∈ columnsOf named skipped groups resolved := by
          simp [columnsOf, List.mem_map_of_mem hm]
        exact List.mem_map.mpr ⟨_, ho, rfl⟩
      · obtain ⟨m, hm, hfield⟩ := List.mem_flatMap.mp hbase
        exact hmetrics hm hfield
  case h_2 =>
      cases hfirst : groups.metrics with
      | nil => simp [columnsOf]
      | cons m rest =>
          have hm : m ∈ groups.metrics := by simp [hfirst]
          exact hmetrics hm (by simp [BaseMetric.fields])

end Grouped.Plan
end BalanceSheet
