import BalanceSheet.Proofs.Formula.FixedPoint
import BalanceSheet.Proofs.Query.Scope
import BalanceSheet.Proofs.Registry.Fields

/-!
The columns of the outer statement. They are the fields of the requested metrics, the previous columns of
those whose tables are skipped, the calculated metrics that could be resolved and, in a grouped statement,
the fixed columns of a row; and no two of them share a name.
-/

namespace BalanceSheet

/-- Names of the columns that a metric has, by whether its table is skipped. -/
def BaseMetric.columns (skipped : List String) (m : BaseMetric) : List String :=
  if skipped.contains m.table then Registry.fieldsTaken m else m.fields

theorem BaseMetric.columns_sublist (skipped : List String) (m : BaseMetric) :
    (m.columns skipped).Sublist (Registry.fieldsTaken m) := by
  rw [columns]
  split
  case isTrue => exact .refl _
  case isFalse => exact m.fields_sublist

theorem BaseMetric.mem_columns {skipped : List String} {m : BaseMetric} {name : String} :
    name ∈ m.columns skipped ↔ name ∈ m.fields ∨ m.table ∈ skipped ∧ name = m.previousColumn := by
  rw [columns]
  by_cases htable : m.table ∈ skipped
  · simp only [htable, List.contains_iff_mem, if_true, true_and, fields, Registry.fieldsTaken, List.mem_cons,
      List.not_mem_nil, or_false]
    rw [or_comm (b := name = m.previousColumn), or_left_comm]
  · simp [htable]

theorem Output.map_name_ofMetrics (read : Reference → OutputExpr) (skipped : List String)
    (groups : TableMetrics) :
    (Output.ofMetrics read skipped groups).map Output.name =
      groups.metrics.flatMap (BaseMetric.columns skipped) := by
  rw [Output.ofMetrics, List.map_flatMap]
  congr 1
  funext m
  rw [BaseMetric.columns]
  split <;> rfl

theorem Output.map_name_ofResolved (resolved : List ResolvedMetric) :
    (resolved.map Output.ofResolved).map Output.name = resolved.map ResolvedMetric.name := by
  rw [List.map_map]
  rfl

/-- The outer statement selects each output column under its name. -/
theorem Output.selects {s : Select} (outputs : List Output) (h : s.columns = outputs.map Output.text) :
    s.Selects (outputs.map Output.name) := by
  rw [Select.Selects, h, List.forall₂_map_left_iff, List.forall₂_map_right_iff, List.forall₂_same]
  exact fun o _ => ⟨o.expr.text, rfl⟩

/-- The columns have names of their own, which are those of the metrics, of the calculated metrics and the
fixed ones. -/
structure Statement.HasColumns (metrics : List BaseMetric) (fixed columns : List String) (s : Statement) :
    Prop where
  nodup : columns.Nodup
  mem_iff : ∀ name, name ∈ columns ↔
    (∃ m ∈ metrics, name ∈ m.fields) ∨ (∃ m ∈ metrics, m.table ∈ s.skipped ∧ name = m.previousColumn) ∨
      name ∈ s.calculated ∨ name ∈ fixed

theorem CalculatedMetric.names_resolveAll_subset (aliases : Aliases) (metrics : List CalculatedMetric) :
    (resolveAll aliases metrics).map ResolvedMetric.name ⊆ metrics.map CalculatedMetric.name := by
  intro name hname
  obtain ⟨e, he, rfl⟩ := List.mem_map.mp hname
  obtain ⟨c, hc, hname⟩ := founded_resolveAll.name_mem he
  exact hname ▸ List.mem_map_of_mem hc

namespace Registry.WellFormed

variable {r : Registry}

/-- The columns of metrics and of calculated metrics are all different, and none is reserved. -/
theorem nodup_columns (hr : r.WellFormed) {metrics : List BaseMetric} (hnodup : metrics.Nodup)
    (hbase : ∀ m ∈ metrics, m ∈ r.base) (skipped : List String) (aliases : Aliases) :
    (metrics.flatMap (BaseMetric.columns skipped) ++
      (CalculatedMetric.resolveAll aliases r.calculated).map ResolvedMetric.name).Nodup ∧
    ∀ name ∈ metrics.flatMap (BaseMetric.columns skipped) ++
      (CalculatedMetric.resolveAll aliases r.calculated).map ResolvedMetric.name, name ∉ reservedFields := by
  have htaken : ∀ name ∈ metrics.flatMap (BaseMetric.columns skipped), ∃ m ∈ r.base, name ∈ fieldsTaken m := by
    intro name hname
    obtain ⟨m, hm, hname⟩ := List.mem_flatMap.mp hname
    exact ⟨m, hbase m hm, (m.columns_sublist skipped).subset hname⟩
  constructor
  · rw [List.nodup_append]
    refine ⟨hr.nodup_flatMap_fields hnodup hbase (BaseMetric.columns_sublist skipped),
      (CalculatedMetric.resolution_resolveAll hr.calculatedNames aliases).once, ?_⟩
    rintro name hname _ hcalculated rfl
    obtain ⟨m, hm, hname⟩ := htaken name hname
    exact hr.taken_ne_calculated hm hname (CalculatedMetric.names_resolveAll_subset aliases _ hcalculated)
  · intro name hname
    rcases List.mem_append.mp hname with hname | hname
    · obtain ⟨m, hm, hname⟩ := htaken name hname
      exact hr.unreserved name (List.mem_flatMap.mpr ⟨m, hm, hname⟩)
    · obtain ⟨c, hc, rfl⟩ := List.mem_map.mp (CalculatedMetric.names_resolveAll_subset aliases _ hname)
      exact (hr.calculated c hc).2.2

/-- Columns of metrics and of calculated metrics between reserved ones. -/
theorem hasColumns (hr : r.WellFormed) {request : List String} {metrics : List BaseMetric}
    (hselected : r.selectMetrics request = .ok metrics) {s : Statement} {skipped : List String}
    (hskipped : s.skipped = Sorted.names skipped) {resolved : List ResolvedMetric} {aliases : Aliases}
    (hresolved : resolved = CalculatedMetric.resolveAll aliases r.calculated)
    (hcalculated : s.calculated = resolved.map ResolvedMetric.name) {read : Reference → OutputExpr}
    (lead trail : List Output) {outputs : List Output} (hfixed : ((lead ++ trail).map Output.name).Nodup)
    (hreserved : (lead ++ trail).map Output.name ⊆ reservedFields)
    (houtputs : outputs = lead ++ Output.ofMetrics read skipped (TableMetrics.ofMetrics metrics) ++
      resolved.map Output.ofResolved ++ trail) :
    s.HasColumns metrics ((lead ++ trail).map Output.name) (outputs.map Output.name) := by
  have hbase := mem_base_of_selectMetrics hselected
  have hgrouped : (TableMetrics.metrics (TableMetrics.ofMetrics metrics)).Nodup :=
    TableMetrics.nodup_metrics_ofMetrics (hr.nodup_selectMetrics hselected)
  have hnames : outputs.map Output.name = lead.map Output.name ++
      ((TableMetrics.ofMetrics metrics).metrics.flatMap (BaseMetric.columns skipped) ++
        resolved.map ResolvedMetric.name) ++ trail.map Output.name := by
    rw [houtputs]
    simp only [List.map_append, Output.map_name_ofMetrics, Output.map_name_ofResolved, List.append_assoc]
  obtain ⟨hnodup, hunreserved⟩ := hr.nodup_columns hgrouped
    (fun m hm => hbase m (TableMetrics.mem_metrics_ofMetrics.mp hm)) skipped aliases
  rw [← hresolved] at hnodup hunreserved
  rw [List.map_append] at hfixed hreserved ⊢
  rw [hnames]
  constructor
  · exact nodup_between hnodup hfixed fun name hname hmem => hunreserved name hname (hreserved hmem)
  · intro name
    simp only [List.mem_append, List.mem_flatMap, TableMetrics.mem_metrics_ofMetrics, BaseMetric.mem_columns,
      hskipped, Sorted.mem_names, hcalculated, and_or_left, exists_or]
    rw [or_assoc, or_left_comm, or_assoc, or_assoc]

end Registry.WellFormed

theorem Yoy.Plan.Answers.hasColumns {r : Registry} (hr : r.WellFormed) {request : YoyRequest} {today : Date}
    {metrics : List BaseMetric} {w : Windows} {p : Plan} {s : Statement}
    (hselected : r.selectMetrics request.metrics = .ok metrics)
    (h : p.Answers r request today (TableMetrics.ofMetrics metrics) w) (hrenders : Renders p s) :
    s.HasColumns metrics [] (p.outputs.map Output.name) :=
  hr.hasColumns hselected hrenders.skipped h.resolved hrenders.calculated [] [] List.nodup_nil
    (List.nil_subset _) (by simpa using h.outputs)

/-- The columns that a grouped row has besides its metrics. -/
def Grouped.fixedColumns : List String := ["id", "name", "_total_count"]

theorem Grouped.Plan.Answers.hasColumns {r : Registry} (hr : r.WellFormed) {request : GroupedRequest}
    {today : Date} {d : Dimension} {metrics : List BaseMetric} {w : Windows} {p : Plan} {s : Statement}
    (hselected : r.selectMetrics request.metrics = .ok metrics)
    (h : p.Answers r request today d (TableMetrics.ofMetrics metrics) w) (hrenders : Renders p s) :
    s.HasColumns metrics fixedColumns (p.outputs.map Output.name) := by
  have hfixed : fixedColumns.Nodup ∧ fixedColumns ⊆ Registry.reservedFields := by decide
  exact hr.hasColumns hselected hrenders.skipped h.resolved hrenders.calculated [⟨"id", _⟩, ⟨"name", _⟩]
    [⟨"_total_count", .groupCount⟩] hfixed.1 hfixed.2 h.outputs

end BalanceSheet
