import BalanceSheet.Proofs.Except
import BalanceSheet.Proofs.Metric.Grouping
import BalanceSheet.Registry.Basic

/-!
The metrics that a request selects. They are base metrics of the registry, under the names asked for, and
their groups are those of the selected list.
-/

namespace BalanceSheet.Registry

variable {r : Registry} {aliases : List String}

theorem metric_ok {name : String} {m : BaseMetric} (h : r.metric name = .ok m) : m ∈ r.base ∧ m.name = name := by
  rw [metric] at h
  split at h
  case h_1 m' hfind =>
      cases h
      exact ⟨List.mem_of_find?_eq_some hfind, by simpa using List.find?_some hfind⟩
  case h_2 => cases h

/-- There is a metric of every name but those that no base metric has. -/
theorem metric_eq_error_iff {name : String} {f : Failure} :
    r.metric name = .error f ↔ name ∉ r.base.map BaseMetric.name ∧ f = .unknownMetric name := by
  rw [metric]
  split
  case h_1 m hfind =>
      have hmem : name ∈ r.base.map BaseMetric.name := by
        have hname : m.name = name := by simpa using List.find?_some hfind
        exact hname ▸ List.mem_map_of_mem (List.mem_of_find?_eq_some hfind)
      simp [hmem]
  case h_2 hnone =>
      have hfree : name ∉ r.base.map BaseMetric.name := by
        intro hmem
        obtain ⟨m, hm, rfl⟩ := List.mem_map.mp hmem
        simpa using List.find?_eq_none.mp hnone m hm
      rw [Except.error.injEq, and_iff_right hfree]
      exact eq_comm

theorem isOk_metric_iff {name : String} : (r.metric name).isOk = true ↔ name ∈ r.base.map BaseMetric.name := by
  cases hmetric : r.metric name with
  | error f => exact iff_of_false (by simp [Except.isOk, Except.toBool]) (metric_eq_error_iff.mp hmetric).1
  | ok m =>
      obtain ⟨hm, rfl⟩ := metric_ok hmetric
      exact iff_of_true rfl (List.mem_map_of_mem hm)

theorem dimension_ok {name : String} {d : Dimension} (h : r.dimension name = .ok d) : d ∈ r.dimensions := by
  rw [dimension] at h
  split at h
  case h_1 d' hfind =>
      cases h
      exact List.mem_of_find?_eq_some hfind
  case h_2 => cases h

theorem name_of_dimension {name : String} {d : Dimension} (h : r.dimension name = .ok d) : d.name = name := by
  rw [dimension] at h
  split at h
  case h_1 d' hfind =>
      cases h
      simpa using List.find?_some hfind
  case h_2 => cases h

/-- The names asked for are those of the selected metrics, each once. -/
theorem names_of_selectMetrics {metrics : List BaseMetric} (hnames : aliases ≠ [])
    (h : r.selectMetrics aliases = .ok metrics) : metrics.map BaseMetric.name = aliases.eraseDups := by
  rw [selectMetrics, if_neg (by simpa using hnames)] at h
  have hstep : List.Forall₂ (· = ·) aliases.eraseDups (metrics.map BaseMetric.name) := by
    rw [List.forall₂_map_right_iff]
    exact (Except.mapM_ok h).imp fun _ _ hmetric => (metric_ok hmetric).2.symm
  rw [List.forall₂_eq_eq_eq] at hstep
  exact hstep.symm

/-- Selected metrics are metrics of the registry. -/
theorem mem_base_of_selectMetrics {metrics : List BaseMetric} (h : r.selectMetrics aliases = .ok metrics) :
    ∀ m ∈ metrics, m ∈ r.base := by
  intro m hm
  rw [selectMetrics] at h
  split at h
  case isTrue =>
      cases h
      exact hm
  case isFalse =>
      obtain ⟨name, -, hmetric⟩ := forall₂_exists_left (Except.mapM_ok h) hm
      exact (metric_ok hmetric).1

theorem metricsByTable_ok {groups : TableMetrics} (h : r.metricsByTable aliases = .ok groups) :
    ∃ metrics, r.selectMetrics aliases = .ok metrics ∧ groups = TableMetrics.ofMetrics metrics := by
  rw [metricsByTable] at h
  cases hmetrics : r.selectMetrics aliases with
  | error f => rw [hmetrics] at h; cases h
  | ok metrics =>
      rw [hmetrics] at h
      cases h
      exact ⟨metrics, rfl, rfl⟩

theorem mem_base_of_metricsByTable {groups : TableMetrics} (h : r.metricsByTable aliases = .ok groups) :
    ∀ m ∈ groups.metrics, m ∈ r.base := by
  obtain ⟨metrics, hmetrics, rfl⟩ := metricsByTable_ok h
  intro m hm
  exact mem_base_of_selectMetrics hmetrics m (TableMetrics.mem_metrics_ofMetrics.mp hm)

/-- Where there are metrics, every selection has some. -/
theorem metricsByTable_ne_nil {groups : TableMetrics} (hbase : r.base ≠ [])
    (h : r.metricsByTable aliases = .ok groups) : groups ≠ [] := by
  obtain ⟨metrics, hmetrics, rfl⟩ := metricsByTable_ok h
  have hne : metrics ≠ [] := by
    rw [selectMetrics] at hmetrics
    split at hmetrics
    case isTrue =>
        cases hmetrics
        exact hbase
    case isFalse hnames =>
        rintro rfl
        have hnone : aliases.eraseDups = [] := List.forall₂_nil_right_iff.mp (Except.mapM_ok hmetrics)
        rw [List.isEmpty_iff] at hnames
        obtain ⟨name, hname⟩ := List.exists_mem_of_ne_nil aliases hnames
        rw [← List.mem_eraseDups, hnone] at hname
        cases hname
  obtain ⟨m, hm⟩ := List.exists_mem_of_ne_nil metrics hne
  have htable : m.table ∈ (TableMetrics.ofMetrics metrics).map Prod.fst := by
    rw [TableMetrics.map_fst_ofMetrics, List.mem_eraseDups]
    exact List.mem_map_of_mem hm
  rintro hnil
  simp [hnil] at htable

end BalanceSheet.Registry
