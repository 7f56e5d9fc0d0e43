import BalanceSheet.Proofs.Registry.Fields

/-!
What a request selects, table by table. The first name that is not of a base metric is the one that is reported.
Otherwise the metrics asked for are selected, each once and in the order in which they are first asked for, and they
are put into groups by table; no metric is lost, and the one asked for first comes first.
-/

namespace BalanceSheet.Registry

variable {r : Registry} {aliases : List String} {metrics : List BaseMetric}

/-- The first name asked for that no base metric has. -/
def FirstUnknown (r : Registry) (aliases : List String) (name : String) : Prop :=
  ∃ before after, aliases = before ++ name :: after ∧ name ∉ r.base.map BaseMetric.name ∧
    ∀ known ∈ before, known ∈ r.base.map BaseMetric.name

/-- The names that a request stands for: without any, those of all base metrics. -/
def requested (r : Registry) (aliases : List String) : List String :=
  if aliases = [] then r.base.map BaseMetric.name else aliases

/-- The metrics with the names that a request stands for, in the order in which these first occur. -/
structure Selects (r : Registry) (aliases : List String) (metrics : List BaseMetric) : Prop where
  mem_iff : ∀ m, m ∈ metrics ↔ m ∈ r.base ∧ m.name ∈ r.requested aliases
  distinct : metrics.Nodup
  ordered : metrics.Pairwise fun m m' =>
    (r.requested aliases).idxOf m.name < (r.requested aliases).idxOf m'.name

/-! ### Failures -/

theorem firstUnknown_iff {name : String} :
    r.FirstUnknown aliases name ↔ aliases.find? (fun name => !(r.metric name).isOk) = some name := by
  have hunknown : (!(r.metric name).isOk) = true ↔ name ∉ r.base.map BaseMetric.name := by
    rw [← isOk_metric_iff, Bool.not_eq_true', Bool.not_eq_true]
  rw [List.find?_eq_some_iff_append, hunknown]
  simp only [Bool.not_not, isOk_metric_iff]
  constructor
  · rintro ⟨before, after, haliases, hname, hbefore⟩
    exact ⟨hname, before, after, haliases, hbefore⟩
  · rintro ⟨hname, before, after, haliases, hbefore⟩
    exact ⟨before, after, haliases, hname, hbefore⟩

theorem selectMetrics_eq_error_iff {f : Failure} :
    r.selectMetrics aliases = .error f ↔ ∃ name, r.FirstUnknown aliases name ∧ f = .unknownMetric name := by
  simp only [firstUnknown_iff]
  by_cases hnames : aliases = []
  · simp [hnames, selectMetrics]
  · rw [selectMetrics, if_neg (by simpa using hnames), Except.mapM_eq_error_iff, find?_eraseDups]
    refine exists_congr fun name => and_congr_right fun hfind => ?_
    have hunknown : ¬ (r.metric name).isOk = true := by simpa using List.find?_some hfind
    rw [isOk_metric_iff] at hunknown
    rw [metric_eq_error_iff, and_iff_right hunknown]

/-- Some name is unknown exactly if there is a first one. -/
theorem exists_firstUnknown_iff :
    (∃ name, r.FirstUnknown aliases name) ↔ ∃ name ∈ aliases, name ∉ r.base.map BaseMetric.name := by
  simp only [firstUnknown_iff, ← Option.isSome_iff_exists, List.find?_isSome, ← isOk_metric_iff,
    Bool.not_eq_true, Bool.not_eq_true']

/-! ### Selected metrics -/

/-- The names of the selected metrics are those that the request stands for. -/
theorem WellFormed.names_eq (hr : r.WellFormed) (h : r.selectMetrics aliases = .ok metrics) :
    metrics.map BaseMetric.name = (r.requested aliases).eraseDups := by
  rw [requested]
  split
  case isTrue hnames =>
    subst hnames
    cases h
    rw [eraseDups_of_nodup hr.nodup_names]
  case isFalse hnames => exact names_of_selectMetrics hnames h

theorem WellFormed.selects (hr : r.WellFormed) (h : r.selectMetrics aliases = .ok metrics) :
    r.Selects aliases metrics := by
  have hnames := hr.names_eq h
  refine ⟨?_, hr.nodup_selectMetrics h, ?_⟩
  · intro m
    have hname : m.name ∈ r.requested aliases ↔ m.name ∈ metrics.map BaseMetric.name := by
      rw [hnames, List.mem_eraseDups]
    rw [hname]
    constructor
    · exact fun hm => ⟨mem_base_of_selectMetrics h m hm, List.mem_map_of_mem hm⟩
    · -- the metric found under the name is the only one of that name
      rintro ⟨hm, hmem⟩
      obtain ⟨m', hm', heq⟩ := List.mem_map.mp hmem
      obtain rfl := List.inj_on_of_nodup_map hr.nodup_names (mem_base_of_selectMetrics h m' hm') hm heq
      exact hm'
  · have hordered := pairwise_idxOf_eraseDups (r.requested aliases)
    rwa [← hnames, List.pairwise_map] at hordered

/-- Among the metrics in groups, the one asked for first is the first one. -/
theorem WellFormed.head?_metrics (hr : r.WellFormed) (h : r.selectMetrics aliases = .ok metrics) :
    (TableMetrics.ofMetrics metrics).metrics.head?.map BaseMetric.name = (r.requested aliases).head? := by
  rw [TableMetrics.head?_metrics_ofMetrics, ← List.head?_map, hr.names_eq h]
  cases r.requested aliases with
  | nil => rfl
  | cons name names => rw [List.eraseDups_cons]; rfl

end Registry

open Registry Registry.Builtin

/-- Metrics are selected and grouped unless a name is unknown, the first of which is reported. They are the ones
asked for, or all, each once and in the order asked for, and the groups are those of their tables. -/
theorem Registry.metricsByTable_partitions {tables : List Table} {base : List BaseMetric}
    {calculated : List CalculatedMetric} {dimensions : List Dimension} {r : Registry}
    (hr : build tables base calculated dimensions = .ok r) (aliases : List String) :
    ((∃ f, r.selectMetrics aliases = .error f) ↔ ∃ name ∈ aliases, name ∉ r.base.map BaseMetric.name) ∧
    (∀ f, r.selectMetrics aliases = .error f ↔ ∃ name, r.FirstUnknown aliases name ∧ f = .unknownMetric name) ∧
    (∀ f, r.metricsByTable aliases = .error f ↔ r.selectMetrics aliases = .error f) ∧
    ((∀ name ∈ aliases, name ∈ r.base.map BaseMetric.name) → ∃ metrics groups,
      r.selectMetrics aliases = .ok metrics ∧ r.metricsByTable aliases = .ok groups ∧
      r.Selects aliases metrics ∧ (aliases = [] → metrics = r.base) ∧ groups.Partitions metrics ∧
      groups.metrics.head?.map BaseMetric.name = (r.requested aliases).head?) := by
  have hwell : r.WellFormed := wellFormed_of_build hr
  refine ⟨?_, fun f => selectMetrics_eq_error_iff, fun f => Except.map_eq_error_iff, fun hknown => ?_⟩
  · rw [← exists_firstUnknown_iff]
    simp only [selectMetrics_eq_error_iff]
    exact ⟨fun ⟨f, name, hname, _⟩ => ⟨name, hname⟩, fun ⟨name, hname⟩ => ⟨_, name, hname, rfl⟩⟩
  · cases hselected : r.selectMetrics aliases with
    | error f =>
        obtain ⟨name, hfirst, -⟩ := selectMetrics_eq_error_iff.mp hselected
        obtain ⟨name, hname, hunknown⟩ := exists_firstUnknown_iff.mp ⟨name, hfirst⟩
        exact absurd (hknown name hname) hunknown
    | ok metrics =>
        have hgroups : r.metricsByTable aliases = .ok (.ofMetrics metrics) := by
          rw [metricsByTable, hselected]
          rfl
        refine ⟨metrics, .ofMetrics metrics, rfl, hgroups, hwell.selects hselected, ?_,
          TableMetrics.partitions_ofMetrics metrics, hwell.head?_metrics hselected⟩
        rintro rfl
        cases hselected
        rfl

/-- Metrics of three tables that take turns, one of them asked for twice; and two unknown names. -/
theorem Registry.metricsByTable_partitions_builtin :
    let aliases := ["stock_value", "sales", "stock_value", "purchases", "units_sold", "stock_units"]
    build Builtin.tables Builtin.base Builtin.calculated Builtin.dimensions = .ok builtin ∧
    (∃ metrics groups, builtin.selectMetrics aliases = .ok metrics ∧
      builtin.metricsByTable aliases = .ok groups ∧
      builtin.Selects aliases metrics ∧ groups.Partitions metrics ∧
      groups.map (fun group => (group.1, group.2.map BaseMetric.name)) =
        [("inventory", ["stock_value", "stock_units"]), ("transactions", ["sales", "units_sold"]),
          ("purchases", ["purchases"])]) ∧
    builtin.metricsByTable ["sales", "profit", "sales", "loss"] = .error (.unknownMetric "profit") := by
  intro aliases
  obtain ⟨-, -, -, hselected⟩ := metricsByTable_partitions build_builtin aliases
  obtain ⟨-, hfails, hgroups, -⟩ := metricsByTable_partitions build_builtin ["sales", "profit", "sales", "loss"]
  obtain ⟨metrics, groups, hmetrics, hby, hselects, -, hpartitions, -⟩ := hselected (by decide +kernel)
  refine ⟨build_builtin, ⟨metrics, groups, hmetrics, hby, hselects, hpartitions, ?_⟩, ?_⟩
  · have heq : builtin.metricsByTable aliases = .ok
        [("inventory", [⟨"inventory", "stock_value", .avg, "stock_value"⟩,
            ⟨"inventory", "stock_quantity", .avg, "stock_units"⟩]),
          ("transactions", [⟨"transactions", "sales_price", .sum, "sales"⟩,
            ⟨"transactions", "quantity", .sum, "units_sold"⟩]),
          ("purchases", [⟨"purchases", "purchase_value", .sum, "purchases"⟩])] := by rfl
    rw [heq] at hby
    cases hby
    rfl
  · have hfirst : builtin.FirstUnknown ["sales", "profit", "sales", "loss"] "profit" :=
      ⟨["sales"], ["sales", "loss"], rfl, by decide +kernel, by decide +kernel⟩
    exact (hgroups _).mpr ((hfails _).mpr ⟨"profit", hfirst, rfl⟩)

end BalanceSheet
