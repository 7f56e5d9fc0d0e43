import BalanceSheet.Proofs.Formula.FixedPoint
import BalanceSheet.Proofs.Query.Success
import BalanceSheet.Registry.Diagnosis

/-!
The calculated metrics that a registry loses. A metric is reported for a dependency that nothing is named
after, or else as one that cannot be resolved; together these are the metrics that cannot be derived from all
base metrics. More base metrics derive more, so a metric that is reported has no place in any statement, and
any other has one wherever all base metrics are asked for.
-/

namespace BalanceSheet

namespace CalculatedMetric

variable {aliases aliases' : Aliases} {metrics : List CalculatedMetric} {name : String}

/-- With more references, more can be derived. -/
theorem Derivable.mono (haliases : ∀ name, aliases.has name = true → aliases'.has name = true)
    (h : Derivable aliases metrics name) : Derivable aliases' metrics name := by
  induction h with
  | of_dependencies hm _ ih =>
      refine .of_dependencies hm fun d hd hfree => ih d hd ?_
      rw [← Bool.not_eq_true] at hfree ⊢
      exact fun hhas => hfree (haliases d hhas)

theorem Derivable.mem_names (h : Derivable aliases metrics name) :
    name ∈ metrics.map CalculatedMetric.name := by
  cases h with
  | of_dependencies hm _ => exact List.mem_map_of_mem hm

/-- Where names are given once, a derivable metric rests on references and on derivable metrics. -/
theorem Derivable.dependencies (hnodup : (metrics.map CalculatedMetric.name).Nodup) {m : CalculatedMetric}
    (hm : m ∈ metrics) (h : Derivable aliases metrics m.name) :
    ∀ d ∈ m.dependencies, aliases.has d = true ∨ Derivable aliases metrics d := by
  intro d hd
  obtain ⟨k, hk⟩ := derivable_iff_exists.mp h
  have hinner := (derivableIn_succ_iff hnodup hm).mp hk.succ
  cases hhas : aliases.has d with
  | true => exact .inl rfl
  | false => exact .inr (derivable_iff_exists.mpr ⟨k, hinner d (mem_inner.mpr ⟨hd, hhas⟩)⟩)

/-- What is resolved is what can be derived. -/
theorem mem_names_resolveAll (hnodup : (metrics.map CalculatedMetric.name).Nodup) :
    name ∈ (resolveAll aliases metrics).map ResolvedMetric.name ↔ Derivable aliases metrics name := by
  have hderivable := (resolution_resolveAll hnodup aliases).derivable
  constructor
  · intro hname
    obtain ⟨e, he, rfl⟩ := List.mem_map.mp hname
    obtain ⟨m, -, hm, rfl⟩ := (hderivable e).mp he
    exact hm
  · intro h
    obtain ⟨m, hm, rfl⟩ := List.mem_map.mp h.mem_names
    exact List.mem_map.mpr ⟨m.resolve aliases, (hderivable _).mpr ⟨m, hm, h, rfl⟩, rfl⟩

end CalculatedMetric

namespace Registry

open CalculatedMetric

variable {r : Registry} {m : CalculatedMetric} {name : String}

/-- The metric is reported for a dependency that the registry does not know. -/
def ReportsMissing (r : Registry) (metric : String) : Prop :=
  ∃ dependency, .missingDependency metric dependency ∈ r.diagnose

/-- The metric is reported as one whose dependencies exist and that is not resolved all the same. -/
def ReportsUnresolvable (r : Registry) (metric : String) : Prop := .unresolvable metric ∈ r.diagnose

/-- The metric is reported as one that responses will lack. -/
def ReportsLost (r : Registry) (metric : String) : Prop := r.ReportsMissing metric ∨ r.ReportsUnresolvable metric

/-- A request for these metrics selects every base metric. -/
def SelectsAll (r : Registry) (names : List String) : Prop :=
  ∃ metrics, r.selectMetrics names = .ok metrics ∧ r.base ⊆ metrics

/-- The references where every base metric is asked for and no table is skipped. -/
def allAliases (r : Registry) : Aliases := .ofMetrics [] (.ofMetrics r.base)

theorem has_allAliases : r.allAliases.has name = true ↔ ∃ m ∈ r.base, name = m.name ∨ name = m.lastYearField := by
  rw [allAliases, Aliases.has_ofMetrics]
  simp only [TableMetrics.mem_metrics_ofMetrics]

theorem mem_knownMetrics : name ∈ r.knownMetrics ↔
    r.allAliases.has name = true ∨ name ∈ r.calculated.map CalculatedMetric.name := by
  rw [knownMetrics, List.mem_append, has_allAliases]
  simp

theorem mem_resolvable (hr : r.WellFormed) : name ∈ r.resolvable ↔ Derivable r.allAliases r.calculated name :=
  mem_names_resolveAll hr.calculatedNames

/-! ### What is reported -/

theorem missingDependency_mem_dependencyGaps {d other : String} :
    .missingDependency name d ∈ r.dependencyGaps m other ↔ m.name = name ∧ other = d ∧ d ∉ r.knownMetrics := by
  unfold dependencyGaps
  by_cases hknown : r.knownMetrics.contains other = true <;> by_cases huses : uses m.formula other = true <;>
    grind

theorem missingDependency_mem_diagnose {d : String} : .missingDependency name d ∈ r.diagnose ↔
    ∃ m ∈ r.calculated, m.name = name ∧ d ∈ m.dependencies ∧ d ∉ r.knownMetrics := by
  simp only [diagnose, declarationGaps, List.mem_append, List.mem_flatMap, List.mem_map, reduceCtorEq, and_false,
    exists_false, or_false, missingDependency_mem_dependencyGaps]
  grind

theorem unresolvable_not_mem_declarationGaps : .unresolvable name ∉ r.declarationGaps m := by
  simp only [declarationGaps, dependencyGaps, List.mem_append, List.mem_flatMap, List.mem_map]
  grind

theorem reportsUnresolvable_iff : r.ReportsUnresolvable name ↔
    ∃ m ∈ r.calculated, m.name = name ∧ (∀ d ∈ m.dependencies, d ∈ r.knownMetrics) ∧ name ∉ r.resolvable := by
  simp only [ReportsUnresolvable, diagnose, List.mem_append, List.mem_flatMap,
    unresolvable_not_mem_declarationGaps, and_false, exists_false, false_or, unresolvable, List.mem_map,
    List.mem_filter, Bool.and_eq_true, List.all_eq_true, List.contains_iff_mem]
  grind

/-- No metric is reported in both ways: one has a dependency that is unknown, the other has none. -/
theorem WellFormed.not_reportsMissing_and_unresolvable (hr : r.WellFormed) :
    ¬ (r.ReportsMissing name ∧ r.ReportsUnresolvable name) := by
  rintro ⟨⟨d, hmissing⟩, hunresolvable⟩
  obtain ⟨m, hm, rfl, hd, hunknown⟩ := missingDependency_mem_diagnose.mp hmissing
  obtain ⟨m', hm', hname, hknown, -⟩ := reportsUnresolvable_iff.mp hunresolvable
  obtain rfl := List.inj_on_of_nodup_map hr.calculatedNames hm' hm hname
  exact hunknown (hknown d hd)

/-- What is reported is what cannot be derived from all base metrics, through a cycle or for want of a
dependency. -/
theorem WellFormed.reportsLost_iff (hr : r.WellFormed) (hm : m ∈ r.calculated) :
    r.ReportsLost m.name ↔ ¬ Derivable r.allAliases r.calculated m.name := by
  constructor
  · rintro (⟨d, hmissing⟩ | hunresolvable) hderivable
    · obtain ⟨m', hm', hname, hd, hunknown⟩ := missingDependency_mem_diagnose.mp hmissing
      obtain rfl := List.inj_on_of_nodup_map hr.calculatedNames hm' hm hname
      apply hunknown
      rw [mem_knownMetrics]
      exact (hderivable.dependencies hr.calculatedNames hm d hd).imp_right Derivable.mem_names
    · obtain ⟨m', -, -, -, hunresolved⟩ := reportsUnresolvable_iff.mp hunresolvable
      exact hunresolved ((mem_resolvable hr).mpr hderivable)
  · intro hderivable
    by_cases hknown : ∀ d ∈ m.dependencies, d ∈ r.knownMetrics
    · have hunresolved : m.name ∉ r.resolvable := fun hmem => hderivable ((mem_resolvable hr).mp hmem)
      exact .inr (reportsUnresolvable_iff.mpr ⟨m, hm, rfl, hknown, hunresolved⟩)
    · simp only [not_forall] at hknown
      obtain ⟨d, hd, hunknown⟩ := hknown
      exact .inl ⟨d, missingDependency_mem_diagnose.mpr ⟨m, hm, rfl, hd, hunknown⟩⟩

/-! ### What statements have -/

/-- Metrics of the registry have references among those of all its metrics, whatever is skipped. -/
theorem has_allAliases_of_selected {names : List String} {groups : TableMetrics}
    (hgroups : r.metricsByTable names = .ok groups) {skipped : List String}
    (h : (Aliases.ofMetrics skipped groups).has name = true) : r.allAliases.has name = true := by
  obtain ⟨m, hm, hname⟩ := Aliases.has_ofMetrics.mp h
  exact has_allAliases.mpr ⟨m, mem_base_of_metricsByTable hgroups m hm, hname⟩

/-- Where all base metrics are selected, all references are there. -/
theorem has_ofMetrics_of_selectsAll {names : List String} (hall : r.SelectsAll names) {groups : TableMetrics}
    (hgroups : r.metricsByTable names = .ok groups) {skipped : List String} (h : r.allAliases.has name = true) :
    (Aliases.ofMetrics skipped groups).has name = true := by
  obtain ⟨metrics, hmetrics, hbase⟩ := hall
  obtain ⟨metrics', hmetrics', rfl⟩ := metricsByTable_ok hgroups
  cases hmetrics.symm.trans hmetrics'
  obtain ⟨m, hm, hname⟩ := has_allAliases.mp h
  exact Aliases.has_ofMetrics.mpr ⟨m, TableMetrics.mem_metrics_ofMetrics.mpr (hbase hm), hname⟩

/-- Without a name, all base metrics are selected. -/
theorem selectsAll_nil : r.SelectsAll [] := ⟨r.base, rfl, List.Subset.refl _⟩

end Registry

namespace Statement

open CalculatedMetric

variable {r : Registry} {name : String} {today : Date} {s : Statement}

theorem derivable_of_yoy (hr : r.WellFormed) {request : YoyRequest} (hs : Yoy.statement r request today = .ok s)
    (hname : name ∈ s.calculated) : Derivable r.allAliases r.calculated name := by
  obtain ⟨p, groups, w, -, hanswers, hrenders⟩ := Yoy.statement_ok hs
  rw [hrenders.calculated, hanswers.resolved, mem_names_resolveAll hr.calculatedNames] at hname
  exact hname.mono fun _ => Registry.has_allAliases_of_selected hanswers.metrics

theorem derivable_of_grouped (hr : r.WellFormed) {request : GroupedRequest}
    (hs : Grouped.statement r request today = .ok (some s)) (hname : name ∈ s.calculated) :
    Derivable r.allAliases r.calculated name := by
  obtain ⟨p, d, groups, w, -, hanswers, hrenders⟩ := Grouped.statement_some_ok hs
  rw [hrenders.calculated, hanswers.resolved, mem_names_resolveAll hr.calculatedNames] at hname
  exact hname.mono fun _ => Registry.has_allAliases_of_selected hanswers.metrics

/-- With all base metrics, everything that can be derived is computed. -/
theorem mem_calculated_of_selectsAll (hr : r.WellFormed) {request : YoyRequest}
    (hall : r.SelectsAll request.metrics) (hs : Yoy.statement r request today = .ok s)
    (h : Derivable r.allAliases r.calculated name) : name ∈ s.calculated := by
  obtain ⟨p, groups, w, -, hanswers, hrenders⟩ := Yoy.statement_ok hs
  rw [hrenders.calculated, hanswers.resolved, mem_names_resolveAll hr.calculatedNames]
  exact h.mono fun _ => Registry.has_ofMetrics_of_selectsAll hall hanswers.metrics

end Statement

open Registry Registry.Builtin

/-- Exactly the metrics that are reported, each in one way, are absent wherever all base metrics are asked for,
which can be done; and they are absent everywhere else too. -/
theorem Registry.reported_iff_absent {tables : List Table} {base : List BaseMetric}
    {calculated : List CalculatedMetric} {dimensions : List Dimension} {r : Registry}
    (hr : build tables base calculated dimensions = .ok r) :
    (∃ request today s, r.SelectsAll request.metrics ∧ Yoy.statement r request today = .ok s) ∧
    (∀ m ∈ r.calculated,
      (r.ReportsLost m.name ↔ ∀ (request : YoyRequest) (today : Date) (s : Statement),
        r.SelectsAll request.metrics → Yoy.statement r request today = .ok s → m.name ∉ s.calculated) ∧
      (¬ r.ReportsLost m.name → ∀ (request : YoyRequest) (today : Date) (s : Statement),
        r.SelectsAll request.metrics → Yoy.statement r request today = .ok s → m.name ∈ s.calculated) ∧
      (r.ReportsLost m.name →
        (∀ (request : YoyRequest) (today : Date) (s : Statement),
          Yoy.statement r request today = .ok s → m.name ∉ s.calculated) ∧
        ∀ (request : GroupedRequest) (today : Date) (s : Statement),
          Grouped.statement r request today = .ok (some s) → m.name ∉ s.calculated)) ∧
    ∀ name, ¬ (r.ReportsMissing name ∧ r.ReportsUnresolvable name) := by
  have hwell : r.WellFormed := wellFormed_of_build hr
  have hasked : ∃ request today s, r.SelectsAll request.metrics ∧ Yoy.statement r request today = .ok s := by
    have hall : r.metricsByTable [] = .ok (.ofMetrics r.base) := rfl
    obtain ⟨s, -, hs, -⟩ := Yoy.exists_plan hwell hall
    exact ⟨⟨[], []⟩, spring, s, selectsAll_nil, hs⟩
  refine ⟨hasked, ?_, fun _ => hwell.not_reportsMissing_and_unresolvable⟩
  intro m hm
  rw [hwell.reportsLost_iff hm]
  refine ⟨⟨?_, ?_⟩, ?_, ?_⟩
  · intro hlost request today s _ hs hmem
    exact hlost (Statement.derivable_of_yoy hwell hs hmem)
  · intro habsent hderivable
    obtain ⟨request, today, s, hall, hs⟩ := hasked
    exact habsent request today s hall hs (Statement.mem_calculated_of_selectsAll hwell hall hs hderivable)
  · intro hfound request today s hall hs
    exact Statement.mem_calculated_of_selectsAll hwell hall hs (not_not.mp hfound)
  · intro hlost
    constructor
    · intro request today s hs hmem
      exact hlost (Statement.derivable_of_yoy hwell hs hmem)
    · intro request today s hs hmem
      exact hlost (Statement.derivable_of_grouped hwell hs hmem)

/-- The balance sheet with two metrics that refer to each other, one that rests on them, and one that rests on
a metric that is not there. -/
def Registry.Builtin.gapped : Registry :=
  { builtin with calculated := Builtin.calculated ++ CalculatedMetric.circular ++
      [ratio "beyond" "ahead" "sales", ratio "return_rate" "returns" "sales"] }

/-- The cycle and what rests on it are reported as unresolvable and the last metric for its dependency, and
none of them is in a statement for all base metrics; the stock turnover is in it and is not reported. -/
theorem Registry.reported_gapped :
    build gapped.tables gapped.base gapped.calculated gapped.dimensions = .ok gapped ∧
    gapped.ReportsUnresolvable "ahead" ∧ gapped.ReportsUnresolvable "beyond" ∧
    gapped.ReportsMissing "return_rate" ∧ ¬ gapped.ReportsLost "stock_turnover" ∧
    ∃ s, Yoy.statement gapped ⟨[], plainFilters⟩ spring = .ok s ∧ "stock_turnover" ∈ s.calculated ∧
      "ahead" ∉ s.calculated ∧ "beyond" ∉ s.calculated ∧ "return_rate" ∉ s.calculated := by
  have hbuild : build gapped.tables gapped.base gapped.calculated gapped.dimensions = .ok gapped :=
    build_of_validate (by decide +kernel)
  have hgaps : .unresolvable "ahead" ∈ gapped.diagnose ∧ .unresolvable "beyond" ∈ gapped.diagnose ∧
      .missingDependency "return_rate" "returns" ∈ gapped.diagnose := by decide +kernel
  obtain ⟨hahead, hbeyond, hgap⟩ := hgaps
  have hmissing : gapped.ReportsMissing "return_rate" := ⟨"returns", hgap⟩
  obtain ⟨-, hreported, -⟩ := reported_iff_absent hbuild
  obtain ⟨s, hs, hcomputed⟩ := Except.exists_of_map (f := fun s => s.calculated.contains "stock_turnover")
    (e := Yoy.statement gapped ⟨[], plainFilters⟩ spring) (b := true) (by decide +kernel)
  have hturnover : "stock_turnover" ∈ s.calculated := by simpa using hcomputed
  have habsent {m : CalculatedMetric} (hm : m ∈ gapped.calculated) (hlost : gapped.ReportsLost m.name) :
      m.name ∉ s.calculated := ((hreported m hm).2.2 hlost).1 _ _ s hs
  refine ⟨hbuild, hahead, hbeyond, hmissing, ?_, s, hs, hturnover, ?_, ?_, ?_⟩
  · intro hlost
    exact habsent (m := ratio "stock_turnover" "sales" "stock_value") (by decide) hlost hturnover
  · exact habsent (m := percentage "ahead" "behind" "sales") (by decide) (.inr hahead)
  · exact habsent (m := ratio "beyond" "ahead" "sales") (by decide) (.inr hbeyond)
  · exact habsent (m := ratio "return_rate" "returns" "sales") (by decide) (.inl hmissing)

end BalanceSheet
