import BalanceSheet.Proofs.Query.Capture
import BalanceSheet.Proofs.Query.Columns
import BalanceSheet.Proofs.Query.PeriodValues
import BalanceSheet.Proofs.Query.Success

/-!
Metrics in another order, or asked for more than once. A request selects each metric once, so the order and the
repetition of the names only move the tables and the metrics of each. Which tables take part, which references there
are and whether every condition can be put to its table are decided by which metrics are selected; and every table
brings the same values, so even the values stay in their order.
-/

namespace BalanceSheet

/-! ### Selections of the same metrics -/

/-- The same tables and the same metrics, each as often. -/
structure TableMetrics.Reorders (groups groups' : TableMetrics) : Prop where
  tables : (groups.map Prod.fst).Perm (groups'.map Prod.fst)
  metrics : groups.metrics.Perm groups'.metrics

theorem TableMetrics.reorders_ofMetrics {ms ms' : List BaseMetric} (h : ms.Perm ms') :
    (ofMetrics ms).Reorders (ofMetrics ms') := by
  constructor
  · rw [map_fst_ofMetrics, map_fst_ofMetrics, List.perm_ext_iff_of_nodup (nodup_eraseDups _) (nodup_eraseDups _)]
    intro t
    rw [List.mem_eraseDups, List.mem_eraseDups, (h.map BaseMetric.table).mem_iff]
  · exact (perm_metrics_ofMetrics ms).trans (h.trans (perm_metrics_ofMetrics ms').symm)

namespace Registry

variable {r : Registry} {names names' : List String}

theorem exists_selectMetrics_of_mem_iff (h : ∀ name, name ∈ names ↔ name ∈ names') {metrics : List BaseMetric}
    (hmetrics : r.selectMetrics names = .ok metrics) :
    ∃ metrics', r.selectMetrics names' = .ok metrics' ∧ metrics.Perm metrics' := by
  -- Without names all metrics are selected, so both lists have to be empty or neither.
  have hempty : names.isEmpty = names'.isEmpty := by
    rw [Bool.eq_iff_iff, List.isEmpty_iff, List.isEmpty_iff, List.eq_nil_iff_forall_not_mem,
      List.eq_nil_iff_forall_not_mem]
    simp only [h]
  have hdistinct : names'.eraseDups.Perm names.eraseDups := by
    rw [List.perm_ext_iff_of_nodup (nodup_eraseDups _) (nodup_eraseDups _)]
    intro name
    rw [List.mem_eraseDups, List.mem_eraseDups, h]
  rw [selectMetrics] at hmetrics ⊢
  rw [← hempty]
  split at hmetrics
  case isTrue hnames => exact ⟨metrics, by rw [if_pos hnames, hmetrics], .refl _⟩
  case isFalse hnames =>
    obtain ⟨metrics', hmetrics', hperm⟩ := List.perm_comp_forall₂ hdistinct (Except.mapM_ok hmetrics)
    exact ⟨metrics', by rw [if_neg hnames, Except.mapM_of_forall₂ hmetrics'], hperm.symm⟩

theorem exists_metricsByTable_of_mem_iff (h : ∀ name, name ∈ names ↔ name ∈ names') {groups : TableMetrics}
    (hgroups : r.metricsByTable names = .ok groups) :
    ∃ groups', r.metricsByTable names' = .ok groups' ∧ groups.Reorders groups' := by
  obtain ⟨metrics, hmetrics, rfl⟩ := metricsByTable_ok hgroups
  obtain ⟨metrics', hmetrics', hperm⟩ := exists_selectMetrics_of_mem_iff h hmetrics
  refine ⟨.ofMetrics metrics', ?_, TableMetrics.reorders_ofMetrics hperm⟩
  rw [metricsByTable, hmetrics']
  rfl

end Registry

/-! ### Sources of the same tables -/

namespace TableMetrics.Reorders

variable {r : Registry} {w : Windows} {dimension : Option Dimension} {groups groups' : TableMetrics}

theorem symm (h : groups.Reorders groups') : groups'.Reorders groups := ⟨h.tables.symm, h.metrics.symm⟩

theorem exists_group (h : groups.Reorders groups') {group : String × List BaseMetric} (hgroup : group ∈ groups') :
    ∃ group' ∈ groups, group'.1 = group.1 :=
  List.mem_map.mp (h.tables.mem_iff.mpr (List.mem_map_of_mem hgroup))

theorem fit (h : groups.Reorders groups') (hfit : Sources.Fit r w dimension groups) :
    Sources.Fit r w dimension groups' := by
  intro group hgroup
  obtain ⟨group', hgroup', heq⟩ := h.exists_group hgroup
  exact heq ▸ hfit group' hgroup'

theorem exists_takesPart (h : groups.Reorders groups')
    (hpart : ∃ group ∈ groups, Sources.takesPart r w dimension group.1 = true) :
    ∃ group ∈ groups', Sources.takesPart r w dimension group.1 = true := by
  obtain ⟨group, hgroup, hpart⟩ := hpart
  obtain ⟨group', hgroup', heq⟩ := h.symm.exists_group hgroup
  exact ⟨group', hgroup', heq ▸ hpart⟩

/-- The names with references are the same, so the same calculated metrics are resolved. -/
theorem names_resolveAll (h : groups.Reorders groups') (skipped skipped' : List String)
    (metrics : List CalculatedMetric) :
    (CalculatedMetric.resolveAll (Aliases.ofMetrics skipped groups) metrics).map ResolvedMetric.name =
      (CalculatedMetric.resolveAll (Aliases.ofMetrics skipped' groups') metrics).map ResolvedMetric.name :=
  CalculatedMetric.names_resolveAll_congr metrics
    (Aliases.has_eq_of_mem_metrics_iff (fun _ => h.metrics.mem_iff) skipped skipped')

theorem map_name_outputs (h : groups.Reorders groups') {skipped skipped' : List String}
    (hskipped : skipped.Perm skipped') (read : Reference → OutputExpr) :
    ((Output.ofMetrics read skipped groups).map Output.name).Perm
      ((Output.ofMetrics read skipped' groups').map Output.name) := by
  have hcolumns : BaseMetric.columns skipped = BaseMetric.columns skipped' := by
    funext m
    simp only [BaseMetric.columns, hskipped.contains_eq]
  rw [Output.map_name_ofMetrics, Output.map_name_ofMetrics, hcolumns]
  exact h.metrics.flatMap_right _

end TableMetrics.Reorders

namespace Sources.Covers

variable {r : Registry} {w : Windows} {dimension : Option Dimension} {groups groups' : TableMetrics} {s s' : Sources}

theorem skipped_perm (hgroups : groups.Reorders groups') (h : s.Covers r w dimension groups)
    (h' : s'.Covers r w dimension groups') : s.skipped.Perm s'.skipped := by
  have hfilter (groups : TableMetrics) : (groups.filter fun group => !takesPart r w dimension group.1).map Prod.fst =
      (groups.map Prod.fst).filter fun t => !takesPart r w dimension t := by
    rw [List.filter_map]
    rfl
  rw [h.skipped, h'.skipped, hfilter, hfilter]
  exact hgroups.tables.filter _

theorem tables_perm (hgroups : groups.Reorders groups') (h : s.Covers r w dimension groups)
    (h' : s'.Covers r w dimension groups') :
    ((groups.map Prod.fst).filter fun t => !s.skipped.contains t).Perm
      ((groups'.map Prod.fst).filter fun t => !s'.skipped.contains t) := by
  have hskipped : (fun t => !s.skipped.contains t) = fun t => !s'.skipped.contains t := by
    funext t
    rw [(h.skipped_perm hgroups h').contains_eq]
  rw [hskipped]
  exact hgroups.tables.filter _

theorem names_perm (hgroups : groups.Reorders groups') (h : s.Covers r w dimension groups)
    (h' : s'.Covers r w dimension groups') : (s.all.map Source.name).Perm (s'.all.map Source.name) := by
  rw [h.names, h'.names]
  exact (h.tables_perm hgroups h').flatMap_right _

/-- Every table brings the same values, so only the number of tables counts. -/
theorem values_eq (hgroups : groups.Reorders groups') (h : s.Covers r w dimension groups)
    (h' : s'.Covers r w dimension groups') : s.params.map Param.value = s'.params.map Param.value := by
  rw [h.values, h'.values, List.flatMap_def, List.flatMap_def, List.map_const', List.map_const',
    (h.tables_perm hgroups h').length_eq]

end Sources.Covers

/-! ### Statements of the same content -/

/-- Two statements, written out, with the same expressions and columns by name, the same tables skipped, metrics
calculated and values. -/
structure Statement.SameContent (select select' : Select) (columns columns' : List String) (s s' : Statement) :
    Prop where
  sql : s.sql = select.text
  sql' : s'.sql = select'.text
  skipped : s.skipped = s'.skipped
  calculated : s.calculated = s'.calculated
  values : s.params.toList.map Param.value = s'.params.toList.map Param.value
  ctes : (select.ctes.map Prod.fst).Perm (select'.ctes.map Prod.fst)
  selects : select.Selects columns
  selects' : select'.Selects columns'
  columns : columns.Perm columns'

/-- The statements of two requests are written out from their plans, with the same content. -/
def Yoy.SameContent (r : Registry) (today : Date) (q q' : YoyRequest) (s s' : Statement) : Prop :=
  ∃ p p', plan r q today = .ok p ∧ plan r q' today = .ok p' ∧
    s.SameContent p.toSelect p'.toSelect (p.outputs.map Output.name) (p'.outputs.map Output.name) s'

def Grouped.SameContent (r : Registry) (today : Date) (q q' : GroupedRequest) (s s' : Statement) : Prop :=
  ∃ p p', plan r q today = .ok (some p) ∧ plan r q' today = .ok (some p') ∧
    s.SameContent p.toSelect p'.toSelect (p.outputs.map Output.name) (p'.outputs.map Output.name) s'

namespace Yoy

variable {r : Registry} {today : Date} {q : YoyRequest} {metrics' : List String}

theorem exists_statement_of_mem_iff (h : ∀ name, name ∈ q.metrics ↔ name ∈ metrics')
    (hs : ∃ s, statement r q today = .ok s) : ∃ s, statement r { q with metrics := metrics' } today = .ok s := by
  obtain ⟨groups, w, hgroups, hw, hfit⟩ := exists_statement_iff.mp hs
  obtain ⟨groups', hgroups', hreorders⟩ := Registry.exists_metricsByTable_of_mem_iff h hgroups
  exact exists_statement_iff.mpr ⟨groups', w, hgroups', hw, hreorders.fit hfit⟩

theorem sameContent_of_mem_iff (h : ∀ name, name ∈ q.metrics ↔ name ∈ metrics') {s s' : Statement}
    (hs : statement r q today = .ok s) (hs' : statement r { q with metrics := metrics' } today = .ok s') :
    SameContent r today q { q with metrics := metrics' } s s' := by
  obtain ⟨p, groups, w, hplan, hanswers, hrenders⟩ := statement_ok hs
  obtain ⟨p', groups', w', hplan', hanswers', hrenders'⟩ := statement_ok hs'
  cases hanswers.windows.symm.trans hanswers'.windows
  obtain ⟨_, hgroups, hreorders⟩ := Registry.exists_metricsByTable_of_mem_iff h hanswers.metrics
  cases hgroups.symm.trans hanswers'.metrics
  have hskipped : p.sources.skipped.Perm p'.sources.skipped :=
    hanswers.sources.skipped_perm hreorders hanswers'.sources
  have hresolved : p.resolved.map ResolvedMetric.name = p'.resolved.map ResolvedMetric.name := by
    rw [hanswers.resolved, hanswers'.resolved]
    exact hreorders.names_resolveAll _ _ _
  refine ⟨p, p', hplan, hplan', hrenders.sql, hrenders'.sql, ?_, ?_, ?_, ?_, ?_, ?_, ?_⟩
  · rw [hrenders.skipped, hrenders'.skipped]
    exact Sorted.names_eq_of_mem_iff fun _ => hskipped.mem_iff
  · rw [hrenders.calculated, hrenders'.calculated, hresolved]
  · rw [hrenders.params, hrenders'.params]
    exact hanswers.sources.values_eq hreorders hanswers'.sources
  · rw [p.map_fst_ctes, p'.map_fst_ctes]
    exact hanswers.sources.names_perm hreorders hanswers'.sources
  · exact Output.selects p.outputs rfl
  · exact Output.selects p'.outputs rfl
  · rw [hanswers.outputs, hanswers'.outputs, List.map_append, List.map_append, Output.map_name_ofResolved,
      Output.map_name_ofResolved, hresolved]
    exact (hreorders.map_name_outputs hskipped _).append_right _

end Yoy

namespace Grouped

variable {r : Registry} {today : Date} {q : GroupedRequest} {metrics' : List String}

theorem Plan.map_name_columnsOf {groups groups' : TableMetrics} (hgroups : groups.Reorders groups')
    {skipped skipped' : List String} (hskipped : skipped.Perm skipped') {resolved resolved' : List ResolvedMetric}
    (hresolved : resolved.map ResolvedMetric.name = resolved'.map ResolvedMetric.name) (named : Bool) :
    ((columnsOf named skipped groups resolved).map Output.name).Perm
      ((columnsOf named skipped' groups' resolved').map Output.name) := by
  have hmetrics := hgroups.map_name_outputs hskipped .valueOrZero
  simp only [columnsOf, List.map_append, Output.map_name_ofResolved, hresolved]
  exact ((hmetrics.append_left _).append_right _).append_right _

theorem exists_answer_of_mem_iff (h : ∀ name, name ∈ q.metrics ↔ name ∈ metrics')
    (ho : ∃ o, statement r q today = .ok o) : ∃ o, statement r { q with metrics := metrics' } today = .ok o := by
  obtain ⟨d, groups, limit, w, hd, hgroups, hlimit, hw, hfit, hnames⟩ := exists_answer_iff.mp ho
  obtain ⟨groups', hgroups', hreorders⟩ := Registry.exists_metricsByTable_of_mem_iff h hgroups
  exact exists_answer_iff.mpr ⟨d, groups', limit, w, hd, hgroups', hlimit, hw, hreorders.fit hfit,
    fun hpart => hnames (hreorders.symm.exists_takesPart hpart)⟩

theorem eq_none_iff_of_mem_iff (h : ∀ name, name ∈ q.metrics ↔ name ∈ metrics') {o o' : Option Statement}
    (ho : statement r q today = .ok o) (ho' : statement r { q with metrics := metrics' } today = .ok o') :
    o = none ↔ o' = none := by
  obtain ⟨d, groups, w, hd, hgroups, hw, hnone, -⟩ := statement_ok ho
  obtain ⟨d', groups', w', hd', hgroups', hw', hnone', -⟩ := statement_ok ho'
  cases hd.symm.trans hd'
  cases hw.symm.trans hw'
  obtain ⟨_, hgroups'', hreorders⟩ := Registry.exists_metricsByTable_of_mem_iff h hgroups
  cases hgroups''.symm.trans hgroups'
  have hpart : (∃ group ∈ groups, Sources.takesPart r w (some d) group.1 = true) ↔
      ∃ group ∈ groups', Sources.takesPart r w (some d) group.1 = true :=
    ⟨hreorders.exists_takesPart, hreorders.symm.exists_takesPart⟩
  rw [hnone, hnone']
  simpa using not_congr hpart

theorem sameContent_of_mem_iff (h : ∀ name, name ∈ q.metrics ↔ name ∈ metrics') {s s' : Statement}
    (hs : statement r q today = .ok (some s))
    (hs' : statement r { q with metrics := metrics' } today = .ok (some s')) :
    SameContent r today q { q with metrics := metrics' } s s' := by
  obtain ⟨p, d, groups, w, hplan, hanswers, hrenders⟩ := statement_some_ok hs
  obtain ⟨p', d', groups', w', hplan', hanswers', hrenders'⟩ := statement_some_ok hs'
  cases hanswers.windows.symm.trans hanswers'.windows
  cases hanswers.dimension.symm.trans hanswers'.dimension
  obtain ⟨_, hgroups, hreorders⟩ := Registry.exists_metricsByTable_of_mem_iff h hanswers.metrics
  cases hgroups.symm.trans hanswers'.metrics
  have hskipped : p.sources.skipped.Perm p'.sources.skipped :=
    hanswers.sources.skipped_perm hreorders hanswers'.sources
  have hresolved : p.resolved.map ResolvedMetric.name = p'.resolved.map ResolvedMetric.name := by
    rw [hanswers.resolved, hanswers'.resolved]
    exact hreorders.names_resolveAll _ _ _
  have hnamed : p.names.isSome = p'.names.isSome := by rw [hanswers.named, hanswers'.named]
  have hctes : (p.toSelect.ctes.map Prod.fst).Perm (p'.toSelect.ctes.map Prod.fst) := by
    -- Both plans have the names of groups or neither has.
    have hgroupSources : p.groupSources = p'.groupSources := by
      unfold Plan.groupSources
      cases hnames : p.names <;> cases hnames' : p'.names <;> simp_all
    rw [p.map_fst_ctes, p'.map_fst_ctes, hgroupSources]
    exact (hanswers.sources.names_perm hreorders hanswers'.sources).append_right _
  refine ⟨p, p', hplan, hplan', hrenders.sql, hrenders'.sql, ?_, ?_, ?_, hctes, ?_, ?_, ?_⟩
  · rw [hrenders.skipped, hrenders'.skipped]
    exact Sorted.names_eq_of_mem_iff fun _ => hskipped.mem_iff
  · rw [hrenders.calculated, hrenders'.calculated, hresolved]
  · rw [hrenders.params, hrenders'.params, Plan.params, Plan.params, List.map_append, List.map_append,
      hanswers.values_names, hanswers'.values_names, hanswers.sources.values_eq hreorders hanswers'.sources]
    simp only [hctes.mem_iff]
  · exact Output.selects p.outputs rfl
  · exact Output.selects p'.outputs rfl
  · rw [hanswers.outputs, hanswers'.outputs, hnamed]
    exact Plan.map_name_columnsOf hreorders hskipped hresolved _

end Grouped

/-- The order and the repetition of metrics do not matter: both requests are refused, both are without groups, or both
are answered, and then by statements of the same content. -/
theorem Statement.sameContent_of_sameMetrics (r : Registry) (today : Date) :
    (∀ (q : YoyRequest) (metrics' : List String), (∀ name, name ∈ q.metrics ↔ name ∈ metrics') →
      Option.Rel (Yoy.SameContent r today q { q with metrics := metrics' })
        (Yoy.statement r q today).toOption (Yoy.statement r { q with metrics := metrics' } today).toOption) ∧
    ∀ (q : GroupedRequest) (metrics' : List String), (∀ name, name ∈ q.metrics ↔ name ∈ metrics') →
      Option.Rel (Option.Rel (Grouped.SameContent r today q { q with metrics := metrics' }))
        (Grouped.statement r q today).toOption (Grouped.statement r { q with metrics := metrics' } today).toOption := by
  constructor
  · intro q metrics' h
    refine Except.rel_toOption ⟨Yoy.exists_statement_of_mem_iff h, fun hs => ?_⟩ fun s s' =>
      Yoy.sameContent_of_mem_iff h
    exact Yoy.exists_statement_of_mem_iff (q := { q with metrics := metrics' }) (fun name => (h name).symm) hs
  · intro q metrics' h
    refine Except.rel_toOption ⟨Grouped.exists_answer_of_mem_iff h, fun ho => ?_⟩ fun o o' ho ho' => ?_
    · exact Grouped.exists_answer_of_mem_iff (q := { q with metrics := metrics' }) (fun name => (h name).symm) ho
    · refine rel_of_eq_none_iff (Grouped.eq_none_iff_of_mem_iff h ho ho') ?_
      rintro s rfl s' rfl
      exact Grouped.sameContent_of_mem_iff h ho ho'

section

open Registry Registry.Builtin

/-- Metrics of two tables, from the last to the first and one of them twice. -/
theorem Statement.sameContent_builtin :
    (∀ name, name ∈ ["sales", "stock_value"] ↔ name ∈ ["stock_value", "sales", "stock_value"]) ∧
    (∃ s s', Yoy.statement .builtin (totals plainFilters) spring = .ok s ∧
      Yoy.statement .builtin ⟨["stock_value", "sales", "stock_value"], plainFilters⟩ spring = .ok s' ∧
      Yoy.SameContent .builtin spring (totals plainFilters) ⟨["stock_value", "sales", "stock_value"], plainFilters⟩
        s s') ∧
    ∃ s s', Grouped.statement .builtin (bySeller plainFilters "sales") spring = .ok (some s) ∧
      Grouped.statement .builtin
        { bySeller plainFilters "sales" with metrics := ["stock_value", "sales", "stock_value"] } spring =
          .ok (some s') ∧
      Grouped.SameContent .builtin spring (bySeller plainFilters "sales")
        { bySeller plainFilters "sales" with metrics := ["stock_value", "sales", "stock_value"] } s s' := by
  have hsame : ∀ name, name ∈ ["sales", "stock_value"] ↔ name ∈ ["stock_value", "sales", "stock_value"] := by
    intro name
    simp [or_comm, or_left_comm]
  obtain ⟨hyoy, hgrouped⟩ := sameContent_of_sameMetrics .builtin spring
  refine ⟨hsame, ?_, ?_⟩
  · obtain ⟨s, hs⟩ := Except.exists_of_isOk
      (e := Yoy.statement .builtin (totals plainFilters) spring) (by decide +kernel)
    obtain ⟨s', hs', hcontent⟩ := Except.exists_of_rel_toOption (hyoy (totals plainFilters) _ hsame) hs
    exact ⟨s, s', hs, hs', hcontent⟩
  · have hsome : ((Grouped.statement .builtin (bySeller plainFilters "sales") spring).toOption.join.map fun _ => ()) =
        some () := by decide +kernel
    obtain ⟨s, hs, -⟩ := Except.exists_some_of_map hsome
    obtain ⟨o', ho', hrel⟩ := Except.exists_of_rel_toOption (hgrouped (bySeller plainFilters "sales") _ hsame) hs
    cases hrel with
    | some hcontent => exact ⟨s, _, hs, ho', hcontent⟩

end

end BalanceSheet
