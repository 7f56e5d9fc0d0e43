import BalanceSheet.Proofs.Query.Closure
import BalanceSheet.Proofs.Query.Success
import BalanceSheet.Proofs.Registry.Declaration

/-!
Names of expressions beside names of tables. The expressions in the WITH of a statement are named apart from
each other, but tables and columns may have any identifier for a name: a table that is named after a source
of another one is read as that source, and a column that is named as the group key is grouped by in its
place. Statements are free of both exactly if the registry has no such names beside its metrics and
dimensions.
-/

namespace BalanceSheet

/-- No table is named after a source of this one. -/
def Registry.SourcesFree (r : Registry) (table : String) : Prop :=
  ∀ period, Source.nameOf table period ∉ r.tables.map Table.name

/-- The table can be grouped by the dimension with no table named after an expression, and with none read
that has a column named as the group key. -/
structure Registry.GroupsFree (r : Registry) (d : Dimension) (t : Table) : Prop where
  sources : r.SourcesFree t.name
  keys : Grouped.groupKeys ∉ r.tables.map Table.name
  key : t.hasColumn groupId = false
  names : ∀ c ∈ d.nameColumn, Grouped.groupNames ∉ r.tables.map Table.name ∧
    ∀ t', r.table? c.table = some t' → t'.hasColumn groupId = false

/-- No expression in the WITH of the statement is named after a table; so each, but for the one with the keys
of groups, reads a table of the registry and no other expression, and what it groups by is no column of the
table. -/
structure Select.Uncaptured (r : Registry) (bodies : List (String × Select)) (s : Select) : Prop where
  free : ∀ name ∈ s.ctes.map Prod.fst, name ∉ r.tables.map Table.name
  written : ∀ cte ∈ s.ctes, cte.1 = Grouped.groupKeys ∨ ∃ body, (cte.1, body) ∈ bodies ∧ cte.2 = body.text
  reads : ∀ body ∈ bodies, ∃ t ∈ r.tables, body.2.source = some t.name ∧ t.name ∉ s.ctes.map Prod.fst ∧
    (groupId ∈ body.2.groupBy → t.hasColumn groupId = false)

/-- A table that is read under the key has no column named as the key. -/
theorem Select.Uncaptured.hasColumn_groupId {r : Registry} (hr : r.WellFormed) {bodies : List (String × Select)}
    {s : Select} (h : s.Uncaptured r bodies) {body : String × Select} (hbody : body ∈ bodies) {name : String}
    {t : Table} (ht : r.table? name = some t) (hsource : body.2.source = some t.name)
    (hgroup : groupId ∈ body.2.groupBy) : t.hasColumn groupId = false := by
  obtain ⟨t', hmem, hsource', -, hcolumn⟩ := h.reads body hbody
  have hname : t'.name = t.name := Option.some.inj (hsource'.symm.trans hsource)
  rw [← List.inj_on_of_nodup_map hr.tableNames hmem (List.mem_of_find?_eq_some ht) hname]
  exact hcolumn hgroup

/-- The sources with their names. -/
def Sources.bodies (s : Sources) : List (String × Select) :=
  s.all.map fun source => (source.name, source.toSelect)

def Yoy.Plan.bodies (p : Plan) : List (String × Select) := p.sources.bodies

/-- The sources, and where the names of groups come from. -/
def Grouped.Plan.bodies (p : Plan) : List (String × Select) :=
  p.sources.bodies ++ p.names.toList.map fun names => (groupNames, names.toSelect)

/-- Every statement for one row is written out from a plan with `P`. -/
def Yoy.AllPlans (r : Registry) (P : Plan → Prop) : Prop :=
  ∀ (request : YoyRequest) (today : Date) (s : Statement), statement r request today = .ok s →
    ∃ p, plan r request today = .ok p ∧ s.sql = p.toSelect.text ∧ P p

/-- Every statement for groups is written out from a plan with `P`. -/
def Grouped.AllPlans (r : Registry) (P : Plan → Prop) : Prop :=
  ∀ (request : GroupedRequest) (today : Date) (s : Statement), statement r request today = .ok (some s) →
    ∃ p, plan r request today = .ok (some p) ∧ s.sql = p.toSelect.text ∧ P p

/-! ### Sources -/

theorem Source.groupId_mem_groupBy {s : Source} : groupId ∈ s.toSelect.groupBy ↔ s.key.isSome = true := by
  cases hkey : s.key <;> simp [toSelect, hkey]

namespace Sources

variable {r : Registry} {w : Windows} {dimension : Option Dimension} {s : Sources} {ms : List BaseMetric}

theorem mem_bodies {body : String × Select} :
    body ∈ s.bodies ↔ ∃ source ∈ s.all, (source.name, source.toSelect) = body :=
  List.mem_map

theorem exists_mem_bodies {cte : String × String} (h : cte ∈ s.ctes) :
    ∃ body, (cte.1, body) ∈ s.bodies ∧ cte.2 = body.text := by
  obtain ⟨source, hsource, rfl⟩ := List.mem_map.mp h
  exact ⟨source.toSelect, mem_bodies.mpr ⟨source, hsource, rfl⟩, rfl⟩

/-- Each source is named after the table of a requested metric and reads it; with a dimension, this one
applies to the table. -/
theorem Covers.reads_table (h : s.Covers r w dimension (TableMetrics.ofMetrics ms)) {source : Source}
    (hsource : source ∈ s.all) : ∃ m ∈ ms, ∃ t, r.table? m.table = some t ∧
      (∃ period, source.name = Source.nameOf t.name period) ∧ source.table = t.name ∧
      source.key.isSome = dimension.isSome ∧ ∀ d ∈ dimension, d.appliesTo t = true := by
  obtain ⟨group, hgroup, t, cs, period, ht, hreads⟩ := h.reads hsource
  obtain ⟨m, hm, htable⟩ := TableMetrics.exists_of_mem_ofMetrics hgroup
  refine ⟨m, hm, t, htable ▸ ht, ⟨period, hreads.name⟩, hreads.table, hreads.keyed, ?_⟩
  rintro d rfl
  rw [← d.isSome_keyExpr? t period]
  have hkeyed := hreads.keyed
  rwa [hreads.key] at hkeyed

/-- What is free for every table that takes part is free of the names of its sources. -/
theorem Covers.names_free (h : s.Covers r w dimension (TableMetrics.ofMetrics ms))
    (hfree : ∀ m ∈ ms, ∀ t, r.table? m.table = some t → (∀ d ∈ dimension, d.appliesTo t = true) →
      r.SourcesFree t.name) :
    ∀ name ∈ s.all.map Source.name, name ∉ r.tables.map Table.name := by
  intro name hname
  obtain ⟨source, hsource, rfl⟩ := List.mem_map.mp hname
  obtain ⟨m, hm, t, ht, ⟨period, hname⟩, -, -, happlies⟩ := h.reads_table hsource
  rw [hname]
  exact hfree m hm t ht happlies period

/-- A table that takes part has its sources in the statement. -/
theorem Covers.nameOf_mem (h : s.Covers r w dimension (TableMetrics.ofMetrics ms)) {m : BaseMetric} (hm : m ∈ ms)
    (hpart : takesPart r w dimension m.table = true) (period : Period) :
    Source.nameOf m.table period ∈ s.all.map Source.name := by
  have htable : m.table ∉ s.skipped := by
    rw [h.skipped]
    intro hmem
    obtain ⟨group, hgroup, heq⟩ := List.mem_map.mp hmem
    have hout := (List.mem_filter.mp hgroup).2
    rw [heq, hpart] at hout
    cases hout
  obtain ⟨source, hsource, hname, -⟩ := h.exists_sources hm htable period
  exact hname ▸ List.mem_map_of_mem hsource

end Sources

section

open Registry Registry.Builtin

/-! ### Statements for one row -/

namespace Yoy

variable {r : Registry}

theorem Plan.map_fst_ctes (p : Plan) : p.toSelect.ctes.map Prod.fst = p.sources.all.map Source.name :=
  p.sources.map_fst_ctes

theorem Plan.Answers.uncaptured {request : YoyRequest} {today : Date} {metrics : List BaseMetric} {w : Windows}
    {p : Plan} (hbase : ∀ m ∈ metrics, m ∈ r.base)
    (h : p.Answers r request today (TableMetrics.ofMetrics metrics) w)
    (hfree : ∀ m ∈ r.base, r.SourcesFree m.table) : p.toSelect.Uncaptured r p.bodies := by
  have hnames : ∀ name ∈ p.toSelect.ctes.map Prod.fst, name ∉ r.tables.map Table.name := by
    rw [p.map_fst_ctes]
    apply h.sources.names_free
    intro m hm t ht _
    rw [Registry.name_of_table? ht]
    exact hfree m (hbase m hm)
  refine ⟨hnames, fun cte hcte => .inr (Sources.exists_mem_bodies hcte), ?_⟩
  intro body hbody
  obtain ⟨source, hsource, rfl⟩ := Sources.mem_bodies.mp hbody
  obtain ⟨m, -, t, ht, -, htable, hkeyed, -⟩ := h.sources.reads_table hsource
  have hmem : t ∈ r.tables := List.mem_of_find?_eq_some ht
  refine ⟨t, hmem, congrArg some htable, fun hname => hnames _ hname (List.mem_map_of_mem hmem), ?_⟩
  intro hgroup
  rw [Source.groupId_mem_groupBy, hkeyed] at hgroup
  cases hgroup

theorem allPlans_nodup (hr : r.WellFormed) : AllPlans r fun p => (p.toSelect.ctes.map Prod.fst).Nodup := by
  intro request today s hs
  obtain ⟨p, groups, w, hplan, hanswers, hrenders⟩ := statement_ok hs
  obtain ⟨metrics, hmetrics, rfl⟩ := Registry.metricsByTable_ok hanswers.metrics
  have hbase := Registry.mem_base_of_selectMetrics hmetrics
  exact ⟨p, hplan, hrenders.sql, (hanswers.closed hr hbase hrenders.skipped).distinct⟩

/-- Statements for one row are not captured exactly if the sources of all tables with metrics are free. -/
theorem allPlans_uncaptured_iff (hr : r.WellFormed) :
    AllPlans r (fun p => p.toSelect.Uncaptured r p.bodies) ↔ ∀ m ∈ r.base, r.SourcesFree m.table := by
  constructor
  · intro hall m hm period
    obtain ⟨s, p, hs, hplan, hanswers, -⟩ := exists_plan hr (hr.metricsByTable_name hm)
    obtain ⟨p', hplan', -, huncaptured⟩ := hall _ spring s hs
    cases hplan.symm.trans hplan'
    obtain ⟨t, ht, -⟩ := (hr.base m hm).field
    apply huncaptured.free
    rw [p.map_fst_ctes]
    exact hanswers.sources.nameOf_mem (List.mem_singleton_self m)
      (Sources.takesPart_unbounded ht (by simp)) period
  · intro hfree request today s hs
    obtain ⟨p, groups, w, hplan, hanswers, hrenders⟩ := statement_ok hs
    obtain ⟨metrics, hmetrics, rfl⟩ := Registry.metricsByTable_ok hanswers.metrics
    have hbase := Registry.mem_base_of_selectMetrics hmetrics
    exact ⟨p, hplan, hrenders.sql, hanswers.uncaptured hbase hfree⟩

end Yoy

/-! ### Statements for groups -/

namespace Grouped

variable {r : Registry}

theorem Plan.exists_mem_bodies {p : Plan} {cte : String × String} (hcte : cte ∈ p.toSelect.ctes) :
    cte.1 = groupKeys ∨ ∃ body, (cte.1, body) ∈ p.bodies ∧ cte.2 = body.text := by
  rcases List.mem_append.mp hcte with hcte | hcte
  · obtain ⟨body, hbody, htext⟩ := Sources.exists_mem_bodies hcte
    exact .inr ⟨body, List.mem_append_left _ hbody, htext⟩
  · rcases List.mem_cons.mp hcte with rfl | hcte
    · exact .inl rfl
    · obtain ⟨names, hmem, rfl⟩ := List.mem_map.mp hcte
      exact .inr ⟨names.toSelect, List.mem_append_right _ (List.mem_map.mpr ⟨names, hmem, rfl⟩), rfl⟩

namespace Plan.Answers

variable {request : GroupedRequest} {today : Date} {d : Dimension} {metrics : List BaseMetric} {w : Windows}
  {p : Plan}

/-- Some table of a requested metric is read, and the dimension applies to it. -/
theorem exists_source (h : p.Answers r request today d (TableMetrics.ofMetrics metrics) w) :
    ∃ source ∈ p.sources.all, ∃ m ∈ metrics, ∃ t, r.table? m.table = some t ∧ source.table = t.name ∧
      source.key.isSome = true ∧ d.appliesTo t = true := by
  obtain ⟨j, hj⟩ := List.exists_mem_of_ne_nil _ h.joined
  have hsource : j.current ∈ p.sources.all := List.mem_flatMap.mpr ⟨j, hj, by simp⟩
  obtain ⟨m, hm, t, ht, -, htable, hkeyed, happlies⟩ := h.sources.reads_table hsource
  exact ⟨j.current, hsource, m, hm, t, ht, htable, hkeyed, happlies d rfl⟩

/-- Each body reads the table of a requested metric that the dimension applies to, or the table with the names
of keys. -/
theorem reads_table (h : p.Answers r request today d (TableMetrics.ofMetrics metrics) w)
    {body : String × Select} (hbody : body ∈ p.bodies) : ∃ t, body.2.source = some t.name ∧
      ((∃ m ∈ metrics, r.table? m.table = some t ∧ d.appliesTo t = true) ∨
        ∃ c ∈ d.nameColumn, r.table? c.table = some t) := by
  rcases List.mem_append.mp hbody with hbody | hbody
  · obtain ⟨source, hsource, rfl⟩ := Sources.mem_bodies.mp hbody
    obtain ⟨m, hm, t, ht, -, htable, -, happlies⟩ := h.sources.reads_table hsource
    exact ⟨t, congrArg some htable, .inl ⟨m, hm, ht, happlies d rfl⟩⟩
  · obtain ⟨names, hnames, rfl⟩ := List.mem_map.mp hbody
    obtain ⟨c, t, hreads⟩ := h.names names (by simpa using hnames)
    exact ⟨t, congrArg some hreads.table, .inr ⟨c, hreads.declared, hreads.found⟩⟩

variable (hfree : ∀ m ∈ metrics, ∀ t, r.table? m.table = some t → d.appliesTo t = true → r.GroupsFree d t)

include hfree

theorem names_free (h : p.Answers r request today d (TableMetrics.ofMetrics metrics) w) :
    ∀ name ∈ p.toSelect.ctes.map Prod.fst, name ∉ r.tables.map Table.name := by
  obtain ⟨-, -, m, hm, t, ht, -, -, happlies⟩ := h.exists_source
  have hgroups : r.GroupsFree d t := hfree m hm t ht happlies
  intro name hname
  rw [map_fst_ctes, List.mem_append] at hname
  rcases hname with hname | hname
  · refine h.sources.names_free ?_ name hname
    intro m hm t ht happlies
    exact (hfree m hm t ht (happlies d rfl)).sources
  · rcases List.mem_cons.mp hname with rfl | hname
    · exact hgroups.keys
    · obtain ⟨names, hmem, rfl⟩ := List.mem_map.mp hname
      obtain ⟨c, t', hreads⟩ := h.names names (by simpa using hmem)
      exact (hgroups.names c hreads.declared).1

theorem uncaptured (h : p.Answers r request today d (TableMetrics.ofMetrics metrics) w) :
    p.toSelect.Uncaptured r p.bodies := by
  refine ⟨h.names_free hfree, fun cte => exists_mem_bodies, ?_⟩
  intro body hbody
  obtain ⟨t, hsource, hcases⟩ := h.reads_table hbody
  have hread {name : String} (ht : r.table? name = some t) (hcolumn : t.hasColumn groupId = false) :
      ∃ t ∈ r.tables, body.2.source = some t.name ∧ t.name ∉ p.toSelect.ctes.map Prod.fst ∧
        (groupId ∈ body.2.groupBy → t.hasColumn groupId = false) := by
    have hmem : t ∈ r.tables := List.mem_of_find?_eq_some ht
    exact ⟨t, hmem, hsource, fun hname => h.names_free hfree _ hname (List.mem_map_of_mem hmem),
      fun _ => hcolumn⟩
  rcases hcases with ⟨m, hm, ht, happlies⟩ | ⟨c, hc, ht⟩
  · exact hread ht (hfree m hm t ht happlies).key
  · obtain ⟨-, -, m, hm, t', ht', -, -, happlies⟩ := h.exists_source
    exact hread ht (((hfree m hm t' ht' happlies).names c hc).2 t ht)

end Plan.Answers

/-- The names of keys are read where there are no conditions. -/
theorem Plan.hasNames_unbounded (hr : r.WellFormed) {d : Dimension} (hd : d ∈ r.dimensions) {c : NameColumn}
    (hc : d.nameColumn = some c) (today : Date) : hasNames r d (Windows.unbounded today).current = true := by
  obtain ⟨t, ht, -, hcolumn⟩ := (hr.dimensions d hd).nameColumn c hc
  have hkey : (d.keyExpr? t .current).isSome = true := by
    rw [Dimension.isSome_keyExpr?, Dimension.appliesTo, hcolumn, Bool.or_true]
  simp [hasNames, hc, ht, hkey, Condition.supported, undated, Windows.unbounded]

/-- What is not captured in the statement for a metric alone is free. -/
theorem Plan.Answers.groupsFree (hr : r.WellFormed) {request : GroupedRequest} {today : Date} {m : BaseMetric}
    {d : Dimension} (hd : d ∈ r.dimensions) {t : Table} (ht : r.table? m.table = some t)
    (happlies : d.appliesTo t = true) {p : Plan}
    (h : p.Answers r request today d (TableMetrics.ofMetrics [m]) (.unbounded today))
    (huncaptured : p.toSelect.Uncaptured r p.bodies) : r.GroupsFree d t := by
  have hfree : ∀ name ∈ p.sources.all.map Source.name ++ p.groupSources, name ∉ r.tables.map Table.name := by
    rw [← p.map_fst_ctes]
    exact huncaptured.free
  refine ⟨?_, ?_, ?_, ?_⟩
  · intro period
    rw [Registry.name_of_table? ht]
    have hpart : Sources.takesPart r (.unbounded today) (some d) m.table = true :=
      Sources.takesPart_unbounded ht (by simpa using happlies)
    exact hfree _ (List.mem_append_left _ (h.sources.nameOf_mem (List.mem_singleton_self m) hpart period))
  · exact hfree _ (List.mem_append_right _ List.mem_cons_self)
  · obtain ⟨source, hsource, m', hm', t', ht', htable, hkeyed, -⟩ := h.exists_source
    rw [List.mem_singleton.mp hm', ht] at ht'
    cases ht'
    have hbody : (source.name, source.toSelect) ∈ p.bodies :=
      List.mem_append_left _ (Sources.mem_bodies.mpr ⟨source, hsource, rfl⟩)
    exact huncaptured.hasColumn_groupId hr hbody ht (congrArg some htable)
      (Source.groupId_mem_groupBy.mpr hkeyed)
  · intro c hc
    have hnamed : p.names.isSome = true := h.named.trans (hasNames_unbounded hr hd hc today)
    obtain ⟨names, hnames⟩ := Option.isSome_iff_exists.mp hnamed
    obtain ⟨c', t', hreads⟩ := h.names names hnames
    cases hc.symm.trans hreads.declared
    constructor
    · exact hfree _ (List.mem_append_right _ (by simp [groupSources, hnames]))
    · intro t'' ht''
      cases hreads.found.symm.trans ht''
      have hbody : (groupNames, names.toSelect) ∈ p.bodies := List.mem_append_right _ (by simp [hnames])
      exact huncaptured.hasColumn_groupId hr hbody ht'' (congrArg some hreads.table)
        (List.mem_singleton_self groupId)

theorem allPlans_nodup (hr : r.WellFormed) : AllPlans r fun p => (p.toSelect.ctes.map Prod.fst).Nodup := by
  intro request today s hs
  obtain ⟨p, d, groups, w, hplan, hanswers, hrenders⟩ := statement_some_ok hs
  obtain ⟨metrics, hmetrics, rfl⟩ := Registry.metricsByTable_ok hanswers.metrics
  have hbase := Registry.mem_base_of_selectMetrics hmetrics
  exact ⟨p, hplan, hrenders.sql, (hanswers.closed hr hbase hrenders.skipped).distinct⟩

/-- Statements for groups are not captured exactly if every dimension can group every table with metrics that
it applies to. -/
theorem allPlans_uncaptured_iff (hr : r.WellFormed) :
    AllPlans r (fun p => p.toSelect.Uncaptured r p.bodies) ↔ ∀ d ∈ r.dimensions, ∀ m ∈ r.base, ∀ t,
      r.table? m.table = some t → d.appliesTo t = true → r.GroupsFree d t := by
  constructor
  · intro hall d hd m hm t ht happlies
    have hpart : Sources.takesPart r (.unbounded spring) (some d) m.table = true :=
      Sources.takesPart_unbounded ht (by simpa using happlies)
    obtain ⟨s, p, hs, hplan, hanswers, -⟩ := exists_plan hr (hr.dimension_name hd) (hr.metricsByTable_name hm)
      ⟨(m.table, [m]), List.mem_singleton_self _, hpart⟩ none
    obtain ⟨p', hplan', -, huncaptured⟩ := hall _ spring s hs
    cases hplan.symm.trans hplan'
    exact hanswers.groupsFree hr hd ht happlies huncaptured
  · intro hfree request today s hs
    obtain ⟨p, d, groups, w, hplan, hanswers, hrenders⟩ := statement_some_ok hs
    obtain ⟨metrics, hmetrics, rfl⟩ := Registry.metricsByTable_ok hanswers.metrics
    have hbase := Registry.mem_base_of_selectMetrics hmetrics
    have hd := Registry.dimension_ok hanswers.dimension
    have hrequested : ∀ m ∈ metrics, ∀ t, r.table? m.table = some t → d.appliesTo t = true → r.GroupsFree d t :=
      fun m hm => hfree d hd m (hbase m hm)
    exact ⟨p, hplan, hrenders.sql, hanswers.uncaptured hrequested⟩

end Grouped

/-- The expressions of every statement are named apart. None is named after a table, and none groups by a
column, exactly if the names of the registry are free for its metrics and dimensions. -/
theorem Statement.uncaptured_iff_free {tables : List Table} {base : List BaseMetric}
    {calculated : List CalculatedMetric} {dimensions : List Dimension} {r : Registry}
    (hr : Registry.build tables base calculated dimensions = .ok r) :
    Yoy.AllPlans r (fun p => (p.toSelect.ctes.map Prod.fst).Nodup) ∧
    Grouped.AllPlans r (fun p => (p.toSelect.ctes.map Prod.fst).Nodup) ∧
    (Yoy.AllPlans r (fun p => p.toSelect.Uncaptured r p.bodies) ↔ ∀ m ∈ r.base, r.SourcesFree m.table) ∧
    (Grouped.AllPlans r (fun p => p.toSelect.Uncaptured r p.bodies) ↔ ∀ d ∈ r.dimensions, ∀ m ∈ r.base, ∀ t,
      r.table? m.table = some t → d.appliesTo t = true → r.GroupsFree d t) := by
  have hwell : r.WellFormed := Registry.wellFormed_of_build hr
  exact ⟨Yoy.allPlans_nodup hwell, Grouped.allPlans_nodup hwell, Yoy.allPlans_uncaptured_iff hwell,
    Grouped.allPlans_uncaptured_iff hwell⟩

/-- The built-in balance sheet is free: requests for it are answered, and nothing is captured. -/
theorem Statement.uncaptured_builtin :
    Registry.build Builtin.tables Builtin.base Builtin.calculated Builtin.dimensions = .ok .builtin ∧
    (∃ s, Yoy.statement .builtin (totals plainFilters) spring = .ok s) ∧
    Yoy.AllPlans .builtin (fun p => p.toSelect.Uncaptured .builtin p.bodies) ∧
    (∃ s, Grouped.statement .builtin (bySeller plainFilters "sales") spring = .ok (some s)) ∧
    Grouped.AllPlans .builtin (fun p => p.toSelect.Uncaptured .builtin p.bodies) := by
  obtain ⟨-, -, hyoy, hgrouped⟩ := uncaptured_iff_free build_builtin
  have hfree : ∀ t ∈ Registry.builtin.tables, Registry.builtin.SourcesFree t.name := by
    have hnames : ∀ t ∈ Registry.builtin.tables, currentSource t.name ∉ Registry.builtin.tables.map Table.name ∧
        previousSource t.name ∉ Registry.builtin.tables.map Table.name := by
      decide +kernel
    intro t ht period
    cases period with
    | current => exact (hnames t ht).1
    | previous => exact (hnames t ht).2
  have hfixed : Grouped.groupKeys ∉ Registry.builtin.tables.map Table.name ∧
      Grouped.groupNames ∉ Registry.builtin.tables.map Table.name := by
    decide +kernel
  have hcolumns : ∀ t ∈ Registry.builtin.tables, t.hasColumn groupId = false := by decide +kernel
  have hmem {name : String} {t : Table} (ht : Registry.builtin.table? name = some t) :
      t ∈ Registry.builtin.tables := List.mem_of_find?_eq_some ht
  refine ⟨build_builtin, ?_, hyoy.mpr ?_, ?_, hgrouped.mpr ?_⟩
  · exact Except.exists_of_isOk (by decide +kernel)
  · intro m hm
    obtain ⟨t, ht, -⟩ := ((wellFormed_of_build build_builtin).base m hm).field
    exact name_of_table? ht ▸ hfree t (hmem ht)
  · obtain ⟨s, hs, -⟩ := Except.exists_some_of_map (f := fun s => s.calculated) (b := ["stock_turnover"])
      (e := Grouped.statement .builtin (bySeller plainFilters "sales") spring) (by decide +kernel)
    exact ⟨s, hs⟩
  · intro d _ m _ t ht _
    exact ⟨hfree t (hmem ht), hfixed.1, hcolumns t (hmem ht),
      fun c _ => ⟨hfixed.2, fun t' ht' => hcolumns t' (hmem ht')⟩⟩

/-- A table that is named after a source of another one, which has a column named as the group key. -/
def Registry.capturing : Registry :=
  ⟨[⟨"sales", "date", [⟨"date", .date⟩, ⟨"amount", .float64⟩, ⟨"group_id", .string⟩]⟩,
      ⟨"sales_current", "date", [⟨"date", .date⟩, ⟨"amount", .float64⟩]⟩],
    [⟨"sales", "amount", .sum, "total"⟩, ⟨"sales_current", "amount", .sum, "running"⟩], [],
    [time "month" .monthly]⟩

/-- It is accepted. Its second table is read as the source of the first one, and the months of the first one
are grouped by its column. -/
theorem Statement.captured_capturing :
    Registry.build capturing.tables capturing.base capturing.calculated capturing.dimensions = .ok .capturing ∧
    (∃ p, Yoy.plan .capturing ⟨[], []⟩ spring = .ok p ∧
      p.bodies.map (fun body => (body.1, body.2.source)) =
        [("sales_current", some "sales"), ("sales_previous", some "sales"),
          ("sales_current_current", some "sales_current"), ("sales_current_previous", some "sales_current")]) ∧
    (∃ p, Grouped.plan .capturing ⟨⟨["total"], []⟩, "month", .ofGroups, none, .desc⟩ spring = .ok (some p) ∧
      p.bodies.map (fun body => (body.1, body.2.source, body.2.groupBy)) =
        [("sales_current", some "sales", ["group_id"]), ("sales_previous", some "sales", ["group_id"])]) ∧
    ¬ Yoy.AllPlans .capturing (fun p => p.toSelect.Uncaptured .capturing p.bodies) ∧
    ¬ Grouped.AllPlans .capturing (fun p => p.toSelect.Uncaptured .capturing p.bodies) := by
  have hbuild : Registry.build capturing.tables capturing.base capturing.calculated capturing.dimensions =
      .ok .capturing := by
    rw [build, Except.check_then_eq_ok_iff]
    have hvalidate : capturing.validate.isOk = true := by decide +kernel
    obtain ⟨⟨⟩, hok⟩ := Except.exists_of_isOk hvalidate
    exact ⟨hok, rfl⟩
  have hwell : Registry.capturing.WellFormed := wellFormed_of_build hbuild
  refine ⟨hbuild, ?_, ?_, ?_, ?_⟩
  · apply Except.exists_of_map
    decide +kernel
  · apply Except.exists_some_of_map
    decide +kernel
  · rw [Yoy.allPlans_uncaptured_iff hwell]
    intro hfree
    exact hfree _ List.mem_cons_self .current (by decide)
  · rw [Grouped.allPlans_uncaptured_iff hwell]
    intro hfree
    have hgroups := hfree _ List.mem_cons_self _ List.mem_cons_self _ rfl rfl
    exact absurd hgroups.key (by decide)

end
end BalanceSheet
