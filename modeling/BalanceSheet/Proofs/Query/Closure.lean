import BalanceSheet.Proofs.Formula.Resolution
import BalanceSheet.Proofs.Query.Output
import BalanceSheet.Proofs.Query.Scope
import BalanceSheet.Proofs.Registry.Fields

/-!
Statements are closed. The expressions of the tables that take part, and no others, are defined and joined,
each once; whatever an output column refers to, and whatever stands for a dependency of a calculated metric,
is a column of a joined expression or an output column, a calculated metric only behind the one it refers
to; and rows are ordered by output columns.
-/

namespace BalanceSheet

/-- The reference resolves, and is not to a source of a skipped table. -/
structure Reference.Sound (scope : Scope) (skipped : List String) (reference : Reference) : Prop where
  resolves : reference.ResolvesIn scope
  unskipped : ∀ t ∈ skipped, ∀ period column, reference ≠ .column (Source.nameOf t period) column

/-- All references of the outer statement are sound, and each calculated metric that stands for a dependency
was placed before. -/
structure Scope.Closed (r : Registry) (groups : TableMetrics) (skipped : List String) (outputs : List Output)
    (resolved : List ResolvedMetric) (scope : Scope) : Prop where
  named : scope.outputs = outputs.map Output.name
  unjoined : ∀ t ∈ skipped, ∀ period, Source.nameOf t period ∉ scope.joined.map Prod.fst
  references : ∀ o ∈ outputs, ∀ reference ∈ o.expr.references, reference.Sound scope skipped
  uncalculated : ∀ o ∈ outputs, ∀ name, .output name ∈ o.expr.references →
    name ∉ r.calculated.map CalculatedMetric.name
  placed : ∃ lead trail, outputs = lead ++ resolved.map Output.ofResolved ++ trail
  dependencies : ∀ before m after, resolved = before ++ m :: after →
    ∃ c ∈ r.calculated, m = c.resolve (Aliases.ofMetrics skipped groups) ∧
      ∀ dependency ∈ c.dependencies,
        ((Aliases.ofMetrics skipped groups).reference dependency).Sound scope skipped ∧
        ∀ name, (Aliases.ofMetrics skipped groups).reference dependency = .output name →
          name ∈ r.calculated.map CalculatedMetric.name → name ∈ before.map ResolvedMetric.name

theorem Reference.ResolvesIn.sound {scope : Scope} {skipped : List String} {reference : Reference}
    (hunjoined : ∀ t ∈ skipped, ∀ period, Source.nameOf t period ∉ scope.joined.map Prod.fst)
    (h : reference.ResolvesIn scope) : reference.Sound scope skipped := by
  refine ⟨h, ?_⟩
  rintro t ht period column rfl
  obtain ⟨columns, hjoined, -⟩ := h
  exact hunjoined t ht period (List.mem_map_of_mem hjoined)

theorem metricColumn_mem_fieldsTaken (m : BaseMetric) (period : Period) :
    Source.metricColumn period m ∈ Registry.fieldsTaken m := by
  cases period <;> simp [Source.metricColumn, Registry.fieldsTaken]

section

variable {r : Registry} {w : Windows} {dimension : Option Dimension} {ms : List BaseMetric} {s : Sources}
  {scope : Scope} {read : Reference → OutputExpr}

/-- The columns of the requested metrics refer to sources that are joined and to each other. -/
theorem Sources.Covers.references_ofMetrics (h : s.Covers r w dimension (TableMetrics.ofMetrics ms))
    (hselected : s.selected ⊆ scope.joined) (hread : ∀ reference, (read reference).references = [reference])
    (houtputs : ∀ m ∈ ms, m.fields ⊆ scope.outputs) :
    ∀ o ∈ Output.ofMetrics read s.skipped (TableMetrics.ofMetrics ms), ∀ reference ∈ o.expr.references,
      reference.ResolvesIn scope ∧ ∀ name, reference = .output name → ∃ m ∈ ms, name ∈ m.fields := by
  intro o ho reference hreference
  obtain ⟨m, hm, ho⟩ := Output.mem_ofMetrics.mp ho
  rw [TableMetrics.mem_metrics_ofMetrics] at hm
  split at ho
  case isTrue htable =>
      simp only [Output.zeros, List.mem_cons, List.not_mem_nil, or_false] at ho
      rcases ho with rfl | rfl | rfl | rfl <;> cases hreference
  case isFalse htable =>
      have htable' : m.table ∉ s.skipped := by simpa using htable
      simp only [Output.compared, List.mem_cons, List.not_mem_nil, or_false] at ho
      rcases ho with rfl | rfl | rfl
      · rw [hread, List.mem_singleton] at hreference
        subst hreference
        exact ⟨h.resolves_column hselected hm htable' .current, by simp⟩
      · rw [hread, List.mem_singleton] at hreference
        subst hreference
        exact ⟨h.resolves_column hselected hm htable' .previous, by simp⟩
      · have hname : m.name ∈ m.fields := by simp [BaseMetric.fields]
        have hlastYear : m.lastYearField ∈ m.fields := by simp [BaseMetric.fields]
        rcases List.mem_pair.mp hreference with rfl | rfl
        · refine ⟨houtputs m hm hname, ?_⟩
          rintro name ⟨⟩
          exact ⟨m, hm, hname⟩
        · refine ⟨houtputs m hm hlastYear, ?_⟩
          rintro name ⟨⟩
          exact ⟨m, hm, hlastYear⟩

/-- What stands for a dependency is in scope, and is no calculated metric unless one that was placed before. -/
theorem Sources.Covers.reference_dependency (hr : r.WellFormed) (hbase : ∀ m ∈ ms, m ∈ r.base)
    (h : s.Covers r w dimension (TableMetrics.ofMetrics ms)) (hselected : s.selected ⊆ scope.joined)
    (houtputs : (Output.ofMetrics read s.skipped (TableMetrics.ofMetrics ms)).map Output.name ⊆ scope.outputs)
    {known : List String} (hknown : known ⊆ scope.outputs) {name : String}
    (hname : ((Aliases.ofMetrics s.skipped (TableMetrics.ofMetrics ms)).has name ||
      known.contains name) = true) :
    ((Aliases.ofMetrics s.skipped (TableMetrics.ofMetrics ms)).reference name).ResolvesIn scope ∧
      ∀ output, (Aliases.ofMetrics s.skipped (TableMetrics.ofMetrics ms)).reference name = .output output →
        output ∈ r.calculated.map CalculatedMetric.name → output ∈ known := by
  by_cases hhas : (Aliases.ofMetrics s.skipped (TableMetrics.ofMetrics ms)).has name = true
  · obtain ⟨m, hmem, hcases⟩ := Aliases.reference_cases hhas
    have hm : m ∈ ms := TableMetrics.mem_metrics_ofMetrics.mp hmem
    rcases hcases with ⟨htable, period, hreference⟩ | ⟨htable, period, hreference⟩
    · rw [hreference]
      exact ⟨h.resolves_column hselected hm htable period, by simp⟩
    · rw [hreference]
      constructor
      · apply houtputs
        cases period with
        | current => exact Output.fields_subset_names hmem (by simp [Source.metricColumn, BaseMetric.fields])
        | previous => exact Output.previousColumn_mem_names hmem htable
      · rintro output ⟨⟩ hcalculated
        exact absurd hcalculated (hr.taken_ne_calculated (hbase m hm) (metricColumn_mem_fieldsTaken m period))
  · have hmem : name ∈ known := by simpa [hhas] using hname
    rw [Aliases.reference_eq_output hhas]
    refine ⟨hknown hmem, ?_⟩
    rintro output ⟨⟩ -
    exact hmem

/-- The columns of the metrics and the calculated metrics behind them are closed, if what stands around them
is. -/
theorem Sources.Covers.closed (hr : r.WellFormed) (hbase : ∀ m ∈ ms, m ∈ r.base)
    (h : s.Covers r w dimension (TableMetrics.ofMetrics ms)) (hselected : s.selected ⊆ scope.joined)
    (hunjoined : ∀ t ∈ s.skipped, ∀ period, Source.nameOf t period ∉ scope.joined.map Prod.fst)
    (hread : ∀ reference, (read reference).references = [reference]) (lead trail : List Output)
    {outputs : List Output} {resolved : List ResolvedMetric}
    (hlead : ∀ o ∈ lead, ∀ reference ∈ o.expr.references,
      reference.ResolvesIn scope ∧ ∀ name, reference ≠ .output name)
    (htrail : ∀ o ∈ trail, o.expr.references = [])
    (hresolved : resolved = CalculatedMetric.resolveAll
      (Aliases.ofMetrics s.skipped (TableMetrics.ofMetrics ms)) r.calculated)
    (houtputs : outputs = lead ++ Output.ofMetrics read s.skipped (TableMetrics.ofMetrics ms) ++
      resolved.map Output.ofResolved ++ trail)
    (hnamed : scope.outputs = outputs.map Output.name) :
    scope.Closed r (TableMetrics.ofMetrics ms) s.skipped outputs resolved := by
  have hmetrics : (Output.ofMetrics read s.skipped (TableMetrics.ofMetrics ms)).map Output.name ⊆
      scope.outputs := by
    rw [hnamed, houtputs]
    apply List.map_subset
    intro o ho
    simp [ho]
  have hcalculated : resolved.map ResolvedMetric.name ⊆ scope.outputs := by
    rw [hnamed, houtputs]
    intro name hname
    obtain ⟨m, hm, rfl⟩ := List.mem_map.mp hname
    exact List.mem_map.mpr ⟨Output.ofResolved m, by simp [List.mem_map_of_mem hm], rfl⟩
  have hcolumns := h.references_ofMetrics hselected hread fun m hm =>
    List.Subset.trans (Output.fields_subset_names (TableMetrics.mem_metrics_ofMetrics.mpr hm)) hmetrics
  -- output columns by where they stand: only those of the metrics refer to output columns
  have hall : ∀ o ∈ outputs, ∀ reference ∈ o.expr.references, reference.ResolvesIn scope ∧
      ∀ name, reference = .output name → ∃ m ∈ ms, name ∈ m.fields := by
    intro o ho reference hreference
    rw [houtputs, List.mem_append, List.mem_append, List.mem_append] at ho
    rcases ho with ((ho | ho) | ho) | ho
    · obtain ⟨hresolves, hcolumn⟩ := hlead o ho reference hreference
      exact ⟨hresolves, fun name hname => absurd hname (hcolumn name)⟩
    · exact hcolumns o ho reference hreference
    · obtain ⟨m, -, rfl⟩ := List.mem_map.mp ho
      cases hreference
    · rw [htrail o ho] at hreference
      cases hreference
  refine ⟨hnamed, hunjoined, ?_, ?_, ?_, ?_⟩
  · intro o ho reference hreference
    exact (hall o ho reference hreference).1.sound hunjoined
  · intro o ho name hname
    obtain ⟨m, hm, hfield⟩ := (hall o ho _ hname).2 name rfl
    apply hr.taken_ne_calculated (hbase m hm)
    simp only [BaseMetric.fields, List.mem_cons, List.not_mem_nil, or_false] at hfield
    rcases hfield with rfl | rfl | rfl <;> simp [Registry.fieldsTaken]
  · exact ⟨_, trail, houtputs⟩
  · intro before m after hsplit
    obtain ⟨c, hc, hm, hsatisfied⟩ := CalculatedMetric.founded_resolveAll before m after (hresolved ▸ hsplit)
    refine ⟨c, hc, hm, ?_⟩
    intro dependency hdependency
    have hknown : before.map ResolvedMetric.name ⊆ scope.outputs := by
      refine List.Subset.trans (List.map_subset _ ?_) hcalculated
      intro m' hm'
      simp [hsplit, hm']
    rw [CalculatedMetric.satisfied, List.all_eq_true] at hsatisfied
    obtain ⟨hresolves, hplaced⟩ :=
      h.reference_dependency hr hbase hselected hmetrics hknown (hsatisfied dependency hdependency)
    exact ⟨hresolves.sound hunjoined, hplaced⟩

end

/-- Names of the two sources of each table. -/
def sourceNames (tables : List String) : List String :=
  tables.flatMap fun t => [currentSource t, previousSource t]

theorem Sources.map_fst_selected (s : Sources) : s.selected.map Prod.fst = s.all.map Source.name := by
  rw [selected, List.map_map]
  rfl

theorem Sources.exists_body {s : Sources} {joined : String × List String} (h : joined ∈ s.selected) :
    ∃ body : Select, (joined.1, body.text) ∈ s.ctes ∧ body.Selects joined.2 := by
  obtain ⟨source, hsource, rfl⟩ := List.mem_map.mp h
  exact ⟨source.toSelect, List.mem_map.mpr ⟨source, hsource, rfl⟩, source.selects_columns⟩

/-- The sources have the names of the tables that take part, and of no skipped table. -/
theorem Sources.Covers.sourceNames {r : Registry} {w : Windows} {dimension : Option Dimension}
    {metrics : List BaseMetric} {sources : Sources} {s : Statement}
    (h : sources.Covers r w dimension (TableMetrics.ofMetrics metrics))
    (hskipped : s.skipped = Sorted.names sources.skipped) :
    sources.all.map Source.name = BalanceSheet.sourceNames (s.tables metrics) ∧
      (BalanceSheet.sourceNames (s.tables metrics)).Nodup ∧
      ∀ t ∈ s.skipped, ∀ period, Source.nameOf t period ∉ BalanceSheet.sourceNames (s.tables metrics) := by
  refine ⟨?_, Source.nodup_names (s.nodup_tables metrics), ?_⟩
  · rw [h.names, ← Statement.tables_eq metrics hskipped]
    rfl
  · intro t ht period hmem
    obtain ⟨t', ht', hname⟩ := List.mem_flatMap.mp hmem
    obtain ⟨period', hperiod⟩ := Source.exists_nameOf hname
    obtain ⟨rfl, -⟩ := Source.nameOf_injective hperiod
    have hout := (List.mem_filter.mp ht').2
    simp [ht] at hout

namespace Yoy.Plan

def scope (p : Plan) : Scope := ⟨p.sources.selected, p.outputs.map Output.name⟩

/-- The plan defines the two sources of each table that takes part, joins each once, and refers to nothing
else. -/
structure Closed (r : Registry) (metrics : List BaseMetric) (s : Statement) (p : Plan) : Prop where
  ctes : p.toSelect.ctes.map Prod.fst = sourceNames (s.tables metrics)
  distinct : (p.toSelect.ctes.map Prod.fst).Nodup
  undefined : ∀ t ∈ s.skipped, ∀ period, Source.nameOf t period ∉ p.toSelect.ctes.map Prod.fst
  source : p.toSelect.source = (sourceNames (s.tables metrics)).head?
  joins : p.toSelect.joins = (sourceNames (s.tables metrics)).tail.map Select.crossJoin
  joined : p.scope.joined.map Prod.fst = sourceNames (s.tables metrics)
  bodies : ∀ joined ∈ p.scope.joined, ∃ body : Select,
    (joined.1, body.text) ∈ p.toSelect.ctes ∧ body.Selects joined.2
  columns : p.toSelect.columns = p.outputs.map Output.text
  skipped : ∀ t, t ∈ s.skipped ↔ t ∈ p.sources.skipped
  references : p.scope.Closed r (TableMetrics.ofMetrics metrics) p.sources.skipped p.outputs p.resolved

theorem joins_eq (sources : Sources) :
    joins sources = ((sources.all.map Source.name).head?,
      (sources.all.map Source.name).tail.map Select.crossJoin) := by
  unfold joins
  split
  case h_1 hnames => rw [hnames]; rfl
  case h_2 hnames => rw [hnames]; rfl

theorem Answers.closed {r : Registry} (hr : r.WellFormed) {request : YoyRequest} {today : Date}
    {metrics : List BaseMetric} {w : Windows} {p : Plan} {s : Statement}
    (hbase : ∀ m ∈ metrics, m ∈ r.base)
    (h : p.Answers r request today (TableMetrics.ofMetrics metrics) w)
    (hskipped : s.skipped = Sorted.names p.sources.skipped) : p.Closed r metrics s := by
  obtain ⟨hnames, hdistinct, hundefined⟩ := h.sources.sourceNames hskipped
  have hctes : p.toSelect.ctes.map Prod.fst = sourceNames (s.tables metrics) :=
    (Sources.map_fst_ctes p.sources).trans hnames
  have hjoined : p.scope.joined.map Prod.fst = sourceNames (s.tables metrics) :=
    (Sources.map_fst_selected p.sources).trans hnames
  have hmem (t : String) : t ∈ s.skipped ↔ t ∈ p.sources.skipped := by rw [hskipped, Sorted.mem_names]
  have hunjoined : ∀ t ∈ p.sources.skipped, ∀ period,
      Source.nameOf t period ∉ p.scope.joined.map Prod.fst := by
    intro t ht period
    rw [hjoined]
    exact hundefined t ((hmem t).mpr ht) period
  have hreferences : p.scope.Closed r (TableMetrics.ofMetrics metrics) p.sources.skipped p.outputs p.resolved :=
    h.sources.closed hr hbase (List.Subset.refl _) hunjoined (fun _ => rfl) [] [] (by simp) (by simp) h.resolved
      (by simpa using h.outputs) rfl
  refine ⟨hctes, hctes ▸ hdistinct, hctes ▸ hundefined, ?_, ?_, hjoined, ?_, rfl, hmem, hreferences⟩
  · rw [← hnames]
    exact congrArg Prod.fst (joins_eq p.sources)
  · rw [← hnames]
    exact congrArg Prod.snd (joins_eq p.sources)
  · exact fun joined hjoined => Sources.exists_body hjoined

end Yoy.Plan

/-- The source of names selects a key and a name. -/
theorem Grouped.NameSource.selects (s : NameSource) : s.toSelect.Selects [groupId, groupName] :=
  .cons ⟨s.key, rfl⟩ (.cons ⟨"any(" ++ s.column ++ ")", rfl⟩ .nil)

namespace Grouped.Plan

def scope (p : Plan) : Scope where
  joined := (groupKeys, [groupId]) ::
    (p.sources.selected ++ p.names.toList.map fun _ => (groupNames, [groupId, groupName]))
  outputs := p.outputs.map Output.name

/-- The plan defines the two sources of each table that takes part, takes the keys of groups from each once,
joins each once to the keys, and the names of groups if there are any, and refers to nothing else. -/
structure Closed (r : Registry) (metrics : List BaseMetric) (s : Statement) (p : Plan) : Prop where
  ctes : p.toSelect.ctes.map Prod.fst =
    sourceNames (s.tables metrics) ++ groupKeys :: p.names.toList.map fun _ => groupNames
  distinct : (p.toSelect.ctes.map Prod.fst).Nodup
  undefined : ∀ t ∈ s.skipped, ∀ period, Source.nameOf t period ∉ p.toSelect.ctes.map Prod.fst
  keys : (groupKeys, s!"SELECT DISTINCT {groupId} FROM (" ++ " UNION ALL ".intercalate
    ((sourceNames (s.tables metrics)).map fun name => s!"SELECT {groupId} FROM {name}") ++ ")") ∈ p.toSelect.ctes
  source : p.toSelect.source = some groupKeys
  joins : p.toSelect.joins =
    (sourceNames (s.tables metrics) ++ p.names.toList.map fun _ => groupNames).map joinToKeys
  joined : p.scope.joined.map Prod.fst =
    groupKeys :: (sourceNames (s.tables metrics) ++ p.names.toList.map fun _ => groupNames)
  keyed : ∀ joined ∈ p.scope.joined, groupId ∈ joined.2
  bodies : ∀ joined ∈ p.scope.joined, joined = (groupKeys, [groupId]) ∨
    ∃ body : Select, (joined.1, body.text) ∈ p.toSelect.ctes ∧ body.Selects joined.2
  columns : p.toSelect.columns = p.outputs.map Output.text
  skipped : ∀ t, t ∈ s.skipped ↔ t ∈ p.sources.skipped
  references : p.scope.Closed r (TableMetrics.ofMetrics metrics) p.sources.skipped p.outputs p.resolved
  orderBy : ∃ field direction, p.toSelect.orderBy = [field ++ " " ++ direction, "id ASC"] ∧
    field ∈ p.scope.outputs ∧ "id" ∈ p.scope.outputs

/-- Names of the expressions with the keys and the names of groups. -/
def groupSources (p : Plan) : List String := groupKeys :: p.names.toList.map fun _ => groupNames

theorem nodup_groupSources (p : Plan) : p.groupSources.Nodup := by
  have hne : groupKeys ≠ groupNames := by decide
  unfold groupSources
  cases p.names <;> simp [hne]

theorem nameOf_not_mem_groupSources (p : Plan) (t : String) (period : Period) :
    Source.nameOf t period ∉ p.groupSources := by
  intro hmem
  rcases List.mem_cons.mp hmem with heq | hmem
  · exact Source.nameOf_ne_groupKeys t period heq
  · obtain ⟨-, -, heq⟩ := List.mem_map.mp hmem
    exact Source.nameOf_ne_groupNames t period heq.symm

theorem map_fst_ctes (p : Plan) :
    p.toSelect.ctes.map Prod.fst = p.sources.all.map Source.name ++ p.groupSources := by
  rw [toSelect, List.map_append, Sources.map_fst_ctes, List.map_cons, List.map_map]
  rfl

theorem map_fst_joined (p : Plan) : p.scope.joined.map Prod.fst =
    groupKeys :: (p.sources.all.map Source.name ++ p.names.toList.map fun _ => groupNames) := by
  rw [scope, List.map_cons, List.map_append, Sources.map_fst_selected, List.map_map]
  rfl

/-- What is defined is joined. -/
theorem mem_joined_iff (p : Plan) (name : String) :
    name ∈ p.scope.joined.map Prod.fst ↔ name ∈ p.toSelect.ctes.map Prod.fst := by
  rw [map_fst_joined, map_fst_ctes, groupSources]
  simp only [List.mem_cons, List.mem_append]
  exact or_left_comm

theorem keysText_eq (s : Sources) : keysText s = s!"SELECT DISTINCT {groupId} FROM (" ++
    " UNION ALL ".intercalate ((s.all.map Source.name).map fun name => s!"SELECT {groupId} FROM {name}") ++
      ")" := by
  rw [List.map_map]
  rfl

theorem exists_body {p : Plan} {joined : String × List String} (h : joined ∈ p.scope.joined) :
    joined = (groupKeys, [groupId]) ∨
      ∃ body : Select, (joined.1, body.text) ∈ p.toSelect.ctes ∧ body.Selects joined.2 := by
  rcases List.mem_cons.mp h with rfl | h
  · exact .inl rfl
  · refine .inr ?_
    rcases List.mem_append.mp h with h | h
    · obtain ⟨body, hbody, hselects⟩ := Sources.exists_body h
      exact ⟨body, List.mem_append_left _ hbody, hselects⟩
    · obtain ⟨names, hnames, rfl⟩ := List.mem_map.mp h
      refine ⟨names.toSelect, ?_, names.selects⟩
      exact List.mem_append_right _ (List.mem_cons_of_mem _ (List.mem_map.mpr ⟨names, hnames, rfl⟩))

/-- Every joined expression selects the key that it is joined by. -/
theorem Answers.keyed {r : Registry} {request : GroupedRequest} {today : Date} {d : Dimension}
    {groups : TableMetrics} {w : Windows} {p : Plan} (h : p.Answers r request today d groups w) :
    ∀ joined ∈ p.scope.joined, groupId ∈ joined.2 := by
  intro joined hjoined
  rcases List.mem_cons.mp hjoined with rfl | hjoined
  · exact List.mem_singleton_self _
  · rcases List.mem_append.mp hjoined with hjoined | hjoined
    · obtain ⟨source, hsource, rfl⟩ := List.mem_map.mp hjoined
      obtain ⟨group, -, t, cs, period, -, hreads⟩ := h.sources.reads hsource
      exact hreads.groupId_mem rfl
    · obtain ⟨-, -, rfl⟩ := List.mem_map.mp hjoined
      exact List.mem_cons_self

theorem keyReference_resolves (p : Plan) : keyReference.ResolvesIn p.scope :=
  ⟨[groupId], List.mem_cons_self, List.mem_singleton_self _⟩

/-- The key and the name of a group are columns of joined expressions. -/
theorem lead_resolves (p : Plan) (groups : TableMetrics) :
    ∀ o ∈ (columnsOf p.names.isSome p.sources.skipped groups p.resolved).take 2,
      ∀ reference ∈ o.expr.references, reference.ResolvesIn p.scope ∧ ∀ name, reference ≠ .output name := by
  have hkey : keyReference.ResolvesIn p.scope ∧ ∀ name, keyReference ≠ .output name :=
    ⟨p.keyReference_resolves, by simp [keyReference]⟩
  intro o ho reference hreference
  rcases List.mem_pair.mp ho with rfl | rfl
  · rw [List.mem_singleton.mp hreference]
    exact hkey
  · cases hnames : p.names with
    | none =>
        rw [hnames] at hreference
        rw [List.mem_singleton.mp hreference]
        exact hkey
    | some names =>
        rw [hnames] at hreference
        rcases List.mem_pair.mp hreference with rfl | rfl
        · refine ⟨⟨[groupId, groupName], ?_, by simp⟩, by simp⟩
          simp [scope, hnames]
        · exact hkey

theorem Answers.closed {r : Registry} (hr : r.WellFormed) {request : GroupedRequest} {today : Date}
    {d : Dimension} {metrics : List BaseMetric} {w : Windows} {p : Plan} {s : Statement}
    (hbase : ∀ m ∈ metrics, m ∈ r.base)
    (h : p.Answers r request today d (TableMetrics.ofMetrics metrics) w)
    (hskipped : s.skipped = Sorted.names p.sources.skipped) : p.Closed r metrics s := by
  obtain ⟨hnames, hdistinct, hundefined⟩ := h.sources.sourceNames hskipped
  have hmem (t : String) : t ∈ s.skipped ↔ t ∈ p.sources.skipped := by rw [hskipped, Sorted.mem_names]
  have hctes : p.toSelect.ctes.map Prod.fst = sourceNames (s.tables metrics) ++ p.groupSources := by
    rw [map_fst_ctes, hnames]
  have hundefined' : ∀ t ∈ s.skipped, ∀ period, Source.nameOf t period ∉ p.toSelect.ctes.map Prod.fst := by
    intro t ht period hname
    rw [hctes, List.mem_append] at hname
    exact hname.elim (hundefined t ht period) (p.nameOf_not_mem_groupSources t period)
  have hdistinct' : (p.toSelect.ctes.map Prod.fst).Nodup := by
    rw [hctes, List.nodup_append]
    refine ⟨hdistinct, p.nodup_groupSources, ?_⟩
    rintro name hname other hother rfl
    obtain ⟨t, -, hname⟩ := List.mem_flatMap.mp hname
    obtain ⟨period, rfl⟩ := Source.exists_nameOf hname
    exact p.nameOf_not_mem_groupSources t period hother
  have hunjoined : ∀ t ∈ p.sources.skipped, ∀ period,
      Source.nameOf t period ∉ p.scope.joined.map Prod.fst := by
    intro t ht period hname
    exact hundefined' t ((hmem t).mpr ht) period ((p.mem_joined_iff _).mp hname)
  have hselected : p.sources.selected ⊆ p.scope.joined := by
    intro joined hjoined
    exact List.mem_cons_of_mem _ (List.mem_append_left _ hjoined)
  have hreferences : p.scope.Closed r (TableMetrics.ofMetrics metrics) p.sources.skipped p.outputs p.resolved :=
    h.sources.closed hr hbase hselected hunjoined (fun _ => rfl) _ [⟨"_total_count", .groupCount⟩]
      (p.lead_resolves (TableMetrics.ofMetrics metrics)) (by simp [OutputExpr.references]) h.resolved
      h.outputs rfl
  refine ⟨hctes, hdistinct', hundefined', ?_, rfl, ?_, ?_, h.keyed, fun _ => exists_body, rfl, hmem,
    hreferences, p.orderBy, p.direction.keyword, rfl, ?_, ?_⟩
  · rw [← hnames, ← keysText_eq]
    exact List.mem_append_right _ List.mem_cons_self
  · rw [← hnames, List.map_append, List.map_map, List.map_map]
    rfl
  · rw [map_fst_joined, hnames]
  · rw [h.orderBy, scope, h.outputs]
    exact orderField_mem request.orderBy
  · rw [scope, h.outputs]
    simp [columnsOf]

end Grouped.Plan

/-- The statements that answer requests are closed. -/
theorem Statement.closed_of_build {tables : List Table} {base : List BaseMetric}
    {calculated : List CalculatedMetric} {dimensions : List Dimension} {r : Registry}
    (hr : Registry.build tables base calculated dimensions = .ok r) :
    (∀ (request : YoyRequest) (today : Date) (s : Statement), Yoy.statement r request today = .ok s →
      ∃ metrics plan, r.selectMetrics request.metrics = .ok metrics ∧
        Yoy.plan r request today = .ok plan ∧ s.sql = plan.toSelect.text ∧ plan.Closed r metrics s) ∧
    ∀ (request : GroupedRequest) (today : Date) (s : Statement),
      Grouped.statement r request today = .ok (some s) →
      ∃ metrics plan, r.selectMetrics request.metrics = .ok metrics ∧
        Grouped.plan r request today = .ok (some plan) ∧ s.sql = plan.toSelect.text ∧
        plan.Closed r metrics s := by
  have hwell : r.WellFormed := Registry.wellFormed_of_build hr
  constructor
  · intro request today s h
    obtain ⟨p, groups, w, hplan, hanswers, hrenders⟩ := Yoy.statement_ok h
    obtain ⟨metrics, hmetrics, rfl⟩ := Registry.metricsByTable_ok hanswers.metrics
    have hbase := Registry.mem_base_of_selectMetrics hmetrics
    exact ⟨metrics, p, hmetrics, hplan, hrenders.sql, hanswers.closed hwell hbase hrenders.skipped⟩
  · intro request today s h
    obtain ⟨p, d, groups, w, hplan, hanswers, hrenders⟩ := Grouped.statement_some_ok h
    obtain ⟨metrics, hmetrics, rfl⟩ := Registry.metricsByTable_ok hanswers.metrics
    have hbase := Registry.mem_base_of_selectMetrics hmetrics
    exact ⟨metrics, p, hmetrics, hplan, hrenders.sql, hanswers.closed hwell hbase hrenders.skipped⟩

section

open Registry Registry.Builtin

/-- Two of three tables are skipped, and the unit margin stands behind the unit price that it refers to. -/
theorem Statement.closed_builtin :
    Registry.build Builtin.tables Builtin.base Builtin.calculated Builtin.dimensions = .ok .builtin ∧
    (∃ s, Yoy.statement .builtin ⟨[], plainFilters⟩ spring = .ok s ∧
      (s.skipped, s.calculated) = (["inventory", "purchases"],
        ["gross_margin_pct", "avg_ticket", "avg_unit_price", "stock_turnover", "gmroi",
          "purchases_to_sales_pct", "avg_unit_margin"]) ∧
      ∃ metrics plan, Registry.builtin.selectMetrics [] = .ok metrics ∧
        Yoy.plan .builtin ⟨[], plainFilters⟩ spring = .ok plan ∧ s.sql = plan.toSelect.text ∧
        plan.Closed .builtin metrics s) ∧
    ∃ s, Grouped.statement .builtin (bySeller plainFilters "1; DROP TABLE inventory") spring = .ok (some s) ∧
      (s.skipped, s.calculated) = (["inventory"], ["stock_turnover"]) ∧
      ∃ metrics plan, Registry.builtin.selectMetrics ["sales", "stock_value"] = .ok metrics ∧
        Grouped.plan .builtin (bySeller plainFilters "1; DROP TABLE inventory") spring = .ok (some plan) ∧
        s.sql = plan.toSelect.text ∧ plan.Closed .builtin metrics s := by
  obtain ⟨hyoy, hgrouped⟩ := closed_of_build build_builtin
  refine ⟨build_builtin, ?_, ?_⟩
  · obtain ⟨s, hs, hshape⟩ := Except.exists_of_map (f := fun s => (s.skipped, s.calculated))
      (e := Yoy.statement .builtin ⟨[], plainFilters⟩ spring)
      (b := (["inventory", "purchases"], ["gross_margin_pct", "avg_ticket", "avg_unit_price", "stock_turnover",
        "gmroi", "purchases_to_sales_pct", "avg_unit_margin"]))
      (by decide +kernel)
    exact ⟨s, hs, hshape, hyoy _ _ s hs⟩
  · obtain ⟨s, hs, hshape⟩ := Except.exists_some_of_map (f := fun s => (s.skipped, s.calculated))
      (e := Grouped.statement .builtin (bySeller plainFilters "1; DROP TABLE inventory") spring)
      (b := (["inventory"], ["stock_turnover"])) (by decide +kernel)
    exact ⟨s, hs, hshape, hgrouped _ _ s hs⟩

end
end BalanceSheet
