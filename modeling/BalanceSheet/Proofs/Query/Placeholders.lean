import BalanceSheet.Proofs.Condition.Placeholders
import BalanceSheet.Proofs.Query.Output
import BalanceSheet.Proofs.Query.Plans

/-!
The placeholders of a statement are those of its parameters, in order. The text is put together in another
place than the parameters are bound: the conditions of each source stand in an expression of their own, the
names of groups in the last one. But each clause shows the placeholders of its own parameters, so each
expression shows those of its clauses and the statement those of its expressions, while all that is taken
from the registry, formulas with their dependencies replaced included, opens no brace.
-/

namespace BalanceSheet

open Text

/-! ### Sources -/

theorem Select.plain_named {expr name : String} (hexpr : Plain expr) (hname : Plain name) :
    Plain (named expr name) := by
  have hword : Plain " AS " := by decide
  simp [named, hexpr, hname, hword]

namespace Source

theorem plain_metricColumn {m : BaseMetric} (h : m.Plain) (period : Period) : Plain (metricColumn period m) := by
  cases period with
  | current => exact h.name
  | previous => exact h.fields.1

theorem plain_nameOf {table : String} (h : Plain table) (period : Period) : Plain (nameOf table period) := by
  have hsuffixes : Plain "_current" ∧ Plain "_previous" := by decide
  cases period with
  | current => exact plain_append_iff.mpr ⟨h, hsuffixes.1⟩
  | previous => exact plain_append_iff.mpr ⟨h, hsuffixes.2⟩

/-- A source shows the placeholders of its parameters. -/
theorem Reads.shows {t : Table} {metrics : List BaseMetric} {cs : List Condition} {dimension : Option Dimension}
    {period : Period} {s : Source} (ht : t.WellFormed) (hmetrics : ∀ m ∈ metrics, m.Plain)
    (hdimension : ∀ d ∈ dimension, isIdentifier d.name = true) (h : s.Reads t metrics cs dimension period)
    (hnames : ∀ p ∈ s.params, Params.isName p.name.toList = true) :
    Plain s.name ∧ Shows s.toSelect.text (s.params.map Param.inside) := by
  have htable : Plain t.name := plain_of_isIdentifier ht.name
  have hgroupId : Plain groupId := by decide
  have hkey : ∀ key ∈ s.key, Plain key := by
    intro key hkey
    rw [h.key] at hkey
    obtain ⟨d, hd, hexpr⟩ := Option.bind_eq_some_iff.mp hkey
    exact Dimension.plain_keyExpr (hdimension d hd) ht hexpr
  refine ⟨h.name ▸ plain_nameOf htable period, ?_⟩
  have hconjuncts := Condition.shows_clauses ht h.clauses hnames
  rw [params, ← flatten_map_inside]
  apply Select.shows_text_of_ctes_nil (s := s.toSelect) rfl ?_ ?_ ?_ hconjuncts ?_ ?_
  · intro column hcolumn
    rcases List.mem_append.mp hcolumn with hmem | hmem
    · obtain ⟨key, hkeys, rfl⟩ := List.mem_map.mp hmem
      exact Select.plain_named (hkey key (Option.mem_toList.mp hkeys)) hgroupId
    · rw [h.aggregates, List.map_map, List.mem_map] at hmem
      obtain ⟨m, hm, rfl⟩ := hmem
      exact Select.plain_named (hmetrics m hm).expr (plain_metricColumn (hmetrics m hm) period)
  · rintro source ⟨⟩
    exact h.table ▸ htable
  · intro join hjoin
    cases hjoin
  · intro item hitem
    obtain ⟨-, -, rfl⟩ := List.mem_map.mp hitem
    exact hgroupId
  · intro item hitem
    cases hitem

end Source

namespace Sources

variable {r : Registry} {w : Windows} {dimension : Option Dimension}

/-- The expressions of the sources show the placeholders of the parameters source by source. -/
theorem Covers.shows {groups : TableMetrics} {s : Sources} (hr : r.WellFormed)
    (hmetrics : ∀ m ∈ groups.metrics, m.Plain) (hdimension : ∀ d ∈ dimension, isIdentifier d.name = true)
    (h : s.Covers r w dimension groups) (hnames : ∀ p ∈ s.params, Params.isName p.name.toList = true) :
    List.Forall₂ (fun cte part => Plain cte.1 ∧ Shows cte.2 part) s.ctes
      (s.all.map fun source => source.params.map Param.inside) := by
  rw [ctes, List.forall₂_map_left_iff, List.forall₂_map_right_iff, List.forall₂_same]
  intro source hsource
  obtain ⟨group, hgroup, t, cs, period, ht, hreads⟩ := h.reads hsource
  apply hreads.shows (hr.table ht) ?_ hdimension ?_
  · intro m hm
    exact hmetrics m (List.mem_flatMap.mpr ⟨group, hgroup, hm⟩)
  · intro p hp
    apply hnames p
    rw [params_eq_all]
    exact List.mem_flatMap.mpr ⟨source, hsource, hp⟩

theorem flatten_map_inside (s : Sources) :
    (s.all.map fun source => source.params.map Param.inside).flatten = s.params.map Param.inside := by
  rw [← List.flatMap_def, params_eq_all, List.map_flatMap]

end Sources

/-! ### Output columns -/

namespace OutputExpr

theorem plain_value {reference : Reference} (h : Plain reference.text) : Plain (value reference).text := h

theorem plain_valueOrZero {reference : Reference} (h : Plain reference.text) :
    Plain (valueOrZero reference).text := by
  have hwords : Plain "coalesce(" ∧ Plain ", 0)" := by decide
  show Plain s!"coalesce({reference.text}, 0)"
  simp [h, hwords]

theorem plain_change {current lastYear : Reference} (hcurrent : Plain current.text)
    (hlastYear : Plain lastYear.text) : Plain (change current lastYear).text := by
  have hwords : Plain "if(" ∧ Plain " != 0, ((" ∧ Plain " - " ∧ Plain ") / " ∧ Plain ") * 100, 0)" := by decide
  show Plain s!"if({lastYear.text} != 0, (({current.text} - {lastYear.text}) / {lastYear.text}) * 100, 0)"
  simp [hcurrent, hlastYear, hwords]

theorem plain_nameOrKey {name key : Reference} (hname : Plain name.text) (hkey : Plain key.text) :
    Plain (nameOrKey name key).text := by
  have hwords : Plain "coalesce(nullIf(" ∧ Plain ", ''), " ∧ Plain ")" := by decide
  show Plain s!"coalesce(nullIf({name.text}, ''), {key.text})"
  simp [hname, hkey, hwords]

end OutputExpr

namespace Output

theorem plain_text {o : Output} (hname : Plain o.name) (hexpr : Plain o.expr.text) : Plain o.text := by
  have hword : Plain " AS " := by decide
  simp [text, hname, hexpr, hword]

theorem plain_ofMetrics {read : Reference → OutputExpr} {skipped : List String} {groups : TableMetrics}
    (hread : ∀ reference : Reference, Plain reference.text → Plain (read reference).text)
    (hmetrics : ∀ m ∈ groups.metrics, m.Plain) : ∀ o ∈ ofMetrics read skipped groups, Plain o.text := by
  intro o ho
  obtain ⟨m, hm, ho⟩ := List.mem_flatMap.mp ho
  have hplain := hmetrics m hm
  obtain ⟨hprevious, hlastYear, hchange⟩ := hplain.fields
  obtain ⟨hcurrentSource, hpreviousSource⟩ := hplain.sources
  split at ho
  case isTrue =>
      have hzero : Plain OutputExpr.zero.text := by decide
      simp only [zeros, List.mem_cons, List.not_mem_nil, or_false] at ho
      rcases ho with rfl | rfl | rfl | rfl
      · exact plain_text hplain.name hzero
      · exact plain_text hprevious hzero
      · exact plain_text hlastYear hzero
      · exact plain_text hchange hzero
  case isFalse =>
      simp only [compared, List.mem_cons, List.not_mem_nil, or_false] at ho
      rcases ho with rfl | rfl | rfl
      · exact plain_text hplain.name (hread _ (Reference.plain_column hcurrentSource hplain.name))
      · exact plain_text hlastYear (hread _ (Reference.plain_column hpreviousSource hprevious))
      · exact plain_text hchange (OutputExpr.plain_change hplain.name hlastYear)

end Output

theorem Aliases.plain_reference {skipped : List String} {groups : TableMetrics}
    (hmetrics : ∀ m ∈ groups.metrics, m.Plain) {name : String} (hname : Plain name) :
    Plain ((ofMetrics skipped groups).reference name).text := by
  by_cases hhas : (ofMetrics skipped groups).has name = true
  · obtain ⟨m, hm, ⟨-, period, hreference⟩ | ⟨-, period, hreference⟩⟩ := reference_cases hhas
    · rw [hreference]
      exact Reference.plain_column (Source.plain_nameOf (hmetrics m hm).table period)
        (Source.plain_metricColumn (hmetrics m hm) period)
    · rw [hreference]
      exact Source.plain_metricColumn (hmetrics m hm) period
  · rw [reference_eq_output hhas]
    exact hname

/-- A resolved metric is one of the registry, and its dependencies are names. -/
theorem CalculatedMetric.isPart_dependencies {r : Registry} (hr : r.WellFormed) {skipped : List String}
    {groups : TableMetrics} (hgroups : ∀ m ∈ groups.metrics, m.WellFormed r) {m : ResolvedMetric}
    (hm : m ∈ resolveAll (Aliases.ofMetrics skipped groups) r.calculated) :
    ∃ c ∈ r.calculated, m = c.resolve (Aliases.ofMetrics skipped groups) ∧
      ∀ name ∈ c.dependencies, ∀ char ∈ name.toList, Identifier.isPart char = true := by
  have hfounded : Founded (Aliases.ofMetrics skipped groups) r.calculated
      (resolveAll (Aliases.ofMetrics skipped groups) r.calculated) := founded_resolveAll
  obtain ⟨before, after, hdone, c, hc, rfl, hsatisfied⟩ := hfounded.of_mem hm
  refine ⟨c, hc, rfl, ?_⟩
  intro name hname
  rw [satisfied, List.all_eq_true] at hsatisfied
  have hdependency := hsatisfied name hname
  rw [Bool.or_eq_true, Aliases.has_ofMetrics, List.contains_iff_mem] at hdependency
  rcases hdependency with ⟨b, hb, rfl | rfl⟩ | hknown
  · exact isPart_of_isIdentifier (hgroups b hb).name
  · exact (hgroups b hb).isPart_lastYearField
  · obtain ⟨m', hm', rfl⟩ := List.mem_map.mp hknown
    have hmem : m' ∈ resolveAll (Aliases.ofMetrics skipped groups) r.calculated := by
      rw [hdone]
      exact List.mem_append_left _ hm'
    obtain ⟨c', hc', heq⟩ := hfounded.name_mem hmem
    rw [heq]
    exact isPart_of_isIdentifier (hr.calculated c' hc').1

/-- Resolved metrics open no brace, if the braces of the configured formulas belong to dependencies. -/
theorem CalculatedMetric.plain_resolveAll {r : Registry} (hr : r.WellFormed)
    (hformulas : ∀ m ∈ r.calculated, m.BracesDeclared) {skipped : List String} {groups : TableMetrics}
    (hgroups : ∀ m ∈ groups.metrics, m.WellFormed r) :
    ∀ m ∈ resolveAll (Aliases.ofMetrics skipped groups) r.calculated, Plain m.name ∧ Plain m.expr := by
  intro m hm
  obtain ⟨c, hc, rfl, hparts⟩ := isPart_dependencies hr hgroups hm
  refine ⟨plain_of_isIdentifier (hr.calculated c hc).1, plain_resolve (hformulas c hc) ?_⟩
  intro name hname
  have hunbraced : Unbraced name.toList := unbraced_of_isPart (hparts name hname)
  exact ⟨hunbraced, Aliases.plain_reference (fun b hb => (hgroups b hb).plain hr) hunbraced.1⟩

/-! ### Statements -/

theorem Sources.Covers.plain_name {r : Registry} {w : Windows} {dimension : Option Dimension}
    {groups : TableMetrics} {s : Sources} (hr : r.WellFormed) (h : s.Covers r w dimension groups) :
    ∀ name ∈ s.all.map Source.name, Plain name := by
  intro name hname
  obtain ⟨source, hsource, rfl⟩ := List.mem_map.mp hname
  obtain ⟨group, -, t, cs, period, ht, hreads⟩ := h.reads hsource
  rw [hreads.name]
  exact Source.plain_nameOf (plain_of_isIdentifier (hr.table ht).name) period

namespace Yoy.Plan

theorem plain_joins {s : Sources} (h : ∀ name ∈ s.all.map Source.name, Plain name) :
    (∀ source ∈ (joins s).1, Plain source) ∧ ∀ join ∈ (joins s).2, Plain join := by
  have hword : Plain "CROSS JOIN " := by decide
  unfold joins
  split
  case h_1 => simp
  case h_2 first rest hnames =>
      rw [hnames, List.forall_mem_cons] at h
      constructor
      · rintro source ⟨⟩
        exact h.1
      · intro join hjoin
        obtain ⟨name, hname, rfl⟩ := List.mem_map.mp hjoin
        exact plain_append_iff.mpr ⟨hword, h.2 name hname⟩

theorem Answers.shows {r : Registry} (hr : r.WellFormed) (hformulas : ∀ m ∈ r.calculated, m.BracesDeclared)
    {request : YoyRequest} {today : Date} {groups : TableMetrics} {w : Windows} {p : Plan}
    (h : p.Answers r request today groups w)
    (hnames : ∀ q ∈ p.sources.params, Params.isName q.name.toList = true) :
    Shows p.toSelect.text (p.sources.params.map Param.inside) := by
  have hgroups : ∀ m ∈ groups.metrics, m.WellFormed r := fun m hm =>
    hr.base m (Registry.mem_base_of_metricsByTable h.metrics m hm)
  have hplain : ∀ m ∈ groups.metrics, m.Plain := fun m hm => (hgroups m hm).plain hr
  have hctes := h.sources.shows hr hplain (by simp) hnames
  obtain ⟨hsource, hjoins⟩ := plain_joins (h.sources.plain_name hr)
  have hcolumns : ∀ column ∈ p.toSelect.columns, Plain column := by
    intro column hcolumn
    obtain ⟨o, ho, rfl⟩ := List.mem_map.mp hcolumn
    rw [h.outputs, h.resolved] at ho
    rcases List.mem_append.mp ho with ho | ho
    · exact Output.plain_ofMetrics (fun _ => OutputExpr.plain_value) hplain o ho
    · obtain ⟨m, hm, rfl⟩ := List.mem_map.mp ho
      obtain ⟨hname, hexpr⟩ := CalculatedMetric.plain_resolveAll hr hformulas hgroups m hm
      exact Output.plain_text hname hexpr
  rw [← Sources.flatten_map_inside]
  exact Select.shows_text_of_conjuncts_nil hctes hcolumns hsource hjoins rfl (by simp [toSelect])
    (by simp [toSelect])

end Yoy.Plan

namespace Grouped

theorem plain_words : Plain groupId ∧ Plain groupKeys ∧ Plain groupNames ∧ Plain groupName := by decide

theorem plain_keyReference : Plain keyReference.text := by decide

/-- The source of names shows the placeholders of its parameters. -/
theorem NameSource.Reads.shows {r : Registry} (hr : r.WellFormed) {d : Dimension} (hd : d.WellFormed r)
    {cs : List Condition} {c : NameColumn} {t : Table} {s : NameSource} (h : s.Reads r d cs c t)
    (hnames : ∀ p ∈ s.params, Params.isName p.name.toList = true) :
    Shows s.toSelect.text (s.params.map Param.inside) := by
  have ht : t.WellFormed := hr.table h.found
  have htable : Plain s.table := h.table ▸ plain_of_isIdentifier ht.name
  have hkey : Plain s.key := Dimension.plain_keyExpr hd.name ht h.key
  have hcolumn : Plain s.column := by
    obtain ⟨t', ht', hcolumn, -⟩ := hd.nameColumn c h.declared
    rw [h.column]
    exact plain_of_isIdentifier ((hr.table ht').isIdentifier_of_hasColumn hcolumn)
  have hany : Plain ("any(" ++ s.column ++ ")") := by
    have hbrackets : Plain "any(" ∧ Plain ")" := by decide
    simp [hcolumn, hbrackets]
  have hconjuncts := Condition.shows_clauses ht h.clauses hnames
  rw [params, ← flatten_map_inside]
  apply Select.shows_text_of_ctes_nil (s := s.toSelect) rfl ?_ ?_ ?_ hconjuncts ?_ ?_
  · intro column hmem
    rcases List.mem_pair.mp hmem with rfl | rfl
    · exact Select.plain_named hkey plain_words.1
    · exact Select.plain_named hany plain_words.2.2.2
  · rintro source ⟨⟩
    exact htable
  · intro join hjoin
    cases hjoin
  · intro item hitem
    rw [List.mem_singleton.mp hitem]
    exact plain_words.1
  · intro item hitem
    cases hitem

namespace Plan

theorem plain_joinToKeys {source : String} (h : Plain source) : Plain (joinToKeys source) := by
  have hwords : Plain "LEFT JOIN " ∧ Plain " ON " ∧ Plain " = " := by decide
  have hreference : Plain (Reference.column source groupId).text := Reference.plain_column h plain_words.1
  show Plain s!"LEFT JOIN {source} ON {(Reference.column source groupId).text} = {keyReference.text}"
  simp [h, hreference, hwords, plain_keyReference]

theorem plain_keysText {s : Sources} (h : ∀ name ∈ s.all.map Source.name, Plain name) : Plain (keysText s) := by
  have hwords : Plain "SELECT " ∧ Plain " FROM " ∧ Plain "SELECT DISTINCT " ∧ Plain " FROM (" ∧ Plain ")" := by
    decide
  have hkeys : Plain (" UNION ALL ".intercalate
      (s.all.map fun source => s!"SELECT {groupId} FROM {source.name}")) := by
    apply plain_intercalate (by decide)
    intro text htext
    obtain ⟨source, hsource, rfl⟩ := List.mem_map.mp htext
    have hname := h source.name (List.mem_map_of_mem hsource)
    simp [hname, hwords, plain_words.1]
  unfold keysText
  simp [hkeys, hwords, plain_words.1]

theorem plain_columnsOf {named : Bool} {skipped : List String} {groups : TableMetrics}
    {resolved : List ResolvedMetric} (hmetrics : ∀ m ∈ groups.metrics, m.Plain)
    (hresolved : ∀ m ∈ resolved, Plain m.name ∧ Plain m.expr) :
    ∀ o ∈ columnsOf named skipped groups resolved, Plain o.text := by
  have hfixed : Plain "id" ∧ Plain "name" ∧ Plain "_total_count" := by decide
  have hcount : Plain OutputExpr.groupCount.text := by decide
  have hname : Plain (Reference.column groupNames groupName).text :=
    Reference.plain_column plain_words.2.2.1 plain_words.2.2.2
  intro o ho
  simp only [columnsOf, List.mem_append, List.mem_cons, List.not_mem_nil, or_false] at ho
  rcases ho with (((rfl | rfl) | ho) | ho) | rfl
  · exact Output.plain_text hfixed.1 plain_keyReference
  · apply Output.plain_text hfixed.2.1
    cases named with
    | true => exact OutputExpr.plain_nameOrKey hname plain_keyReference
    | false => exact plain_keyReference
  · exact Output.plain_ofMetrics (fun _ => OutputExpr.plain_valueOrZero) hmetrics o ho
  · obtain ⟨m, hm, rfl⟩ := List.mem_map.mp ho
    obtain ⟨hname, hexpr⟩ := hresolved m hm
    exact Output.plain_text hname hexpr
  · exact Output.plain_text hfixed.2.2 hcount

/-- Rows are ordered by an output column, whatever was asked for, and the names of output columns open no
brace as their texts open none. -/
theorem plain_orderField {groups : TableMetrics} {resolved : List ResolvedMetric}
    (hmetrics : ∀ m ∈ groups.metrics, m.Plain) (hresolved : ∀ m ∈ resolved, Plain m.name ∧ Plain m.expr)
    (requested : Option String) : Plain (orderField groups resolved requested) := by
  have hmem : orderField groups resolved requested ∈ (columnsOf false [] groups resolved).map Output.name :=
    orderField_mem requested
  obtain ⟨o, ho, hname⟩ := List.mem_map.mp hmem
  have htext : Plain (o.expr.text ++ " AS " ++ o.name) := plain_columnsOf hmetrics hresolved o ho
  rw [← hname]
  exact (plain_append_iff.mp htext).2

theorem Answers.shows {r : Registry} (hr : r.WellFormed) (hformulas : ∀ m ∈ r.calculated, m.BracesDeclared)
    {request : GroupedRequest} {today : Date} {d : Dimension} {groups : TableMetrics} {w : Windows} {p : Plan}
    (h : p.Answers r request today d groups w)
    (hnames : ∀ q ∈ p.params, Params.isName q.name.toList = true) :
    Shows p.toSelect.text (p.params.map Param.inside) := by
  have hd : d.WellFormed r := hr.dimension h.dimension
  have hgroups : ∀ m ∈ groups.metrics, m.WellFormed r := fun m hm =>
    hr.base m (Registry.mem_base_of_metricsByTable h.metrics m hm)
  have hplain : ∀ m ∈ groups.metrics, m.Plain := fun m hm => (hgroups m hm).plain hr
  have hresolved : ∀ m ∈ p.resolved, Plain m.name ∧ Plain m.expr := by
    rw [h.resolved]
    exact CalculatedMetric.plain_resolveAll hr hformulas hgroups
  have hsourceNames := h.sources.plain_name hr
  have hsources := h.sources.shows hr hplain (by simpa using hd.name) fun q hq =>
    hnames q (List.mem_append_left _ hq)
  have hnameSource : List.Forall₂ (fun cte part => Plain cte.1 ∧ Shows cte.2 part)
      (p.names.toList.map fun names => (groupNames, names.toSelect.text))
      (p.names.toList.map fun names => names.params.map Param.inside) := by
    rw [List.forall₂_map_left_iff, List.forall₂_map_right_iff, List.forall₂_same]
    intro names hmem
    obtain ⟨c, t, hreads⟩ := h.names names (Option.mem_toList.mp hmem)
    refine ⟨plain_words.2.2.1, hreads.shows hr hd ?_⟩
    intro q hq
    exact hnames q (List.mem_append_right _ (List.mem_flatMap.mpr ⟨names, hmem, hq⟩))
  have hkeys : Plain groupKeys ∧ Shows (keysText p.sources) [] :=
    ⟨plain_words.2.1, shows_nil_iff.mpr (plain_keysText hsourceNames)⟩
  have hrest : List.Forall₂ (fun cte part => Plain cte.1 ∧ Shows cte.2 part)
      ((groupKeys, keysText p.sources) :: p.names.toList.map fun names => (groupNames, names.toSelect.text))
      ([] :: p.names.toList.map fun names => names.params.map Param.inside) := .cons hkeys hnameSource
  have hctes := List.rel_append hsources hrest
  have hcolumns : ∀ column ∈ p.toSelect.columns, Plain column := by
    intro column hcolumn
    obtain ⟨o, ho, rfl⟩ := List.mem_map.mp hcolumn
    rw [h.outputs] at ho
    exact plain_columnsOf hplain hresolved o ho
  have hjoins : ∀ join ∈ p.toSelect.joins, Plain join := by
    intro join hjoin
    rcases List.mem_append.mp hjoin with hmem | hmem
    · obtain ⟨source, hsource, rfl⟩ := List.mem_map.mp hmem
      exact plain_joinToKeys (hsourceNames _ (List.mem_map_of_mem hsource))
    · obtain ⟨-, -, rfl⟩ := List.mem_map.mp hmem
      exact plain_joinToKeys plain_words.2.2.1
  have horder : ∀ item ∈ p.toSelect.orderBy, Plain item := by
    have hfield : Plain p.orderBy := by
      rw [h.orderBy]
      exact plain_orderField hplain hresolved _
    have hdirection : Plain p.direction.keyword := by cases p.direction <;> decide
    have hfixed : Plain " " ∧ Plain "id ASC" := by decide
    intro item hitem
    rcases List.mem_pair.mp hitem with rfl | rfl
    · simp [hfield, hdirection, hfixed]
    · exact hfixed.2
  have hparts : (p.sources.all.map (fun source => source.params.map Param.inside) ++
      [] :: p.names.toList.map fun names => names.params.map Param.inside).flatten =
      p.params.map Param.inside := by
    rw [List.flatten_append, List.flatten_cons, List.nil_append, Sources.flatten_map_inside, params,
      List.map_append, ← List.flatMap_def, List.map_flatMap]
  rw [← hparts]
  exact Select.shows_text_of_conjuncts_nil hctes hcolumns (by rintro source ⟨⟩; exact plain_words.2.1) hjoins
    rfl (by simp [toSelect]) horder

end Plan
end Grouped

theorem Distinct.Renders.shows {r : Registry} (hr : r.WellFormed) {request : DistinctRequest} {t : Table}
    {c : Column} {limit : Nat} {cls : List (Clause Param)} {s : Statement}
    (h : Renders r request t c limit cls s) : Shows s.sql (s.params.toList.map Param.inside) := by
  have ht : t.WellFormed := hr.table h.table
  have hcolumn : Plain c.name := plain_of_isIdentifier (ht.isIdentifier_of_column? h.column)
  have hnames : ∀ p ∈ cls.flatMap Clause.values, Params.isName p.name.toList = true := by
    rw [← h.params]
    exact h.numbered.isName
  have hnotNull : Shows (Clause.text (.isNotNull c.name)) [] :=
    @Clause.shows_text (.isNotNull c.name) (by simpa [Clause.words] using hcolumn) (by simp [Clause.values])
  have hconjuncts := List.Forall₂.cons hnotNull (Condition.shows_clauses ht h.clauses hnames)
  have hselected : Plain s!"DISTINCT toString({c.name}) AS value" := by
    have hwords : Plain "DISTINCT toString(" ∧ Plain ") AS value" := by decide
    simp [hcolumn, hwords]
  have hshows := Select.shows_text_of_ctes_nil (s := toSelect t c cls ⟨limit, request.page.offset⟩) rfl
    (by simpa [toSelect] using hselected)
    (by rintro source ⟨⟩; exact plain_of_isIdentifier ht.name)
    (by simp [toSelect]) hconjuncts (by simp [toSelect]) (by simp only [toSelect]; decide)
  rw [h.sql, h.params, ← flatten_map_inside]
  rwa [List.flatten_cons, List.nil_append] at hshows

/-- The placeholders of every statement are its parameters, one by one and in order. -/
theorem Statement.placeholders_match {tables : List Table} {base : List BaseMetric}
    {calculated : List CalculatedMetric} {dimensions : List Dimension} {r : Registry}
    (hr : Registry.build tables base calculated dimensions = .ok r)
    (hformulas : ∀ m ∈ r.calculated, m.BracesDeclared) :
    (∀ (request : YoyRequest) (today : Date) (s : Statement),
      Yoy.statement r request today = .ok s → s.PlaceholdersMatch) ∧
    (∀ (request : GroupedRequest) (today : Date) (s : Statement),
      Grouped.statement r request today = .ok (some s) → s.PlaceholdersMatch) ∧
    ∀ (request : DistinctRequest) (s : Statement),
      Distinct.statement r request = .ok s → s.PlaceholdersMatch := by
  have hwell : r.WellFormed := Registry.wellFormed_of_build hr
  refine ⟨?_, ?_, ?_⟩
  · intro request today s h
    obtain ⟨p, groups, w, -, hanswers, hrenders⟩ := Yoy.statement_ok h
    apply placeholdersMatch_of_shows hrenders.numbered
    rw [hrenders.sql, hrenders.params]
    apply hanswers.shows hwell hformulas
    rw [← hrenders.params]
    exact hrenders.numbered.isName
  · intro request today s h
    obtain ⟨p, d, groups, w, -, hanswers, hrenders⟩ := Grouped.statement_some_ok h
    apply placeholdersMatch_of_shows hrenders.numbered
    rw [hrenders.sql, hrenders.params]
    apply hanswers.shows hwell hformulas
    rw [← hrenders.params]
    exact hrenders.numbered.isName
  · intro request s h
    obtain ⟨t, c, limit, cls, hrenders⟩ := Distinct.statement_ok h
    exact placeholdersMatch_of_shows hrenders.numbered (hrenders.shows hwell)

section

open Registry Registry.Builtin

theorem Registry.Builtin.bracesDeclared : ∀ m ∈ Registry.builtin.calculated, m.BracesDeclared := by
  decide +kernel

/-- Two periods of one table and the names of sellers: four, five and three parameters. -/
theorem Statement.placeholders_match_builtin :
    Registry.build Builtin.tables Builtin.base Builtin.calculated Builtin.dimensions = .ok .builtin ∧
    (∀ m ∈ Registry.builtin.calculated, m.BracesDeclared) ∧
    (∃ s, Yoy.statement .builtin (totals plainFilters) spring = .ok s ∧ s.params.size = 9 ∧
      s.PlaceholdersMatch) ∧
    (∃ s, Grouped.statement .builtin (bySeller plainFilters "sales") spring = .ok (some s) ∧
      s.params.size = 12 ∧ s.PlaceholdersMatch) ∧
    ∃ s, Distinct.statement .builtin ⟨"transactions", "brand", plainFilters, .ofValues⟩ = .ok s ∧
      s.params.size = 4 ∧ s.PlaceholdersMatch := by
  obtain ⟨hyoy, hgrouped, hdistinct⟩ := placeholders_match Registry.build_builtin bracesDeclared
  refine ⟨Registry.build_builtin, bracesDeclared, ?_, ?_, ?_⟩
  · obtain ⟨s, hs, hsize⟩ := Except.exists_of_map (b := 9) (f := fun s => s.params.size)
      (e := Yoy.statement .builtin (totals plainFilters) spring) (by decide +kernel)
    exact ⟨s, hs, hsize, hyoy _ _ s hs⟩
  · obtain ⟨s, hs, hsize⟩ := Except.exists_some_of_map (b := 12) (f := fun s => s.params.size)
      (e := Grouped.statement .builtin (bySeller plainFilters "sales") spring) (by decide +kernel)
    exact ⟨s, hs, hsize, hgrouped _ _ s hs⟩
  · obtain ⟨s, hs, hsize⟩ := Except.exists_of_map (b := 4) (f := fun s => s.params.size)
      (e := Distinct.statement .builtin ⟨"transactions", "brand", plainFilters, .ofValues⟩) (by decide +kernel)
    exact ⟨s, hs, hsize, hdistinct _ s hs⟩

end
end BalanceSheet
