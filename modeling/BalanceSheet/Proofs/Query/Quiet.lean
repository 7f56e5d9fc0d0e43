import BalanceSheet.Proofs.Formula.Reading
import BalanceSheet.Proofs.Query.Placeholders

/-!
Statements that the guard has nothing against. If no table, column or base metric is named INTO, and no
formula brings the word in itself, then all that a statement is put together from is quiet: names stand
between fixed words that keep them apart, values between braces, and what is made longer by a suffix is not
the word any more. A calculated metric may be named INTO where a comma follows it.
-/

namespace BalanceSheet

open Text

namespace Registry

/-- No table, column or base metric is named INTO, in any letter case. -/
structure NamesNoInto (r : Registry) : Prop where
  tables : ∀ t ∈ r.tables, ¬ IsInto t.name.toList
  columns : ∀ t ∈ r.tables, ∀ c ∈ t.columns, ¬ IsInto c.name.toList
  base : ∀ m ∈ r.base, ¬ IsInto m.name.toList

instance (r : Registry) : Decidable r.NamesNoInto :=
  decidable_of_iff ((∀ t ∈ r.tables, ¬ IsInto t.name.toList) ∧
      (∀ t ∈ r.tables, ∀ c ∈ t.columns, ¬ IsInto c.name.toList) ∧ ∀ m ∈ r.base, ¬ IsInto m.name.toList)
    ⟨fun h => ⟨h.1, h.2.1, h.2.2⟩, fun h => ⟨h.tables, h.columns, h.base⟩⟩

end Registry

/-- The formula has no semicolon, and read with the names of its dependencies it has no word INTO between
spaces. -/
structure CalculatedMetric.SaysNoInto (m : CalculatedMetric) : Prop where
  words : ∀ word ∈ m.reading.toList.splitOn ' ', ¬ IsInto word
  semicolon : ';' ∉ m.formula.toList

instance (m : CalculatedMetric) : Decidable m.SaysNoInto :=
  decidable_of_iff ((∀ word ∈ m.reading.toList.splitOn ' ', ¬ IsInto word) ∧ ';' ∉ m.formula.toList)
    ⟨fun h => ⟨h.1, h.2⟩, fun h => ⟨h.words, h.semicolon⟩⟩

/-! ### Names -/

/-- A table whose own name and whose columns' names are quiet. -/
structure Table.Quiet (t : Table) : Prop where
  name : Text.Quiet t.name
  column : ∀ name, t.hasColumn name = true → Text.Quiet name
  dateColumn : Text.Quiet t.dateColumn

theorem Table.quiet {r : Registry} (hr : r.WellFormed) (hnames : r.NamesNoInto) {t : Table}
    (ht : t ∈ r.tables) : t.Quiet := by
  have hwell := hr.tables t ht
  have hcolumn : ∀ name, t.hasColumn name = true → Text.Quiet name := by
    intro name hname
    obtain ⟨c, hc, rfl⟩ := Table.hasColumn_iff.mp hname
    exact quiet_of_isIdentifier (hwell.columns c hc) (hnames.columns t ht c hc)
  exact ⟨quiet_of_isIdentifier hwell.name (hnames.tables t ht), hcolumn, hcolumn _ hwell.dateColumn⟩

namespace BaseMetric

/-- A metric whose names, of itself, its table and its column, are quiet. -/
structure Quiet (m : BaseMetric) : Prop where
  name : Text.Quiet m.name
  table : Text.Quiet m.table
  field : Text.Quiet m.field

theorem quiet {r : Registry} (hr : r.WellFormed) (hnames : r.NamesNoInto) {m : BaseMetric} (hm : m ∈ r.base) :
    m.Quiet := by
  obtain ⟨hname, t, ht, hfield⟩ := hr.base m hm
  have hquiet : t.Quiet := Table.quiet hr hnames (List.mem_of_find?_eq_some ht)
  exact ⟨quiet_of_isIdentifier hname (hnames.base m hm), Registry.name_of_table? ht ▸ hquiet.name,
    hquiet.column _ hfield⟩

theorem quiet_of_metricsByTable {r : Registry} (hr : r.WellFormed) (hnames : r.NamesNoInto)
    {names : List String} {groups : TableMetrics} (h : r.metricsByTable names = .ok groups) :
    ∀ m ∈ groups.metrics, m.Quiet :=
  fun m hm => quiet hr hnames (Registry.mem_base_of_metricsByTable h m hm)

theorem Quiet.expr {m : BaseMetric} (h : m.Quiet) : Text.Quiet m.expr := by
  have hfunction : Text.Quiet m.aggregation.function := by
    cases m.aggregation <;> decide
  exact (hfunction.joined (by decide) h.field).before (by decide)

theorem Quiet.fields {m : BaseMetric} (h : m.Quiet) :
    Text.Quiet m.previousColumn ∧ Text.Quiet m.lastYearField ∧ Text.Quiet m.changeField :=
  ⟨h.name.before (by decide), h.name.before (by decide), h.name.before (by decide)⟩

end BaseMetric

theorem Reference.quiet_column {source name : String} (hsource : Quiet source) (hname : Quiet name) :
    Quiet (Reference.column source name).text :=
  hsource.joined (by decide) hname

theorem Dimension.quiet_keyExpr {d : Dimension} {t : Table} (ht : t.Quiet) {period : Period} {key : String}
    (h : d.keyExpr? t period = some key) : Quiet key := by
  have hfunction (bucket : Granularity) : Quiet ("toString(" ++ bucket.function) := by cases bucket <;> decide
  cases hbucket : d.bucket with
  | some bucket =>
      cases period with
      | current =>
          obtain rfl : s!"toString({bucket.function}({t.dateColumn}))" = key := by simpa [keyExpr?, hbucket] using h
          exact ((hfunction bucket).joined (by decide) ht.dateColumn).before (by decide)
      | previous =>
          obtain rfl : s!"toString({bucket.function}(addYears({t.dateColumn}, 1)))" = key := by
            simpa [keyExpr?, hbucket] using h
          exact ((hfunction bucket).joined (by decide) ht.dateColumn).before (by decide)
  | none =>
      simp only [keyExpr?, hbucket] at h
      split at h
      case isTrue hcolumn =>
          cases h
          exact ((ht.column _ hcolumn).behind (by decide)).before (by decide)
      case isFalse => cases h

/-! ### Clauses -/

/-- A placeholder is one stretch, and has a brace. -/
theorem Param.quiet_placeholder {p : Param} (h : Params.isName p.name.toList = true) : Quiet p.placeholder := by
  have hname : Solid p.name := solid_of_isPart (Params.isPart_of_isName h)
  have htype : Solid p.type.storeName := by cases p.type <;> decide
  have hsolid : Solid p.placeholder :=
    (((Solid.append (by decide) hname).append (by decide)).append htype).append (by decide)
  apply hsolid.quiet
  intro hinto
  exact hinto.not_mem (c := '{') (by decide) (by simp [toList_placeholder])

theorem Clause.quiet_text {cl : Clause Param} (hwords : ∀ word ∈ cl.words, Quiet word)
    (hnames : ∀ p ∈ cl.values, Params.isName p.name.toList = true) : Quiet cl.text := by
  cases cl with
  | isNull column =>
      have hcolumn : Quiet column := hwords column (by simp [words])
      exact hcolumn.before (by decide)
  | isNotNull column =>
      have hcolumn : Quiet column := hwords column (by simp [words])
      exact hcolumn.before (by decide)
  | compares column symbol p =>
      have hcolumn : Quiet column := hwords column (by simp [words])
      have hsymbol : Quiet symbol := hwords symbol (by simp [words])
      exact (hcolumn.joined (by decide) hsymbol).joined (by decide)
        (Param.quiet_placeholder (hnames p (by simp [values])))
  | isAmong column symbol ps =>
      have hcolumn : Quiet column := hwords column (by simp [words])
      have hsymbol : Quiet symbol := hwords symbol (by simp [words])
      have hlist : Quiet (", ".intercalate (ps.map Param.placeholder)) := by
        apply Quiet.intercalate (by decide)
        intro text htext
        obtain ⟨p, hp, rfl⟩ := List.mem_map.mp htext
        exact Param.quiet_placeholder (hnames p hp)
      exact ((hcolumn.joined (by decide) hsymbol).joined (by decide) hlist).before (by decide)
  | contains target p | lacks target p | startsWith target p | endsWith target p =>
      have htarget : Quiet target := hwords target (by simp [words])
      exact ((htarget.behind (by decide)).joined (by decide)
        (Param.quiet_placeholder (hnames p (by simp [values])))).before (by decide)

namespace Condition

theorem Makes.quiet_words {t : Table} (hwell : t.WellFormed) (ht : t.Quiet) {c : Condition}
    {cl : Clause Param} (h : c.Makes t cl) : ∀ word ∈ cl.words, Quiet word := by
  obtain ⟨column, hcolumn, hwords⟩ := h.words
  have hname : Quiet column.name := ht.column _ (hasColumn_of_column? hwell hcolumn)
  have hsearched : Quiet (searched column) := by
    unfold searched
    split
    · exact hname
    · exact (hname.behind (by decide)).before (by decide)
  have hsymbols : ∀ symbol ∈ symbols, Quiet symbol := by decide
  intro word hword
  rcases hwords word hword with rfl | rfl | hsymbol
  · exact hname
  · exact hsearched
  · exact hsymbols word hsymbol

theorem quiet_clauses {t : Table} (hwell : t.WellFormed) (ht : t.Quiet) {cs : List Condition}
    {cls : List (Clause Param)} (h : List.Forall₂ (Makes t) cs cls)
    (hnames : ∀ p ∈ cls.flatMap Clause.values, Params.isName p.name.toList = true) :
    ∀ text ∈ cls.map Clause.text, Quiet text := by
  intro text htext
  obtain ⟨cl, hcl, rfl⟩ := List.mem_map.mp htext
  obtain ⟨c, -, hmakes⟩ := forall₂_exists_left h hcl
  apply Clause.quiet_text (hmakes.quiet_words hwell ht)
  intro p hp
  exact hnames p (List.mem_flatMap.mpr ⟨cl, hcl, hp⟩)

end Condition

/-! ### Sources -/

namespace Source

theorem quiet_metricColumn {m : BaseMetric} (h : m.Quiet) (period : Period) : Quiet (metricColumn period m) := by
  cases period with
  | current => exact h.name
  | previous => exact h.fields.1

theorem quiet_nameOf {table : String} (h : Quiet table) (period : Period) : Quiet (nameOf table period) := by
  cases period with
  | current => exact h.before (by decide)
  | previous => exact h.before (by decide)

theorem Reads.quiet {t : Table} {metrics : List BaseMetric} {cs : List Condition} {dimension : Option Dimension}
    {period : Period} {s : Source} (hwell : t.WellFormed) (ht : t.Quiet) (hmetrics : ∀ m ∈ metrics, m.Quiet)
    (h : s.Reads t metrics cs dimension period)
    (hnames : ∀ p ∈ s.params, Params.isName p.name.toList = true) :
    Quiet s.name ∧ Quiet s.toSelect.text := by
  have hgroupId : Quiet groupId := by decide
  refine ⟨h.name ▸ quiet_nameOf ht.name period, ?_⟩
  apply Select.quiet_text
  · intro cte hcte
    cases hcte
  · refine .of_quiet fun column hcolumn => ?_
    rcases List.mem_append.mp hcolumn with hmem | hmem
    · obtain ⟨key, hkey, rfl⟩ := List.mem_map.mp hmem
      rw [Option.mem_toList, h.key] at hkey
      obtain ⟨d, -, hexpr⟩ := Option.bind_eq_some_iff.mp hkey
      exact Select.quiet_named (Dimension.quiet_keyExpr ht hexpr) hgroupId
    · rw [h.aggregates, List.map_map, List.mem_map] at hmem
      obtain ⟨m, hm, rfl⟩ := hmem
      exact Select.quiet_named (hmetrics m hm).expr (quiet_metricColumn (hmetrics m hm) period)
  · rintro source ⟨⟩
    exact h.table ▸ ht.name
  · intro join hjoin
    cases hjoin
  · exact Condition.quiet_clauses hwell ht h.clauses hnames
  · intro item hitem
    obtain ⟨-, -, rfl⟩ := List.mem_map.mp hitem
    exact hgroupId
  · intro item hitem
    cases hitem

end Source

theorem Sources.Covers.quiet {r : Registry} {w : Windows} {dimension : Option Dimension} {groups : TableMetrics}
    {s : Sources} (hr : r.WellFormed) (hnoInto : r.NamesNoInto) (hmetrics : ∀ m ∈ groups.metrics, m.Quiet)
    (h : s.Covers r w dimension groups) (hnames : ∀ p ∈ s.params, Params.isName p.name.toList = true) :
    ∀ source ∈ s.all, Quiet source.name ∧ Quiet source.toSelect.text := by
  intro source hsource
  obtain ⟨group, hgroup, t, cs, period, ht, hreads⟩ := h.reads hsource
  have hmem : t ∈ r.tables := List.mem_of_find?_eq_some ht
  apply hreads.quiet (hr.tables t hmem) (Table.quiet hr hnoInto hmem)
  · intro m hm
    exact hmetrics m (List.mem_flatMap.mpr ⟨group, hgroup, hm⟩)
  · intro p hp
    apply hnames p
    rw [params_eq_all]
    exact List.mem_flatMap.mpr ⟨source, hsource, hp⟩

/-! ### Output columns -/

/-- An output column with a quiet name and a quiet expression. -/
def Output.Quiet (o : Output) : Prop := Text.Quiet o.name ∧ Text.Quiet o.expr.text

namespace Output

theorem Quiet.text {o : Output} (h : o.Quiet) : Text.Quiet o.text := h.2.joined (by decide) h.1

theorem quiet_valueOrZero {reference : Reference} (h : Text.Quiet reference.text) :
    Text.Quiet (OutputExpr.valueOrZero reference).text :=
  (h.behind (by decide)).before (by decide)

theorem quiet_change {current lastYear : Reference} (hcurrent : Text.Quiet current.text)
    (hlastYear : Text.Quiet lastYear.text) : Text.Quiet (OutputExpr.change current lastYear).text :=
  ((((hlastYear.behind (by decide)).joined (by decide) hcurrent).joined (by decide) hlastYear).joined
    (by decide) hlastYear).before (by decide)

theorem quiet_nameOrKey {name key : Reference} (hname : Text.Quiet name.text) (hkey : Text.Quiet key.text) :
    Text.Quiet (OutputExpr.nameOrKey name key).text :=
  ((hname.behind (by decide)).joined (by decide) hkey).before (by decide)

theorem quiet_ofMetrics {read : Reference → OutputExpr} {skipped : List String} {groups : TableMetrics}
    (hread : ∀ reference : Reference, Text.Quiet reference.text → Text.Quiet (read reference).text)
    (hmetrics : ∀ m ∈ groups.metrics, m.Quiet) : ∀ o ∈ ofMetrics read skipped groups, o.Quiet := by
  intro o ho
  obtain ⟨m, hm, ho⟩ := List.mem_flatMap.mp ho
  have hquiet := hmetrics m hm
  obtain ⟨hprevious, hlastYear, hchange⟩ := hquiet.fields
  split at ho
  case isTrue =>
      have hzero : Text.Quiet OutputExpr.zero.text := by decide
      simp only [zeros, List.mem_cons, List.not_mem_nil, or_false] at ho
      rcases ho with rfl | rfl | rfl | rfl
      · exact ⟨hquiet.name, hzero⟩
      · exact ⟨hprevious, hzero⟩
      · exact ⟨hlastYear, hzero⟩
      · exact ⟨hchange, hzero⟩
  case isFalse =>
      simp only [compared, List.mem_cons, List.not_mem_nil, or_false] at ho
      have hcurrentSource := Source.quiet_nameOf hquiet.table .current
      have hpreviousSource := Source.quiet_nameOf hquiet.table .previous
      rcases ho with rfl | rfl | rfl
      · exact ⟨hquiet.name, hread _ (Reference.quiet_column hcurrentSource hquiet.name)⟩
      · exact ⟨hlastYear, hread _ (Reference.quiet_column hpreviousSource hprevious)⟩
      · exact ⟨hchange, quiet_change hquiet.name hlastYear⟩

end Output

/-! ### Formulas -/

theorem Reference.solid_column {source name : String} (hsource : Solid source) (hname : Solid name) :
    Solid (Reference.column source name).text :=
  (hsource.append (by decide)).append hname

/-- What stands for a dependency is its name, or a longer name or a column of a source. -/
theorem Aliases.standsFor_reference {r : Registry} (hr : r.WellFormed) {skipped : List String}
    {groups : TableMetrics} (hgroups : ∀ m ∈ groups.metrics, m.WellFormed r) {name : String}
    (hname : ∀ c ∈ name.toList, Identifier.isPart c = true) :
    CalculatedMetric.StandsFor ((ofMetrics skipped groups).reference name).text name := by
  have hsolid : Solid name := solid_of_isPart hname
  by_cases hhas : (ofMetrics skipped groups).has name = true
  · obtain ⟨m, hm, hmem⟩ := reference_mem hhas
    have hmetric : Solid m.name := solid_of_isIdentifier (hgroups m hm).name
    have hprevious : Solid m.previousColumn := hmetric.append (by decide)
    obtain ⟨t, ht, -⟩ := (hgroups m hm).field
    have htable : Solid m.table := solid_of_isIdentifier (hr.isIdentifier_table ht)
    unfold ofMetric at hmem
    split at hmem
    case isTrue =>
        rcases List.mem_pair.mp hmem with heq | heq
        · obtain ⟨rfl, hreference⟩ := Prod.mk.inj heq
          rw [hreference]
          exact ⟨.inl rfl, hmetric, hmetric⟩
        · obtain ⟨-, hreference⟩ := Prod.mk.inj heq
          rw [hreference]
          exact ⟨.inr ⟨'_', by simp [Reference.text, BaseMetric.previousColumn], .inr rfl⟩, hprevious, hsolid⟩
    case isFalse =>
        rcases List.mem_pair.mp hmem with heq | heq
        · obtain ⟨-, hreference⟩ := Prod.mk.inj heq
          rw [hreference]
          exact ⟨.inr ⟨'.', by simp [Reference.text], .inl rfl⟩,
            Reference.solid_column (htable.append (by decide)) hmetric, hsolid⟩
        · obtain ⟨-, hreference⟩ := Prod.mk.inj heq
          rw [hreference]
          exact ⟨.inr ⟨'.', by simp [Reference.text], .inl rfl⟩,
            Reference.solid_column (htable.append (by decide)) hprevious, hsolid⟩
  · rw [reference_eq_output hhas]
    exact ⟨.inl rfl, hsolid, hsolid⟩

theorem CalculatedMetric.quiet_resolveAll {r : Registry} (hr : r.WellFormed)
    (hformulas : ∀ m ∈ r.calculated, m.SaysNoInto) {skipped : List String} {groups : TableMetrics}
    (hgroups : ∀ m ∈ groups.metrics, m.WellFormed r) :
    ∀ m ∈ resolveAll (Aliases.ofMetrics skipped groups) r.calculated,
      isIdentifier m.name = true ∧ Quiet m.expr := by
  intro m hm
  obtain ⟨c, hc, rfl, hparts⟩ := isPart_dependencies hr hgroups hm
  have hsays := hformulas c hc
  refine ⟨(hr.calculated c hc).1, ?_⟩
  apply quiet_resolve _ hsays.words hsays.semicolon
  intro name hname
  exact Aliases.standsFor_reference hr hgroups (hparts name hname)

/-- With a comma behind it a name is not the word INTO, whatever it is. -/
theorem Output.quiet_ofResolved_comma {m : ResolvedMetric} (hname : isIdentifier m.name = true)
    (hexpr : Text.Quiet m.expr) : Text.Quiet ((ofResolved m).text ++ ",") := by
  have hcomma : Text.Quiet (m.name ++ ",") := by
    apply ((solid_of_isIdentifier hname).append (by decide)).quiet
    intro hinto
    exact hinto.not_mem (c := ',') (by decide) (by simp)
  rw [text, String.append_assoc]
  exact hexpr.joined (by decide) hcomma

theorem Output.quiet_ofResolved {m : ResolvedMetric} (hname : isIdentifier m.name = true)
    (hexpr : Text.Quiet m.expr) (hinto : ¬ IsInto m.name.toList) : (ofResolved m).Quiet :=
  ⟨quiet_of_isIdentifier hname hinto, hexpr⟩

/-! ### Statements -/

theorem Yoy.Plan.quiet_joins {s : Sources} (h : ∀ name ∈ s.all.map Source.name, Quiet name) :
    (∀ source ∈ (joins s).1, Quiet source) ∧ ∀ join ∈ (joins s).2, Quiet join := by
  unfold joins
  split
  case h_1 => simp
  case h_2 first rest hnames =>
      rw [hnames, List.forall_mem_cons] at h
      constructor
      · rintro source ⟨⟩
        exact h.1
      · intro join hjoin
        obtain ⟨name, hname, rfl⟩ := List.mem_map.mp hjoin
        exact (h.2 name hname).behind (by decide)

namespace Yoy.Plan.Answers

variable {r : Registry} (hr : r.WellFormed) (hnoInto : r.NamesNoInto)
  (hformulas : ∀ m ∈ r.calculated, m.SaysNoInto) {request : YoyRequest} {today : Date} {groups : TableMetrics}
  {w : Windows} {p : Plan} (h : p.Answers r request today groups w)

include hr hnoInto hformulas h

/-- In a row only the metric that is computed last is not followed by a comma. -/
theorem listed_columns : (∀ column ∈ p.toSelect.columns, Quiet (column ++ ",")) ∧
    ((∀ m ∈ p.resolved.getLast?, ¬ IsInto m.name.toList) → Listed p.toSelect.columns) := by
  have hresolved : ∀ m ∈ p.resolved, isIdentifier m.name = true ∧ Quiet m.expr := by
    rw [h.resolved]
    exact CalculatedMetric.quiet_resolveAll hr hformulas
      fun m hm => hr.base m (Registry.mem_base_of_metricsByTable h.metrics m hm)
  have hcompared : Listed ((Output.ofMetrics .value p.sources.skipped groups).map Output.text) :=
    .of_quiet (List.forall_mem_map.mpr fun o ho => (Output.quiet_ofMetrics (fun _ => id)
      (BaseMetric.quiet_of_metricsByTable hr hnoInto h.metrics) o ho).text)
  have hcomma : ∀ column ∈ (p.resolved.map Output.ofResolved).map Output.text, Quiet (column ++ ",") := by
    rw [List.map_map]
    refine List.forall_mem_map.mpr fun m hm => ?_
    exact Output.quiet_ofResolved_comma (hresolved m hm).1 (hresolved m hm).2
  rw [toSelect, h.outputs, List.map_append]
  constructor
  · exact List.forall_mem_append.mpr ⟨hcompared.comma, hcomma⟩
  · intro hlast
    refine hcompared.append ⟨hcomma, ?_⟩
    intro text htext
    rw [List.map_map, List.getLast?_map] at htext
    obtain ⟨m, hm, rfl⟩ := Option.map_eq_some_iff.mp htext
    obtain ⟨hname, hexpr⟩ := hresolved m (List.mem_of_getLast? hm)
    exact (Output.quiet_ofResolved hname hexpr (hlast m hm)).text

theorem quiet (hnames : ∀ q ∈ p.sources.params, Params.isName q.name.toList = true)
    (hlast : ∀ m ∈ p.resolved.getLast?, ¬ IsInto m.name.toList) : Quiet p.toSelect.text := by
  have hmetrics := BaseMetric.quiet_of_metricsByTable hr hnoInto h.metrics
  have hsources := h.sources.quiet hr hnoInto hmetrics hnames
  have hsourceNames : ∀ name ∈ p.sources.all.map Source.name, Quiet name := by
    intro name hname
    obtain ⟨source, hsource, rfl⟩ := List.mem_map.mp hname
    exact (hsources source hsource).1
  obtain ⟨hsource, hjoins⟩ := quiet_joins hsourceNames
  apply Select.quiet_text _ ((h.listed_columns hr hnoInto hformulas).2 hlast) hsource hjoins
  · simp [toSelect]
  · simp [toSelect]
  · simp [toSelect]
  · intro cte hcte
    obtain ⟨source, hmem, rfl⟩ := List.mem_map.mp hcte
    exact hsources source hmem

/-- Where nothing is read, nothing follows the metric that is computed last. -/
theorem quiet_comma (hnone : p.sources.joined = []) : Quiet (p.toSelect.text ++ ",") := by
  have hbare : p.toSelect = { columns := p.toSelect.columns } := by
    simp [toSelect, Sources.ctes, Sources.all, joins, hnone]
  rw [hbare]
  exact Select.quiet_text_comma (h.listed_columns hr hnoInto hformulas).1

end Yoy.Plan.Answers

namespace Grouped

theorem quiet_groupKeys : Quiet groupKeys := by decide

theorem quiet_groupNames : Quiet groupNames := by decide

theorem quiet_keyReference : Quiet keyReference.text := by decide

theorem NameSource.Reads.quiet {r : Registry} (hr : r.WellFormed) (hnoInto : r.NamesNoInto) {d : Dimension}
    (hd : d.WellFormed r) {cs : List Condition} {c : NameColumn} {t : Table} {s : NameSource}
    (h : s.Reads r d cs c t) (hnames : ∀ p ∈ s.params, Params.isName p.name.toList = true) :
    Quiet s.toSelect.text := by
  have hmem : t ∈ r.tables := List.mem_of_find?_eq_some h.found
  have ht : t.Quiet := Table.quiet hr hnoInto hmem
  have hcolumn : Quiet s.column := by
    obtain ⟨t', ht', hcolumn, -⟩ := hd.nameColumn c h.declared
    rw [h.column]
    exact (Table.quiet hr hnoInto (List.mem_of_find?_eq_some ht')).column _ hcolumn
  apply Select.quiet_text
  · intro cte hcte
    cases hcte
  · refine .of_quiet fun column hcolumns => ?_
    rcases List.mem_pair.mp hcolumns with rfl | rfl
    · exact Select.quiet_named (Dimension.quiet_keyExpr ht h.key) (by decide)
    · exact Select.quiet_named ((hcolumn.behind (by decide)).before (by decide)) (by decide)
  · rintro source ⟨⟩
    exact h.table ▸ ht.name
  · intro join hjoin
    cases hjoin
  · exact Condition.quiet_clauses (hr.tables t hmem) ht h.clauses hnames
  · intro item hitem
    rw [List.mem_singleton.mp hitem]
    decide
  · intro item hitem
    cases hitem

namespace Plan

theorem quiet_joinToKeys {source : String} (h : Quiet source) : Quiet (joinToKeys source) :=
  ((h.behind (by decide)).joined (by decide) (Reference.quiet_column h (by decide))).joined (by decide)
    quiet_keyReference

theorem quiet_keysText {s : Sources} (h : ∀ name ∈ s.all.map Source.name, Quiet name) : Quiet (keysText s) := by
  have hkeys : Quiet (" UNION ALL ".intercalate
      (s.all.map fun source => s!"SELECT {groupId} FROM {source.name}")) := by
    apply Quiet.intercalate (by decide)
    intro text htext
    obtain ⟨source, hsource, rfl⟩ := List.mem_map.mp htext
    exact (h source.name (List.mem_map_of_mem hsource)).behind (by decide)
  exact (hkeys.behind (by decide)).before (by decide)

theorem quiet_columnsOf {named : Bool} {skipped : List String} {groups : TableMetrics}
    {resolved : List ResolvedMetric} (hmetrics : ∀ m ∈ groups.metrics, m.Quiet)
    (hresolved : ∀ m ∈ resolved, (Output.ofResolved m).Quiet) :
    ∀ o ∈ columnsOf named skipped groups resolved, o.Quiet := by
  intro o ho
  simp only [columnsOf, List.mem_append, List.mem_cons, List.not_mem_nil, or_false] at ho
  rcases ho with (((rfl | rfl) | ho) | ho) | rfl
  · exact ⟨by decide, quiet_keyReference⟩
  · have hname : Quiet "name" := by decide
    refine ⟨hname, ?_⟩
    cases named with
    | true =>
        exact Output.quiet_nameOrKey (Reference.quiet_column quiet_groupNames (by decide)) quiet_keyReference
    | false => exact quiet_keyReference
  · exact Output.quiet_ofMetrics (fun _ => Output.quiet_valueOrZero) hmetrics o ho
  · obtain ⟨m, hm, rfl⟩ := List.mem_map.mp ho
    exact hresolved m hm
  · exact ⟨by decide, by decide⟩

/-- Rows of groups may be ordered by any metric that is computed for them. -/
theorem Answers.quiet {r : Registry} (hr : r.WellFormed) (hnoInto : r.NamesNoInto)
    (hformulas : ∀ m ∈ r.calculated, m.SaysNoInto) {request : GroupedRequest} {today : Date} {d : Dimension}
    {groups : TableMetrics} {w : Windows} {p : Plan} (h : p.Answers r request today d groups w)
    (hnames : ∀ q ∈ p.params, Params.isName q.name.toList = true)
    (hcomputed : ∀ m ∈ p.resolved, ¬ IsInto m.name.toList) : Quiet p.toSelect.text := by
  have hmetrics := BaseMetric.quiet_of_metricsByTable hr hnoInto h.metrics
  have hexprs : ∀ m ∈ p.resolved, isIdentifier m.name = true ∧ Quiet m.expr := by
    rw [h.resolved]
    exact CalculatedMetric.quiet_resolveAll hr hformulas
      fun m hm => hr.base m (Registry.mem_base_of_metricsByTable h.metrics m hm)
  have hresolved : ∀ m ∈ p.resolved, (Output.ofResolved m).Quiet := fun m hm =>
    Output.quiet_ofResolved (hexprs m hm).1 (hexprs m hm).2 (hcomputed m hm)
  have hsources := h.sources.quiet hr hnoInto hmetrics fun q hq => hnames q (List.mem_append_left _ hq)
  have hsourceNames : ∀ name ∈ p.sources.all.map Source.name, Quiet name := by
    intro name hname
    obtain ⟨source, hsource, rfl⟩ := List.mem_map.mp hname
    exact (hsources source hsource).1
  have hfield : Quiet p.orderBy := by
    have hmem : p.orderBy ∈ (columnsOf false [] groups p.resolved).map Output.name := by
      rw [h.orderBy]
      exact orderField_mem _
    obtain ⟨o, ho, hname⟩ := List.mem_map.mp hmem
    exact hname ▸ (quiet_columnsOf hmetrics hresolved o ho).1
  apply Select.quiet_text
  · intro cte hcte
    rcases List.mem_append.mp hcte with hmem | hmem
    · obtain ⟨source, hsource, rfl⟩ := List.mem_map.mp hmem
      exact hsources source hsource
    · rcases List.mem_cons.mp hmem with rfl | hmem
      · exact ⟨quiet_groupKeys, quiet_keysText hsourceNames⟩
      · obtain ⟨names, hnamed, rfl⟩ := List.mem_map.mp hmem
        obtain ⟨c, t, hreads⟩ := h.names names (Option.mem_toList.mp hnamed)
        refine ⟨quiet_groupNames, hreads.quiet hr hnoInto (hr.dimension h.dimension) ?_⟩
        intro q hq
        exact hnames q (List.mem_append_right _ (List.mem_flatMap.mpr ⟨names, hnamed, hq⟩))
  · rw [toSelect, h.outputs]
    exact .of_quiet (List.forall_mem_map.mpr fun o ho => (quiet_columnsOf hmetrics hresolved o ho).text)
  · rintro source ⟨⟩
    exact quiet_groupKeys
  · intro join hjoin
    rcases List.mem_append.mp hjoin with hmem | hmem
    · obtain ⟨source, hsource, rfl⟩ := List.mem_map.mp hmem
      exact quiet_joinToKeys (hsourceNames _ (List.mem_map_of_mem hsource))
    · obtain ⟨-, -, rfl⟩ := List.mem_map.mp hmem
      exact quiet_joinToKeys quiet_groupNames
  · simp [toSelect]
  · simp [toSelect]
  · intro item hitem
    rcases List.mem_pair.mp hitem with rfl | rfl
    · have hdirection : Quiet p.direction.keyword := by cases p.direction <;> decide
      exact hfield.joined (by decide) hdirection
    · decide

end Plan
end Grouped

theorem Distinct.Renders.quiet {r : Registry} (hr : r.WellFormed) (hnoInto : r.NamesNoInto)
    {request : DistinctRequest} {t : Table} {c : Column} {limit : Nat} {cls : List (Clause Param)} {s : Statement}
    (h : Renders r request t c limit cls s) : Quiet s.sql := by
  have hmem : t ∈ r.tables := List.mem_of_find?_eq_some h.table
  have ht : t.Quiet := Table.quiet hr hnoInto hmem
  have hcolumn : Quiet c.name :=
    ht.column _ (Table.hasColumn_iff.mpr ⟨c, List.mem_of_find?_eq_some h.column, rfl⟩)
  have hnames : ∀ p ∈ cls.flatMap Clause.values, Params.isName p.name.toList = true := by
    rw [← h.params]
    exact h.numbered.isName
  rw [h.sql]
  apply Select.quiet_text
  · intro cte hcte
    cases hcte
  · refine .of_quiet fun column hcolumns => ?_
    rw [List.mem_singleton.mp hcolumns]
    exact (hcolumn.behind (by decide)).before (by decide)
  · rintro source ⟨⟩
    exact ht.name
  · intro join hjoin
    cases hjoin
  · intro text htext
    rw [toSelect, List.map_cons] at htext
    rcases List.mem_cons.mp htext with rfl | htext
    · exact Clause.quiet_text (by simpa [Clause.words] using hcolumn) (by simp [Clause.values])
    · exact Condition.quiet_clauses (hr.tables t hmem) ht h.clauses hnames text htext
  · intro item hitem
    cases hitem
  · intro item hitem
    rw [List.mem_singleton.mp hitem]
    decide

end BalanceSheet
