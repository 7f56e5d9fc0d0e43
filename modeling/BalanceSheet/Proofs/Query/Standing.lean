import BalanceSheet.Proofs.Formula.Resolution
import BalanceSheet.Proofs.Query.Success
import BalanceSheet.Proofs.Text.Quiet

/-!
Where the names of a registry stand in statements. Each stands between two spaces in the statement of some
request: a table behind FROM, a column behind WHERE, a base metric behind AS, and a calculated metric behind
ORDER BY or, if it is computed last, behind AS.
-/

namespace BalanceSheet

open Text Registry.Builtin

/-- The name stands between two spaces of the text. -/
def Text.StandsAlone (name text : String) : Prop := (" " ++ name ++ " ").toList <:+: text.toList

theorem Text.StandsAlone.mono {name text text' : String} (h : StandsAlone name text)
    (hinside : text.toList <:+: text'.toList) : StandsAlone name text' := h.trans hinside

/-! ### Lists -/

theorem exists_intercalate_concat_eq {separator text : String} {texts : List String} :
    ∃ front, separator.intercalate (texts ++ [text]) = front ++ text := by
  cases texts with
  | nil => exact ⟨"", by simp⟩
  | cons head texts =>
      refine ⟨separator.intercalate (head :: texts) ++ separator, ?_⟩
      rw [String.intercalate_append_of_ne_nil (List.cons_ne_nil _ _) (List.cons_ne_nil _ _),
        String.intercalate_singleton]

theorem infix_intercalate {separator text : String} {texts : List String} (h : text ∈ texts) :
    text.toList <:+: (separator.intercalate texts).toList := by
  obtain ⟨before, after, rfl⟩ := List.append_of_mem h
  have hended : ∃ front, separator.intercalate (before ++ [text]) = front ++ text :=
    exists_intercalate_concat_eq
  obtain ⟨front, hfront⟩ := hended
  cases after with
  | nil => exact ⟨front.toList, [], by simp [hfront]⟩
  | cons next after =>
      have hsplit : before ++ text :: next :: after = before ++ [text] ++ next :: after := by simp
      rw [hsplit, String.intercalate_append_of_ne_nil (by simp) (List.cons_ne_nil _ _), hfront]
      exact ⟨front.toList, (separator ++ separator.intercalate (next :: after)).toList, by simp⟩

/-! ### Clauses -/

namespace Select

/-- Every expression is written out in its statement. -/
theorem body_infix_text {s : Select} {cte : String × String} (h : cte ∈ s.ctes) :
    cte.2.toList <:+: s.text.toList := by
  have hbody : cte.2.toList <:+: (cte.1 ++ " AS (" ++ cte.2 ++ ")").toList :=
    ⟨(cte.1 ++ " AS (").toList, ")".toList, by simp [String.toList_append]⟩
  have hlisted : (cte.1 ++ " AS (" ++ cte.2 ++ ")").toList <:+:
      (", ".intercalate (s.ctes.map fun cte => cte.1 ++ " AS (" ++ cte.2 ++ ")")).toList :=
    infix_intercalate (List.mem_map.mpr ⟨cte, h, rfl⟩)
  have hwith : (", ".intercalate (s.ctes.map fun cte => cte.1 ++ " AS (" ++ cte.2 ++ ")")).toList <:+:
      (withText s.ctes).toList := by
    rw [withText, if_neg (by simpa using List.ne_nil_of_mem h)]
    exact ⟨"WITH ".toList, " ".toList, by simp [String.toList_append]⟩
  have htext : (withText s.ctes).toList <:+: s.text.toList := by
    obtain ⟨rest, hrest⟩ := s.exists_text_eq
    exact ⟨[], ("SELECT " ++ rest).toList, by simp [hrest, String.toList_append]⟩
  exact ((hbody.trans hlisted).trans hwith).trans htext

theorem exists_text_from {s : Select} {table : String} (hcolumns : s.columns ≠ [])
    (hsource : s.source = some table) :
    ∃ back, s.text = withText s.ctes ++ "SELECT " ++ ", ".intercalate s.columns ++ " FROM " ++ table ++
      String.join (s.joins.map fun join => " " ++ join) ++ clause " WHERE " " AND " s.conjuncts ++
      clause " GROUP BY " ", " s.groupBy ++ clause " ORDER BY " ", " s.orderBy ++ back := by
  have hempty : s.columns.isEmpty = false := by simpa using hcolumns
  unfold text
  simp only [hempty, hsource, String.append_assoc, Bool.false_eq_true, if_false]
  exact ⟨_, rfl⟩

theorem standsAlone_clause (word separator name rest : String) (items : List String) :
    StandsAlone name (clause (word ++ " ") separator ((name ++ " " ++ rest) :: items)) := by
  rw [clause, if_neg (by simp), String.intercalate_cons_append]
  exact ⟨word.toList, (separator.intercalate (rest :: items)).toList, by simp⟩

variable {s : Select} {name : String} (hcolumns : s.columns ≠ [])

include hcolumns

/-- The name of the last column stands before FROM. -/
theorem standsAlone_last {table expr : String} (hsource : s.source = some table)
    (hlast : s.columns.getLast? = some (named expr name)) : StandsAlone name s.text := by
  obtain ⟨back, htext⟩ := exists_text_from hcolumns hsource
  have hended : ∃ front, ", ".intercalate s.columns = front ++ named expr name := by
    obtain ⟨columns, hcolumns⟩ := List.getLast?_eq_some_iff.mp hlast
    rw [hcolumns]
    exact exists_intercalate_concat_eq
  obtain ⟨front, hfront⟩ := hended
  rw [htext, hfront, named]
  exact ⟨(withText s.ctes ++ "SELECT " ++ (front ++ expr) ++ " AS").toList, ("FROM " ++ table ++
    String.join (s.joins.map fun join => " " ++ join) ++ clause " WHERE " " AND " s.conjuncts ++
    clause " GROUP BY " ", " s.groupBy ++ clause " ORDER BY " ", " s.orderBy ++ back).toList, by simp⟩

/-- A table that is not joined to others stands before the conditions. -/
theorem standsAlone_source (hsource : s.source = some name) (hjoins : s.joins = [])
    (hconjuncts : s.conjuncts ≠ []) : StandsAlone name s.text := by
  obtain ⟨back, htext⟩ := exists_text_from hcolumns hsource
  rw [htext, hjoins, clause, if_neg (by simpa using hconjuncts)]
  exact ⟨(withText s.ctes ++ "SELECT " ++ ", ".intercalate s.columns ++ " FROM").toList, ("WHERE " ++
    " AND ".intercalate s.conjuncts ++ clause " GROUP BY " ", " s.groupBy ++ clause " ORDER BY " ", " s.orderBy ++
    back).toList, by simp [String.join]⟩

/-- What is compared first stands before its comparison. -/
theorem standsAlone_conjunct {table rest : String} {conjuncts : List String} (hsource : s.source = some table)
    (h : s.conjuncts = (name ++ " " ++ rest) :: conjuncts) : StandsAlone name s.text := by
  obtain ⟨back, htext⟩ := exists_text_from hcolumns hsource
  have hclause := standsAlone_clause " WHERE" " AND " name rest conjuncts
  rw [← h] at hclause
  apply hclause.mono
  rw [htext]
  exact ⟨(withText s.ctes ++ "SELECT " ++ ", ".intercalate s.columns ++ " FROM " ++ table ++
      String.join (s.joins.map fun join => " " ++ join)).toList, (clause " GROUP BY " ", " s.groupBy ++
      clause " ORDER BY " ", " s.orderBy ++ back).toList, by simp⟩

/-- What rows are ordered by stands before its direction. -/
theorem standsAlone_orderBy {table direction : String} {items : List String} (hsource : s.source = some table)
    (h : s.orderBy = (name ++ " " ++ direction) :: items) : StandsAlone name s.text := by
  obtain ⟨back, htext⟩ := exists_text_from hcolumns hsource
  have hclause := standsAlone_clause " ORDER BY" ", " name direction items
  rw [← h] at hclause
  apply hclause.mono
  rw [htext]
  exact ⟨(withText s.ctes ++ "SELECT " ++ ", ".intercalate s.columns ++ " FROM " ++ table ++
      String.join (s.joins.map fun join => " " ++ join) ++ clause " WHERE " " AND " s.conjuncts ++
      clause " GROUP BY " ", " s.groupBy).toList, back.toList, by simp⟩

end Select

/-! ### Requests -/

/-- The values of a column are read from its table where it is not null. -/
theorem Distinct.exists_statement {r : Registry} {t : Table} {c : Column} (ht : r.table? t.name = some t)
    (hc : t.column? c.name = some c) :
    ∃ request s, statement r request = .ok s ∧ StandsAlone t.name s.sql ∧ StandsAlone c.name s.sql := by
  have hstatement : statement r ⟨t.name, c.name, [], .ofValues⟩ =
      .ok ⟨(toSelect t c [] .ofValues).text, .empty, [], []⟩ := by
    simp only [statement, ht, hc]
    rfl
  have hcolumns : (toSelect t c [] .ofValues).columns ≠ [] := List.cons_ne_nil _ _
  have hnotNull : (toSelect t c [] .ofValues).conjuncts = [c.name ++ " " ++ "IS NOT NULL"] := by
    rw [String.append_assoc]
    rfl
  exact ⟨_, _, hstatement, Select.standsAlone_source hcolumns rfl rfl (List.cons_ne_nil _ _),
    Select.standsAlone_conjunct hcolumns rfl hnotNull⟩

/-- A source for one metric aggregates it under its name. -/
theorem Source.Reads.standsAlone {t : Table} {m : BaseMetric} {cs : List Condition} {s : Source}
    (h : s.Reads t [m] cs none .current) : StandsAlone m.name s.toSelect.text := by
  have hcolumns : s.toSelect.columns = [Select.named m.expr m.name] := by
    simp [toSelect, h.key, h.aggregates, metricColumn]
  have hlast : s.toSelect.columns.getLast? = some (Select.named m.expr m.name) := by simp [hcolumns]
  have hsource : s.toSelect.source = some s.table := rfl
  exact Select.standsAlone_last (by simp [hcolumns]) hsource hlast

namespace Yoy

variable {r : Registry}

/-- A metric alone is aggregated under its name. -/
theorem exists_aggregated (hr : r.WellFormed) {m : BaseMetric} (hm : m ∈ r.base) :
    ∃ request today s, statement r request today = .ok s ∧ StandsAlone m.name s.sql := by
  obtain ⟨s, p, hs, -, hanswers, hrenders⟩ := exists_plan hr (hr.metricsByTable_name hm)
  obtain ⟨t, ht, -⟩ := (hr.base m hm).field
  have hgroup : (m.table, [m]) ∈ (TableMetrics.ofMetrics [m]).filter fun group =>
      Sources.takesPart r (.unbounded spring) none group.1 :=
    List.mem_filter.mpr ⟨List.mem_singleton_self _, Sources.takesPart_unbounded ht (by simp)⟩
  obtain ⟨j, hj, hcompares⟩ := forall₂_exists_right hanswers.sources.joined hgroup
  obtain ⟨t', -, hcurrent, -⟩ := hcompares.sources
  have hbody : (j.current.name, j.current.toSelect.text) ∈ p.toSelect.ctes :=
    List.mem_map.mpr ⟨j.current, List.mem_flatMap.mpr ⟨j, hj, by simp⟩, rfl⟩
  have hinside := Select.body_infix_text hbody
  refine ⟨⟨[m.name], []⟩, spring, s, hs, ?_⟩
  rw [hrenders.sql]
  exact hcurrent.standsAlone.mono hinside

theorem Plan.exists_source {s : Sources} (h : s.joined ≠ []) : ∃ table, (joins s).1 = some table := by
  obtain ⟨j, js, hjoined⟩ := List.exists_cons_of_ne_nil h
  exact ⟨j.current.name, by simp [joins, Sources.all, hjoined]⟩

/-- What is computed last for some selection is computed last for it without conditions too, and stands before
FROM then. -/
theorem exists_computed (hr : r.WellFormed) (hbase : r.base ≠ []) {request : YoyRequest} {today : Date}
    {s : Statement} (hs : statement r request today = .ok s) {name : String}
    (hname : name ∈ s.calculated.getLast?) :
    ∃ request today s, statement r request today = .ok s ∧ StandsAlone name s.sql := by
  obtain ⟨p, groups, w, -, hanswers, hrenders⟩ := statement_ok hs
  obtain ⟨s', p', hs', -, hanswers', hrenders'⟩ := exists_plan hr hanswers.metrics
  have hnames : p'.resolved.map ResolvedMetric.name = s.calculated := by
    rw [hrenders.calculated, hanswers'.resolved, hanswers.resolved]
    exact CalculatedMetric.names_resolveAll_congr _ (Aliases.has_ofMetrics_congr _ _ groups)
  rw [← hnames, List.getLast?_map] at hname
  obtain ⟨m, hm, rfl⟩ := Option.map_eq_some_iff.mp hname
  have hlast : p'.toSelect.columns.getLast? = some (Select.named m.expr m.name) := by
    simp only [Plan.toSelect, hanswers'.outputs, List.map_append, List.getLast?_append, List.getLast?_map, hm]
    rfl
  -- Only conditions leave tables out, so here at least one is read.
  have hjoined : p'.sources.joined ≠ [] := by
    rw [Ne, hanswers'.sources.joined_eq_nil_iff]
    intro hnone
    have hgroups : groups ≠ [] := Registry.metricsByTable_ne_nil hbase hanswers.metrics
    obtain ⟨group, hgroup⟩ := List.exists_mem_of_ne_nil groups hgroups
    obtain ⟨t, ht⟩ := Option.isSome_iff_exists.mp (hr.isSome_table? hanswers.metrics group hgroup)
    have hpart : Sources.takesPart r (.unbounded spring) none group.1 = true :=
      Sources.takesPart_unbounded ht (by simp)
    rw [hnone group hgroup] at hpart
    cases hpart
  obtain ⟨table, htable⟩ := Plan.exists_source hjoined
  refine ⟨⟨request.metrics, []⟩, spring, s', hs', ?_⟩
  rw [hrenders'.sql]
  exact Select.standsAlone_last (List.ne_nil_of_mem (List.mem_of_getLast? hlast)) htable hlast

end Yoy

namespace Grouped

variable {r : Registry}

/-- What is computed for groups is computed for them without conditions too, and they can be ordered by it. -/
theorem exists_ordered (hr : r.WellFormed) {request : GroupedRequest} {today : Date} {s : Statement}
    (hs : statement r request today = .ok (some s)) {name : String} (hname : name ∈ s.calculated) :
    ∃ request today s, statement r request today = .ok (some s) ∧ StandsAlone name s.sql := by
  obtain ⟨p, d, groups, w, -, hanswers, hrenders⟩ := statement_some_ok hs
  have hpart : ∃ group ∈ groups, Sources.takesPart r (.unbounded spring) (some d) group.1 = true := by
    have hsome := mt hanswers.sources.joined_eq_nil_iff.mpr hanswers.joined
    simp only [not_forall, Bool.not_eq_false] at hsome
    obtain ⟨group, hgroup, hpart⟩ := hsome
    exact ⟨group, hgroup, Sources.takesPart_unbounded_of hpart⟩
  obtain ⟨s', p', hs', -, hanswers', hrenders'⟩ :=
    exists_plan hr hanswers.dimension hanswers.metrics hpart (some name)
  have hnames : p'.resolved.map ResolvedMetric.name = s.calculated := by
    rw [hrenders.calculated, hanswers'.resolved, hanswers.resolved]
    exact CalculatedMetric.names_resolveAll_congr _ (Aliases.has_ofMetrics_congr _ _ groups)
  have horder : p'.orderBy = name := by
    have hfield : (Plan.orderFields groups p'.resolved).contains name = true := by
      rw [List.contains_iff_mem, Plan.orderFields, hnames]
      simp [hname]
    rw [hanswers'.orderBy, Plan.orderField, Option.filter_some, if_pos hfield]
  have hitems : p'.toSelect.orderBy = [name ++ " " ++ p'.direction.keyword, "id ASC"] := by
    rw [← horder]
    rfl
  have hcolumns : p'.toSelect.columns ≠ [] := by
    simp [Plan.toSelect, hanswers'.outputs, Plan.columnsOf]
  refine ⟨⟨⟨request.metrics, []⟩, request.groupBy, ⟨1, 0⟩, some name, .asc⟩, spring, s', hs', ?_⟩
  rw [hrenders'.sql]
  exact Select.standsAlone_orderBy hcolumns rfl hitems

end Grouped

end BalanceSheet
