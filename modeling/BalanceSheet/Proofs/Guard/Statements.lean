import BalanceSheet.Proofs.Guard.Admission
import BalanceSheet.Proofs.Query.Quiet
import BalanceSheet.Proofs.Query.Standing
import BalanceSheet.Proofs.Registry.Declaration

/-!
Statements before the guard. A quiet statement passes it, and a statement in which INTO stands as a name does
not. So an accepted registry gets no statement that the guard refuses, formulas aside, exactly if no name that
can stand alone in a statement is INTO.
-/

namespace BalanceSheet

open Text Registry.Builtin

/-- The guard admits the statement and finds no word INTO between two spaces in it. -/
def Statement.Passes (s : Statement) : Prop := Guard.checkText s.sql = .ok () ∧ ¬ SpacedInto s.sql.toList

/-! ### Quiet statements pass -/

theorem Text.Quiet.not_spacedInto {s : String} (h : Quiet s) : ¬ SpacedInto s.toList := by
  rintro ⟨before, word, after, heq, hinto⟩
  have hstretch : Stretch (· == ' ') (before ++ [' ']) word (' ' :: after) := by
    refine ⟨?_, by simp, by simp⟩
    intro c hc
    rw [beq_eq_false_iff_ne]
    rintro rfl
    exact hinto.not_mem (by decide) hc
  exact h.1 word (mem_splitOn_space_iff.mpr ⟨_, _, by simp [heq], hstretch⟩) hinto

/-- A keyword at the start of a text opens a query there, whatever is trimmed. -/
theorem Guard.opensQuery_trim {s : String}
    (h : "SELECT".toList <+: s.toList ∨ "WITH".toList <+: s.toList) : OpensQuery (trim s).toList := by
  have hupper {front cs : List Char} (hfront : front <+: cs) : upper front <+: upper cs := by
    obtain ⟨rest, rfl⟩ := hfront
    exact ⟨upper rest, (upper_append front rest).symm⟩
  refine h.imp ?_ ?_
  · intro hselect
    exact hupper (prefix_trim hselect (by decide) (by decide) (by decide))
  · intro hwith
    exact hupper (prefix_trim hwith (by decide) (by decide) (by decide))

/-- A query passes that is quiet with something behind it. -/
theorem Statement.passes_of_quiet_append {s : Statement} {q : Select} {back : String} (hsql : s.sql = q.text)
    (h : Quiet (q.text ++ back)) : s.Passes := by
  have hinside : q.text.toList <:+: (q.text ++ back).toList := by
    rw [String.toList_append]
    exact (List.prefix_append _ _).isInfix
  have htrimmed : (trim q.text).toList <:+: (q.text ++ back).toList := (infix_trim _).trans hinside
  have hspaced {cs : List Char} (hcs : cs <:+: (q.text ++ back).toList) : ¬ SpacedInto cs := fun hinto =>
    h.not_spacedInto (hinto.mono hcs)
  have hsemicolon : ';' ∉ (trim q.text).toList := fun hmem => h.2 (htrimmed.subset hmem)
  rw [Passes, hsql, Guard.checkText_eq_ok_iff]
  exact ⟨⟨Guard.opensQuery_trim q.prefix_text, .inr (hspaced htrimmed), fun hmem => absurd hmem hsemicolon⟩,
    hspaced hinside⟩

theorem Statement.passes_of_quiet {s : Statement} {q : Select} (hsql : s.sql = q.text) (h : Quiet q.text) :
    s.Passes := by
  rw [← String.append_empty (s := q.text)] at h
  exact passes_of_quiet_append hsql h

theorem Text.StandsAlone.spacedInto {name text : String} (h : StandsAlone name text)
    (hinto : IsInto name.toList) : SpacedInto text.toList := by
  obtain ⟨front, back, htext⟩ := h
  exact ⟨front, name.toList, back, by simp [← htext, String.toList_append], hinto⟩

/-! ### The registry decides -/

namespace Registry

/-- Every statement of the registry passes the guard. -/
structure AllPass (r : Registry) : Prop where
  yoy : ∀ (request : YoyRequest) (today : Date) (s : Statement),
    Yoy.statement r request today = .ok s → s.Passes
  grouped : ∀ (request : GroupedRequest) (today : Date) (s : Statement),
    Grouped.statement r request today = .ok (some s) → s.Passes
  distinct : ∀ (request : DistinctRequest) (s : Statement), Distinct.statement r request = .ok s → s.Passes

/-- No metric named INTO is computed for groups, and none is computed last for a row that reads a table. -/
structure ComputesNoInto (r : Registry) : Prop where
  grouped : ∀ (request : GroupedRequest) (today : Date) (s : Statement),
    Grouped.statement r request today = .ok (some s) → ∀ name ∈ s.calculated, ¬ IsInto name.toList
  last : r.base ≠ [] → ∀ (request : YoyRequest) (today : Date) (s : Statement),
    Yoy.statement r request today = .ok s → ∀ name ∈ s.calculated.getLast?, ¬ IsInto name.toList

variable {r : Registry}

theorem base_ne_nil_of_joined {names : List String} {groups : TableMetrics}
    (hgroups : r.metricsByTable names = .ok groups) {w : Windows} {dimension : Option Dimension} {s : Sources}
    (h : s.Covers r w dimension groups) (hjoined : s.joined ≠ []) : r.base ≠ [] := by
  obtain ⟨metrics, hmetrics, rfl⟩ := metricsByTable_ok hgroups
  rintro hnil
  apply hjoined
  rw [h.joined_eq_nil_iff]
  intro group hgroup
  obtain ⟨m, hm, -⟩ := TableMetrics.exists_of_mem_ofMetrics hgroup
  have hbase := mem_base_of_selectMetrics hmetrics m hm
  rw [hnil] at hbase
  cases hbase

/-- Names that are not INTO are not computed under it. -/
theorem computesNoInto_of_names (h : ∀ m ∈ r.calculated, ¬ IsInto m.name.toList) : r.ComputesNoInto := by
  have hresolved {aliases : Aliases} {name : String}
      (hname : name ∈ (CalculatedMetric.resolveAll aliases r.calculated).map ResolvedMetric.name) :
      ¬ IsInto name.toList := by
    obtain ⟨m, hm, rfl⟩ := List.mem_map.mp hname
    obtain ⟨c, hc, hname⟩ := CalculatedMetric.founded_resolveAll.name_mem hm
    exact hname ▸ h c hc
  constructor
  · intro request today s hs name hname
    obtain ⟨p, d, groups, w, -, hanswers, hrenders⟩ := Grouped.statement_some_ok hs
    rw [hrenders.calculated, hanswers.resolved] at hname
    exact hresolved hname
  · intro _ request today s hs name hname
    obtain ⟨p, groups, w, -, hanswers, hrenders⟩ := Yoy.statement_ok hs
    rw [hrenders.calculated, hanswers.resolved] at hname
    exact hresolved (List.mem_of_getLast? hname)

theorem allPass_of_noInto (hr : r.WellFormed) (hformulas : ∀ m ∈ r.calculated, m.SaysNoInto)
    (hnoInto : r.NamesNoInto) (hcomputed : r.ComputesNoInto) : r.AllPass := by
  refine ⟨?_, ?_, ?_⟩
  · intro request today s h
    obtain ⟨p, groups, w, -, hanswers, hrenders⟩ := Yoy.statement_ok h
    -- Without sources there is no FROM: the name of the last column ends the text, and may be INTO.
    by_cases hjoined : p.sources.joined = []
    · exact Statement.passes_of_quiet_append hrenders.sql (hanswers.quiet_comma hr hnoInto hformulas hjoined)
    · have hquiet : Quiet p.toSelect.text := by
        apply hanswers.quiet hr hnoInto hformulas
        · rw [← hrenders.params]
          exact hrenders.numbered.isName
        · have hlast := hcomputed.last (base_ne_nil_of_joined hanswers.metrics hanswers.sources hjoined) _ _ _ h
          rw [hrenders.calculated, List.getLast?_map] at hlast
          exact fun m hm => hlast m.name (Option.mem_map_of_mem _ hm)
      exact Statement.passes_of_quiet hrenders.sql hquiet
  · intro request today s h
    obtain ⟨p, d, groups, w, -, hanswers, hrenders⟩ := Grouped.statement_some_ok h
    have hquiet : Quiet p.toSelect.text := by
      apply hanswers.quiet hr hnoInto hformulas
      · rw [← hrenders.params]
        exact hrenders.numbered.isName
      · have hnames := hcomputed.grouped _ _ _ h
        rw [hrenders.calculated] at hnames
        exact fun m hm => hnames m.name (List.mem_map_of_mem hm)
    exact Statement.passes_of_quiet hrenders.sql hquiet
  · intro request s h
    obtain ⟨t, c, limit, cls, hrenders⟩ := Distinct.statement_ok h
    have hquiet := hrenders.quiet hr hnoInto
    rw [hrenders.sql] at hquiet
    exact Statement.passes_of_quiet hrenders.sql hquiet

namespace AllPass

theorem namesNoInto (hr : r.WellFormed) (h : r.AllPass) : r.NamesNoInto := by
  have hdistinct {t : Table} (ht : t ∈ r.tables) {c : Column} (hc : c ∈ t.columns) :
      ¬ IsInto t.name.toList ∧ ¬ IsInto c.name.toList := by
    have htable : r.table? t.name = some t := (table?_eq_some_iff hr.tableNames).mpr ⟨ht, rfl⟩
    obtain ⟨c', hcolumn⟩ := Option.isSome_iff_exists.mp (Table.hasColumn_iff.mpr ⟨c, hc, rfl⟩)
    have hname : c'.name = c.name := by simpa using List.find?_some hcolumn
    rw [← hname] at hcolumn ⊢
    obtain ⟨request, s, hs, hfrom, hwhere⟩ := Distinct.exists_statement htable hcolumn
    have hspaced := (h.distinct request s hs).2
    exact ⟨fun hinto => hspaced (hfrom.spacedInto hinto), fun hinto => hspaced (hwhere.spacedInto hinto)⟩
  refine ⟨?_, fun t ht c hc => (hdistinct ht hc).2, ?_⟩
  · intro t ht
    obtain ⟨c, hc, -⟩ := Table.hasColumn_iff.mp (hr.tables t ht).dateColumn
    exact (hdistinct ht hc).1
  · intro m hm hinto
    obtain ⟨request, today, s, hs, halone⟩ := Yoy.exists_aggregated hr hm
    exact (h.yoy request today s hs).2 (halone.spacedInto hinto)

theorem computesNoInto (hr : r.WellFormed) (h : r.AllPass) : r.ComputesNoInto := by
  constructor
  · intro request today s hs name hname hinto
    obtain ⟨request', today', s', hs', halone⟩ := Grouped.exists_ordered hr hs hname
    exact (h.grouped request' today' s' hs').2 (halone.spacedInto hinto)
  · intro hbase request today s hs name hname hinto
    obtain ⟨request', today', s', hs', halone⟩ := Yoy.exists_computed hr hbase hs hname
    exact (h.yoy request' today' s' hs').2 (halone.spacedInto hinto)

end AllPass

/-- Where no formula brings in the word INTO or a semicolon, every statement passes the guard exactly if no
table, column or base metric is named INTO, and no calculated metric where it would stand alone. -/
theorem allPass_iff_noInto {tables : List Table} {base : List BaseMetric} {calculated : List CalculatedMetric}
    {dimensions : List Dimension} (hr : build tables base calculated dimensions = .ok r)
    (hformulas : ∀ m ∈ r.calculated, m.SaysNoInto) : r.AllPass ↔ r.NamesNoInto ∧ r.ComputesNoInto := by
  have hwell : r.WellFormed := wellFormed_of_build hr
  exact ⟨fun h => ⟨h.namesNoInto hwell, h.computesNoInto hwell⟩,
    fun h => allPass_of_noInto hwell hformulas h.1 h.2⟩

/-- Nothing of the built-in balance sheet is named INTO, and its formulas have no semicolons. -/
theorem allPass_builtin :
    build Builtin.tables Builtin.base Builtin.calculated Builtin.dimensions = .ok .builtin ∧
    (∀ m ∈ builtin.calculated, m.SaysNoInto) ∧ builtin.NamesNoInto ∧ builtin.ComputesNoInto ∧ builtin.AllPass ∧
    (∃ s, Yoy.statement builtin (totals plainFilters) spring = .ok s ∧ Guard.checkText s.sql = .ok ()) ∧
    (∃ s, Grouped.statement builtin (bySeller plainFilters "sales") spring = .ok (some s) ∧
      Guard.checkText s.sql = .ok ()) ∧
    ∃ s, Distinct.statement builtin ⟨"transactions", "brand", plainFilters, .ofValues⟩ = .ok s ∧
      Guard.checkText s.sql = .ok () := by
  have hformulas : ∀ m ∈ builtin.calculated, m.SaysNoInto := by decide +kernel
  have hnames : builtin.NamesNoInto := by decide +kernel
  have hcomputed : builtin.ComputesNoInto := computesNoInto_of_names (by decide +kernel)
  have hall : builtin.AllPass := (allPass_iff_noInto build_builtin hformulas).mpr ⟨hnames, hcomputed⟩
  refine ⟨build_builtin, hformulas, hnames, hcomputed, hall, ?_, ?_, ?_⟩
  · obtain ⟨s, hs, -⟩ := Except.exists_of_map (b := 9) (f := fun s => s.params.size)
      (e := Yoy.statement builtin (totals plainFilters) spring) (by decide +kernel)
    exact ⟨s, hs, (hall.yoy _ _ s hs).1⟩
  · obtain ⟨s, hs, -⟩ := Except.exists_some_of_map (b := 12) (f := fun s => s.params.size)
      (e := Grouped.statement builtin (bySeller plainFilters "sales") spring) (by decide +kernel)
    exact ⟨s, hs, (hall.grouped _ _ s hs).1⟩
  · obtain ⟨s, hs, -⟩ := Except.exists_of_map (b := 4) (f := fun s => s.params.size)
      (e := Distinct.statement builtin ⟨"transactions", "brand", plainFilters, .ofValues⟩) (by decide +kernel)
    exact ⟨s, hs, (hall.distinct _ s hs).1⟩

/-- One table with one metric, over a column named INTO. -/
def intoNamed : Registry where
  tables := [⟨"sales", "date", [⟨"date", .date⟩, ⟨"into", .float64⟩]⟩]
  base := [⟨"sales", "into", .sum, "total"⟩]
  calculated := []
  dimensions := []

/-- It is accepted, but the statement for the values of its column is refused. -/
theorem refused_intoNamed :
    build intoNamed.tables intoNamed.base intoNamed.calculated intoNamed.dimensions = .ok intoNamed ∧
    (∀ m ∈ intoNamed.calculated, m.SaysNoInto) ∧
    ∃ s, Distinct.statement intoNamed ⟨"sales", "into", [], .ofValues⟩ = .ok s ∧
      Guard.checkText s.sql = .error .selectInto := by
  refine ⟨build_of_validate (by decide +kernel), by decide, ?_⟩
  obtain ⟨s, hs, hrefused⟩ := Except.exists_of_map (b := true)
    (f := fun s => decide (Guard.checkText s.sql = .error .selectInto))
    (e := Distinct.statement intoNamed ⟨"sales", "into", [], .ofValues⟩) (by decide +kernel)
  exact ⟨s, hs, of_decide_eq_true hrefused⟩

end Registry
end BalanceSheet
