import BalanceSheet.Proofs.Query.Success
import BalanceSheet.Proofs.Registry.Declaration

/-!
Registries that grow. A registry with the declarations of another one, in any order and among others, finds under
each name what that one finds, as names are given once. A statement is made from what the names of its
request lead to, and never from a list of the registry as a whole, unless no metric is named; so it stays the same.
-/

namespace BalanceSheet

namespace Registry

variable {r r' : Registry}

/-- The tables, base metrics and dimensions of `r` are among those of `r'`, in any order, and the calculated
metrics are the same in the same order. -/
structure Extends (r r' : Registry) : Prop where
  tables : r.tables ⊆ r'.tables
  base : r.base ⊆ r'.base
  calculated : r.calculated = r'.calculated
  dimensions : r.dimensions ⊆ r'.dimensions

namespace Extends

theorem table?_eq_some (h : r.Extends r') (hr' : r'.WellFormed) {name : String} {t : Table}
    (ht : r.table? name = some t) : r'.table? name = some t := by
  have hmem : t ∈ r.tables := List.mem_of_find?_eq_some ht
  exact (table?_eq_some_iff hr'.tableNames).mpr ⟨h.tables hmem, name_of_table? ht⟩

theorem metric_eq_ok (h : r.Extends r') (hr' : r'.WellFormed) {name : String} {m : BaseMetric}
    (hm : r.metric name = .ok m) : r'.metric name = .ok m := by
  obtain ⟨hmem, rfl⟩ := metric_ok hm
  rw [metric, baseMetric?, find?_key_eq_some hr'.nodup_names (h.base hmem)]

theorem dimension_eq_ok (h : r.Extends r') (hr' : r'.WellFormed) {name : String} {d : Dimension}
    (hd : r.dimension name = .ok d) : r'.dimension name = .ok d := by
  obtain rfl := name_of_dimension hd
  exact hr'.dimension_name (h.dimensions (dimension_ok hd))

/-- Named metrics are selected as before. -/
theorem metricsByTable_eq_ok (h : r.Extends r') (hr' : r'.WellFormed) {aliases : List String}
    (hne : aliases ≠ []) {groups : TableMetrics} (hgroups : r.metricsByTable aliases = .ok groups) :
    r'.metricsByTable aliases = .ok groups := by
  obtain ⟨metrics, hmetrics, rfl⟩ := metricsByTable_ok hgroups
  have hnames : ¬ aliases.isEmpty = true := by simpa using hne
  have hselected : r'.selectMetrics aliases = .ok metrics := by
    rw [selectMetrics, if_neg hnames] at hmetrics ⊢
    exact Except.mapM_of_forall₂ ((Except.mapM_ok hmetrics).imp fun _ _ => h.metric_eq_ok hr')
  rw [metricsByTable, hselected]
  rfl

end Extends
end Registry

section

variable {r r' : Registry} (h : r.Extends r') (hr' : r'.WellFormed)
include h hr'

namespace Sources

variable {w : Windows} {dimension : Option Dimension}

theorem joinTable_extends {name : String} {t : Table} (ht : r.table? name = some t) (metrics : List BaseMetric) :
    joinTable r' w dimension name metrics = joinTable r w dimension name metrics := by
  simp only [joinTable, ht, h.table?_eq_some hr' ht]

/-- Tables that are registered make the same sources. -/
theorem ofMetrics_extends {groups : TableMetrics}
    (hgroups : ∀ group ∈ groups, (r.table? group.1).isSome = true) :
    ofMetrics r' w dimension groups = ofMetrics r w dimension groups := by
  induction groups with
  | nil => rfl
  | cons group groups ih =>
      rw [List.forall_mem_cons] at hgroups
      obtain ⟨t, ht⟩ := Option.isSome_iff_exists.mp hgroups.1
      rw [ofMetrics, ofMetrics, joinTable_extends h hr' ht, ih hgroups.2]

end Sources

/-- The names for the keys come from a table that is registered in both. -/
theorem Grouped.Plan.nameSource_extends {d : Dimension} (hd : d.WellFormed r) (conditions : List Condition) :
    nameSource r' d conditions = nameSource r d conditions := by
  cases hcolumn : d.nameColumn with
  | none => simp only [nameSource, hcolumn]
  | some c =>
      obtain ⟨t, ht, -⟩ := hd.nameColumn c hcolumn
      simp only [nameSource, hcolumn, ht, h.table?_eq_some hr' ht]

variable (hr : r.WellFormed)
include hr

/-- A request whose metrics are found gets the same statement, or fails with the same. -/
theorem Yoy.statement_extends {request : YoyRequest} {groups : TableMetrics} (hne : request.metrics ≠ [])
    (hgroups : r.metricsByTable request.metrics = .ok groups) (today : Date) :
    statement r' request today = statement r request today := by
  have hplan : Plan.ofRequest r' request today = Plan.ofRequest r request today := by
    simp only [Plan.ofRequest, h.metricsByTable_eq_ok hr' hne hgroups, hgroups, Binding.ofExcept_ok_bind,
      Sources.ofMetrics_extends h hr' (hr.isSome_table? hgroups), h.calculated]
  rw [statement, statement, hplan]

/-- So does one by group, if its dimension is found too. -/
theorem Grouped.statement_extends {request : GroupedRequest} {d : Dimension} {groups : TableMetrics}
    (hne : request.metrics ≠ []) (hd : r.dimension request.groupBy = .ok d)
    (hgroups : r.metricsByTable request.metrics = .ok groups) (today : Date) :
    statement r' request today = statement r request today := by
  have hplan : Plan.ofRequest r' request today = Plan.ofRequest r request today := by
    simp only [Plan.ofRequest, h.dimension_eq_ok hr' hd, hd, h.metricsByTable_eq_ok hr' hne hgroups, hgroups,
      Binding.ofExcept_ok_bind, Sources.ofMetrics_extends h hr' (hr.isSome_table? hgroups),
      Plan.nameSource_extends h hr' (hr.dimensions d (Registry.dimension_ok hd)), h.calculated]
  rw [statement, statement, hplan]

end

/-- The values of a column are found through the table alone. -/
theorem Distinct.statement_extends {r r' : Registry} (h : r.Extends r') (hr' : r'.WellFormed)
    {request : DistinctRequest} {t : Table} (ht : r.table? request.table = some t) :
    statement r' request = statement r request := by
  simp only [statement, ht, h.table?_eq_some hr' ht]

/-- With more tables, metrics and dimensions, and with these in any order, a registry answers the requests for named
metrics and for the values of a column that it answered before, each by the same statement. -/
theorem Statement.unchanged_by_extension {tables tables' moreTables : List Table}
    {base base' moreBase : List BaseMetric} {calculated : List CalculatedMetric}
    {dimensions dimensions' moreDimensions : List Dimension} {r r' : Registry}
    (hr : Registry.build tables base calculated dimensions = .ok r)
    (hr' : Registry.build tables' base' calculated dimensions' = .ok r')
    (htables : tables'.Perm (tables ++ moreTables)) (hbase : base'.Perm (base ++ moreBase))
    (hdimensions : dimensions'.Perm (dimensions ++ moreDimensions)) :
    (∀ (request : YoyRequest) (today : Date) (s : Statement), request.metrics ≠ [] →
      Yoy.statement r request today = .ok s → Yoy.statement r' request today = .ok s) ∧
    (∀ (request : GroupedRequest) (today : Date) (o : Option Statement), request.metrics ≠ [] →
      Grouped.statement r request today = .ok o → Grouped.statement r' request today = .ok o) ∧
    ∀ (request : DistinctRequest) (s : Statement),
      Distinct.statement r request = .ok s → Distinct.statement r' request = .ok s := by
  have hwell : r.WellFormed := Registry.wellFormed_of_build hr
  have hwell' : r'.WellFormed := Registry.wellFormed_of_build hr'
  have hextends : r.Extends r' := by
    obtain ⟨rfl, -⟩ := Registry.build_ok_iff.mp hr
    obtain ⟨rfl, -⟩ := Registry.build_ok_iff.mp hr'
    exact ⟨fun t ht => htables.mem_iff.mpr (List.mem_append_left _ ht),
      fun m hm => hbase.mem_iff.mpr (List.mem_append_left _ hm), rfl,
      fun d hd => hdimensions.mem_iff.mpr (List.mem_append_left _ hd)⟩
  refine ⟨?_, ?_, ?_⟩
  · intro request today s hne hs
    obtain ⟨p, groups, w, -, hanswers, -⟩ := Yoy.statement_ok hs
    rw [Yoy.statement_extends hextends hwell' hwell hne hanswers.metrics, hs]
  · intro request today o hne ho
    obtain ⟨d, groups, w, hd, hgroups, -⟩ := Grouped.statement_ok ho
    rw [Grouped.statement_extends hextends hwell' hwell hne hd hgroups, ho]
  · intro request s hs
    obtain ⟨t, c, limit, clauses, hrenders⟩ := Distinct.statement_ok hs
    rw [Distinct.statement_extends hextends hwell' hrenders.table, hs]

namespace Registry.Builtin

/-- A table of goods that came back. -/
def returns : Table :=
  ⟨"returns", "day", [⟨"day", .date⟩, ⟨"brand", .string⟩, ⟨"reason", .string⟩, ⟨"refund", .float64⟩]⟩

def refunds : BaseMetric := ⟨"returns", "refund", .sum, "refunds"⟩

end Registry.Builtin

section

open Registry Registry.Builtin

/-- The balance sheet backwards, and with returns before all else. -/
theorem Statement.unchanged_by_returns :
    ∃ r', Registry.build (returns :: Builtin.tables.reverse) (refunds :: Builtin.base.reverse) Builtin.calculated
        (column "reason" :: Builtin.dimensions.reverse) = .ok r' ∧
      (∃ s, Yoy.statement .builtin (totals plainFilters) spring = .ok s ∧
        Yoy.statement r' (totals plainFilters) spring = .ok s) ∧
      (∃ s, Grouped.statement .builtin (bySeller plainFilters "margin") spring = .ok (some s) ∧
        Grouped.statement r' (bySeller plainFilters "margin") spring = .ok (some s)) ∧
      ∃ s, Distinct.statement .builtin ⟨"transactions", "brand", plainFilters, .ofValues⟩ = .ok s ∧
        Distinct.statement r' ⟨"transactions", "brand", plainFilters, .ofValues⟩ = .ok s := by
  have hlast {α : Type} (a : α) (as : List α) : (a :: as.reverse).Perm (as ++ [a]) :=
    ((List.reverse_perm as).cons a).trans (List.perm_append_singleton a as).symm
  obtain ⟨r', hr'⟩ := Except.exists_of_isOk
    (e := Registry.build (returns :: Builtin.tables.reverse) (refunds :: Builtin.base.reverse) Builtin.calculated
      (column "reason" :: Builtin.dimensions.reverse)) (by decide +kernel)
  obtain ⟨hyoy, hgrouped, hdistinct⟩ := unchanged_by_extension build_builtin hr' (hlast returns _)
    (hlast refunds _) (hlast (column "reason") _)
  refine ⟨r', hr', ?_, ?_, ?_⟩
  · obtain ⟨s, hs⟩ := Except.exists_of_isOk
      (e := Yoy.statement .builtin (totals plainFilters) spring) (by decide +kernel)
    exact ⟨s, hs, hyoy _ _ s (by decide) hs⟩
  · obtain ⟨s, hs, -⟩ := Except.exists_some_of_map (b := ()) (f := fun _ => ())
      (e := Grouped.statement .builtin (bySeller plainFilters "margin") spring) (by decide +kernel)
    exact ⟨s, hs, hgrouped _ _ (some s) (by decide) hs⟩
  · obtain ⟨s, hs⟩ := Except.exists_of_isOk
      (e := Distinct.statement .builtin ⟨"transactions", "brand", plainFilters, .ofValues⟩) (by decide +kernel)
    exact ⟨s, hs, hdistinct _ s hs⟩

end

end BalanceSheet
