import BalanceSheet.Proofs.Condition.Outline
import BalanceSheet.Proofs.Condition.Window
import BalanceSheet.Proofs.Query.Names
import BalanceSheet.Proofs.Query.Plans

/-!
The values of a statement, period beside period. Each table that takes part brings the values of the
conditions and then those of the conditions a year earlier, in the order of the conditions; the tables
come in the order in which the requested metrics first name them, and the names of groups come last, with
the conditions that are not on the date.
-/

namespace BalanceSheet

theorem Operand.YearEarlier.values {o o' : Operand} (h : o.YearEarlier o') :
    List.Forall₂ (fun v v' => Condition.yearEarlier v = .ok v') o.values o'.values := by
  cases h with
  | none => exact .nil
  | single hv => exact .cons hv .nil
  | multiple hvs => exact hvs

namespace Condition

/-- The values of conditions, condition by condition. -/
def allValues (cs : List Condition) : List String := cs.flatMap boundValues

theorem values_of_makes {t : Table} {cs : List Condition} {cls : List (Clause Param)}
    (h : List.Forall₂ (Makes t) cs cls) : (cls.flatMap Clause.values).map Param.value = allValues cs := by
  induction h with
  | nil => rfl
  | cons hc _ ih =>
      rw [List.flatMap_cons, List.map_append, ih, hc.values]
      rfl

/-- What stands for a value of the condition in the previous window: the value itself, or, if it is a
date, the date a year earlier. -/
def ValueMoved (c : Condition) (v v' : String) : Prop :=
  if c.isDate then yearEarlier v = .ok v' else v' = v

theorem Moved.values {c c' : Condition} (h : c.Moved c') :
    List.Forall₂ c.ValueMoved c.boundValues c'.boundValues := by
  cases hdate : c.isDate with
  | false =>
      have hsame (v : String) : c.ValueMoved v v := by simp [ValueMoved, hdate]
      rw [h.undated hdate]
      exact List.forall₂_same.mpr fun v _ => hsame v
  | true =>
      have hmoved (v v' : String) (hv : yearEarlier v = .ok v') : c.ValueMoved v v' := by
        simpa [ValueMoved, hdate] using hv
      have hoperand : List.Forall₂ c.ValueMoved c.operand.values c'.operand.values :=
        (h.dated hdate).values.imp hmoved
      unfold boundValues
      rw [h.operator]
      split
      · exact .nil
      · exact .nil
      · exact hoperand

end Condition

namespace Source

theorem Reads.values {t : Table} {metrics : List BaseMetric} {cs : List Condition}
    {dimension : Option Dimension} {period : Period} {s : Source} (h : s.Reads t metrics cs dimension period) :
    s.params.map Param.value = Condition.allValues cs :=
  Condition.values_of_makes h.clauses

end Source

/-- The values of one table: those of its current period, then those of its previous one. -/
def Windows.values (w : Windows) : List String := Condition.allValues w.current ++ Condition.allValues w.previous

theorem Joined.Compares.values {r : Registry} {w : Windows} {dimension : Option Dimension}
    {group : String × List BaseMetric} {j : Joined} (h : j.Compares r w dimension group) :
    j.params.map Param.value = w.values := by
  obtain ⟨t, -, hcurrent, hprevious⟩ := h.sources
  rw [Joined.params, List.map_append, hcurrent.values, hprevious.values]
  rfl

namespace Sources

variable {r : Registry} {w : Windows} {dimension : Option Dimension}

theorem values_of_compares {groups : TableMetrics} {js : List Joined}
    (h : List.Forall₂ (Joined.Compares r w dimension) groups js) :
    (js.flatMap Joined.params).map Param.value = (groups.map Prod.fst).flatMap fun _ => w.values := by
  induction h with
  | nil => rfl
  | cons hj _ ih => rw [List.flatMap_cons, List.map_append, ih, hj.values, List.map_cons, List.flatMap_cons]

theorem Covers.values {groups : TableMetrics} {s : Sources} (h : s.Covers r w dimension groups) :
    s.params.map Param.value =
      ((groups.map Prod.fst).filter fun t => !s.skipped.contains t).flatMap fun _ => w.values := by
  rw [← h.tables]
  exact values_of_compares h.joined

end Sources

/-- The values are a block for each table that takes part, and then `trailing`. The block holds the values
of the conditions and those of the conditions of the previous window, which are the same conditions one for
one, with all dates a year earlier, and the cap. -/
def Statement.ValuesByPeriod (r : Registry) (request : YoyRequest) (today : Date) (trailing : List String)
    (s : Statement) : Prop :=
  ∃ metrics moved, r.selectMetrics request.metrics = .ok metrics ∧
    Condition.previousPeriod request.filters today = .ok (moved ++ Condition.trailingCap request.filters today) ∧
    List.Forall₂ Condition.Moved request.filters moved ∧
    List.Forall₂ (fun c c' => List.Forall₂ c.ValueMoved c.boundValues c'.boundValues) request.filters moved ∧
    s.params.toList.map Param.value =
      ((s.tables metrics).flatMap fun _ => Condition.allValues request.filters ++
        (Condition.allValues moved ++ Condition.allValues (Condition.trailingCap request.filters today))) ++
      trailing

theorem Sources.Covers.valuesByPeriod {r : Registry} {request : YoyRequest} {today : Date}
    {dimension : Option Dimension} {groups : TableMetrics} {w : Windows} {sources : Sources} {s : Statement}
    {trailing : List String} (h : sources.Covers r w dimension groups)
    (hgroups : r.metricsByTable request.metrics = .ok groups)
    (hw : Windows.ofFilters request.filters today = .ok w) (hskipped : s.skipped = Sorted.names sources.skipped)
    (hvalues : s.params.toList.map Param.value = sources.params.map Param.value ++ trailing) :
    s.ValuesByPeriod r request today trailing := by
  obtain ⟨metrics, hmetrics, rfl⟩ := Registry.metricsByTable_ok hgroups
  obtain ⟨hcurrent, hprevious⟩ := Windows.ofFilters_ok hw
  obtain ⟨moved, hmoved, hall⟩ := Condition.previousPeriod_ok hprevious
  refine ⟨metrics, moved, hmetrics, ?_, hall, hall.imp fun _ _ hc => hc.values, ?_⟩
  · rw [hprevious, hmoved]
  · have htables := Statement.tables_eq metrics hskipped
    have hblock : w.values = Condition.allValues request.filters ++
        (Condition.allValues moved ++ Condition.allValues (Condition.trailingCap request.filters today)) := by
      rw [Windows.values, hcurrent, hmoved, Condition.allValues, Condition.allValues, List.flatMap_append]
      rfl
    rw [hvalues, h.values, htables, hblock]

namespace Grouped.Plan

/-- The expression with the names of groups is there where the plan has a source of names. -/
theorem Answers.groupNames_mem_ctes {r : Registry} {request : GroupedRequest} {today : Date} {d : Dimension}
    {groups : TableMetrics} {w : Windows} {p : Plan} (h : p.Answers r request today d groups w) :
    groupNames ∈ p.toSelect.ctes.map Prod.fst ↔ p.names.isSome = true := by
  have hsources : groupNames ∉ p.sources.ctes.map Prod.fst := by
    intro hmem
    rw [Sources.map_fst_ctes, h.sources.names, List.mem_flatMap] at hmem
    obtain ⟨t, -, hname⟩ := hmem
    rcases List.mem_pair.mp hname with heq | heq
    · exact Source.nameOf_ne_groupNames t .current heq.symm
    · exact Source.nameOf_ne_groupNames t .previous heq.symm
  have hkeys : groupNames ≠ groupKeys := by decide
  rw [toSelect, List.map_append, List.mem_append, List.map_cons, List.mem_cons]
  cases p.names <;> simp_all

theorem Answers.values_names {r : Registry} {request : GroupedRequest} {today : Date} {d : Dimension}
    {groups : TableMetrics} {w : Windows} {p : Plan} (h : p.Answers r request today d groups w) :
    (p.names.toList.flatMap NameSource.params).map Param.value =
      if groupNames ∈ p.toSelect.ctes.map Prod.fst then Condition.allValues (undated request.filters)
      else [] := by
  have hcurrent : w.current = request.filters := (Windows.ofFilters_ok h.windows).1
  simp only [h.groupNames_mem_ctes]
  cases hnames : p.names with
  | none => rfl
  | some names =>
      obtain ⟨c, t, hreads⟩ := h.names names hnames
      have hvalues := Condition.values_of_makes hreads.clauses
      rw [hcurrent] at hvalues
      simpa [NameSource.params] using hvalues

end Grouped.Plan

/-- The values of a statement line up with its tables and with the two periods of each. -/
theorem Statement.valuesByPeriod_of_statement (r : Registry) :
    (∀ (request : YoyRequest) (today : Date) (s : Statement), Yoy.statement r request today = .ok s →
      s.ValuesByPeriod r request today []) ∧
    ∀ (request : GroupedRequest) (today : Date) (s : Statement),
      Grouped.statement r request today = .ok (some s) →
      ∃ plan, Grouped.plan r request today = .ok (some plan) ∧ s.sql = plan.toSelect.text ∧
        s.ValuesByPeriod r request.toYoyRequest today
          (if Grouped.groupNames ∈ plan.toSelect.ctes.map Prod.fst
            then Condition.allValues (Grouped.undated request.filters) else []) := by
  constructor
  · intro request today s h
    obtain ⟨p, groups, w, -, hanswers, hrenders⟩ := Yoy.statement_ok h
    apply hanswers.sources.valuesByPeriod hanswers.metrics hanswers.windows hrenders.skipped
    rw [hrenders.params, List.append_nil]
  · intro request today s h
    obtain ⟨p, d, groups, w, hplan, hanswers, hrenders⟩ := Grouped.statement_some_ok h
    refine ⟨p, hplan, hrenders.sql, ?_⟩
    apply hanswers.sources.valuesByPeriod hanswers.metrics hanswers.windows hrenders.skipped
    rw [hrenders.params, Grouped.Plan.params, List.map_append, hanswers.values_names]

section

open Registry.Builtin

/-- The last day of February moves to the day before, and the cap comes behind all else. -/
theorem Statement.valuesByPeriod_builtin :
    (∃ s, Yoy.statement .builtin (totals plainFilters) spring = .ok s ∧
      s.params.toList.map Param.value =
        ["2024-02-29", "north", "south", "ann", "2023-02-28", "north", "south", "ann", "2023-03-15"] ∧
      s.ValuesByPeriod .builtin (totals plainFilters) spring []) ∧
    ∃ s, Grouped.statement .builtin (bySeller plainFilters "sales") spring = .ok (some s) ∧
      s.params.toList.map Param.value =
        ["2024-02-29", "north", "south", "ann", "2023-02-28", "north", "south", "ann", "2023-03-15",
          "north", "south", "ann"] ∧
      ∃ plan, Grouped.plan .builtin (bySeller plainFilters "sales") spring = .ok (some plan) ∧
        s.sql = plan.toSelect.text ∧
        s.ValuesByPeriod .builtin (totals plainFilters) spring
          (if Grouped.groupNames ∈ plan.toSelect.ctes.map Prod.fst
            then Condition.allValues (Grouped.undated plainFilters) else []) := by
  obtain ⟨hyoy, hgrouped⟩ := valuesByPeriod_of_statement .builtin
  constructor
  · obtain ⟨s, hs, hvalues⟩ := Except.exists_of_map (f := fun s => s.params.toList.map Param.value)
      (e := Yoy.statement .builtin (totals plainFilters) spring)
      (b := ["2024-02-29", "north", "south", "ann", "2023-02-28", "north", "south", "ann", "2023-03-15"])
      (by decide +kernel)
    exact ⟨s, hs, hvalues, hyoy _ _ s hs⟩
  · obtain ⟨s, hs, hvalues⟩ := Except.exists_some_of_map (f := fun s => s.params.toList.map Param.value)
      (e := Grouped.statement .builtin (bySeller plainFilters "sales") spring)
      (b := ["2024-02-29", "north", "south", "ann", "2023-02-28", "north", "south", "ann", "2023-03-15",
        "north", "south", "ann"])
      (by decide +kernel)
    exact ⟨s, hs, hvalues, hgrouped _ _ s hs⟩

end
end BalanceSheet
