import BalanceSheet.Proofs.Calendar.Text
import BalanceSheet.Proofs.Condition.Fitting
import BalanceSheet.Proofs.Query.Plans
import BalanceSheet.Proofs.Registry.Fields

/-!
Requests that get a statement. Binding fails only in a condition, a table or a dimension, so a request is answered
exactly if it asks for metrics and a dimension of the registry, its dates can be moved by a year, and its conditions fit
every table that takes part and the one with the names for the keys. Where every condition makes a clause for every
table, they do; without any condition as well, as the cap of the previous period is a date.
-/

namespace BalanceSheet

open Registry.Builtin

/-- Each condition of both periods makes a clause, whatever the table. -/
def Windows.Suitable (w : Windows) : Prop :=
  ∀ c ∈ w.current ++ w.previous, ∀ t : Table, (Condition.clause t c).Succeeds

namespace Condition

/-- The cap of an open window fits every table, as each has a date column. -/
theorem fits_cap (today : Date) (t : Table) : (cap today).Fits t := by
  have hadmits : ValueType.date.admits (today.shiftYears (-1)).text = true := by
    rw [ValueType.admits, Date.parse?_text]
    rfl
  refine ⟨⟨t.dateColumn, .date⟩, by simp [column?, cap, lte], rfl, ?_⟩
  intro v hv
  rw [List.mem_singleton.mp hv]
  exact hadmits

end Condition

/-- A table has keys for the dimensions that apply to it. -/
theorem Dimension.isSome_keyExpr? (d : Dimension) (t : Table) (period : Period) :
    (d.keyExpr? t period).isSome = d.appliesTo t := by
  cases hbucket : d.bucket with
  | some bucket => cases period <;> simp [keyExpr?, appliesTo, hbucket]
  | none => cases hcolumn : t.hasColumn d.name <;> simp [keyExpr?, appliesTo, hbucket, hcolumn]

section

variable {r : Registry} {w : Windows} {dimension : Option Dimension} {t : Table}

theorem Source.succeeds_keyOf (h : dimension.all (fun d => d.appliesTo t) = true) (period : Period) :
    (keyOf t dimension period).Succeeds := by
  cases dimension with
  | none => exact .pure none
  | some d =>
      obtain ⟨key, hkey⟩ := Option.isSome_iff_exists.mp ((d.isSome_keyExpr? t period).trans h)
      simp only [keyOf, hkey]
      exact .pure (some key)

theorem Source.succeeds_ofTable (h : dimension.all (fun d => d.appliesTo t) = true) {cs : List Condition}
    (hcs : ∀ c ∈ cs, c.Fits t) (metrics : List BaseMetric) (period : Period) :
    (ofTable t metrics cs dimension period).Succeeds := by
  have hclauses : (cs.mapM (Condition.clause t)).Succeeds := .mapM fun c hc => (hcs c hc).succeeds
  unfold ofTable
  exact (succeeds_keyOf h period).bind fun key => hclauses.bind fun clauses => .pure _

/-- A source that was made once is of a table that its conditions fit. -/
theorem Source.fits_of_run {cs : List Condition} {metrics : List BaseMetric} {period : Period} {s : Source}
    {ps qs : Params} (h : (ofTable t metrics cs dimension period).run ps = (.ok s, qs)) : ∀ c ∈ cs, c.Fits t := by
  obtain ⟨key, ps', -, h⟩ := Binding.run_bind_ok h
  obtain ⟨clauses, hclauses, -⟩ := Binding.run_map_ok h
  exact Condition.fits_of_run_mapM hclauses

namespace Sources

/-- The table can answer only if the conditions of both windows fit it. -/
def FitTable (w : Windows) (dimension : Option Dimension) (t : Table) : Prop :=
  answers t dimension w.current = true → ∀ c ∈ w.current ++ w.previous, c.Fits t

/-- The tables of the groups are registered, and the conditions fit those that can answer. -/
def Fit (r : Registry) (w : Windows) (dimension : Option Dimension) (groups : TableMetrics) : Prop :=
  ∀ group ∈ groups, ∃ t, r.table? group.1 = some t ∧ FitTable w dimension t

/-- A registered table takes part or is skipped. -/
theorem FitTable.succeeds (h : FitTable w dimension t) {name : String} (ht : r.table? name = some t)
    (metrics : List BaseMetric) : (joinTable r w dimension name metrics).Succeeds := by
  simp only [joinTable, ht]
  split
  case isTrue hanswers =>
      have hfits := List.forall_mem_append.mp (h hanswers)
      rw [answers, Bool.and_eq_true] at hanswers
      exact (Source.succeeds_ofTable hanswers.1 hfits.1 metrics .current).bind fun current =>
        (Source.succeeds_ofTable hanswers.1 hfits.2 metrics .previous).bind fun previous => .pure _
  case isFalse => exact .pure none

theorem fitTable_of_run {name : String} {metrics : List BaseMetric} {o : Option Joined} {ps qs : Params}
    (h : (joinTable r w dimension name metrics).run ps = (.ok o, qs)) :
    ∃ t, r.table? name = some t ∧ FitTable w dimension t := by
  rw [joinTable] at h
  split at h
  case h_1 => exact (Binding.run_fail_ne_ok h).elim
  case h_2 t ht =>
      refine ⟨t, ht, ?_⟩
      intro hanswers
      rw [if_pos hanswers] at h
      obtain ⟨current, ps', hcurrent, h⟩ := Binding.run_bind_ok h
      obtain ⟨previous, hprevious, -⟩ := Binding.run_map_ok h
      exact List.forall_mem_append.mpr ⟨Source.fits_of_run hcurrent, Source.fits_of_run hprevious⟩

theorem Fit.succeeds {groups : TableMetrics} (h : Fit r w dimension groups) :
    (ofMetrics r w dimension groups).Succeeds := by
  induction groups with
  | nil => exact .pure _
  | cons group groups ih =>
      obtain ⟨⟨t, ht, hfit⟩, hrest⟩ := List.forall_mem_cons.mp h
      exact (hfit.succeeds ht group.2).bind fun joined => (ih hrest).bind fun sources => .pure _

/-- Sources that were made once are of tables that the conditions fit. -/
theorem fit_of_run {groups : TableMetrics} {s : Sources} {ps qs : Params}
    (h : (ofMetrics r w dimension groups).run ps = (.ok s, qs)) : Fit r w dimension groups := by
  induction groups generalizing s ps with
  | nil => exact fun group hgroup => absurd hgroup List.not_mem_nil
  | cons group groups ih =>
      obtain ⟨o, ps', hjoin, h⟩ := Binding.run_bind_ok h
      obtain ⟨rest, hrest, -⟩ := Binding.run_map_ok h
      exact List.forall_mem_cons.mpr ⟨fitTable_of_run hjoin, ih hrest⟩

/-- Conditions that suit every table fit those of the groups. -/
theorem fit_of_suitable (hw : w.Suitable) {groups : TableMetrics}
    (hgroups : ∀ group ∈ groups, (r.table? group.1).isSome = true) : Fit r w dimension groups := by
  intro group hgroup
  obtain ⟨t, ht⟩ := Option.isSome_iff_exists.mp (hgroups group hgroup)
  exact ⟨t, ht, fun _ c hc => Condition.fits_of_succeeds (hw c hc t)⟩

end Sources

namespace Grouped.Plan

/-- The conditions that do not depend on the period fit the table with the names for the keys, if it takes them. -/
def NamesFit (r : Registry) (d : Dimension) (conditions : List Condition) : Prop :=
  ∀ c ∈ d.nameColumn, ∀ t ∈ r.table? c.table, d.appliesTo t = true →
    Condition.supported (undated conditions) t = true → ∀ c ∈ undated conditions, c.Fits t

theorem NamesFit.succeeds {d : Dimension} {conditions : List Condition} (h : NamesFit r d conditions) :
    (nameSource r d conditions).Succeeds := by
  simp only [nameSource]
  split
  case h_1 => exact .pure none
  case h_2 c hc =>
    split
    case h_1 => exact .pure none
    case h_2 t ht =>
      split
      case h_1 => exact .pure none
      case h_2 key hkey =>
        split
        case isTrue hsupported =>
          have happlies : d.appliesTo t = true := by rw [← d.isSome_keyExpr? t .current, hkey]; rfl
          have hclauses : ((undated conditions).mapM (Condition.clause t)).Succeeds :=
            .mapM fun c' hc' => (h c hc t ht happlies hsupported c' hc').succeeds
          exact hclauses.bind fun clauses => .pure _
        case isFalse => exact .pure none

theorem namesFit_of_run {d : Dimension} {conditions : List Condition} {o : Option NameSource} {ps qs : Params}
    (h : (nameSource r d conditions).run ps = (.ok o, qs)) : NamesFit r d conditions := by
  intro c hc t ht happlies hsupported
  rw [Option.mem_def] at hc ht
  obtain ⟨key, hkey⟩ := Option.isSome_iff_exists.mp ((d.isSome_keyExpr? t .current).trans happlies)
  rw [undated] at hsupported
  simp only [nameSource, hc, ht, hkey, if_pos hsupported] at h
  obtain ⟨clauses, hclauses, -⟩ := Binding.run_map_ok h
  exact Condition.fits_of_run_mapM hclauses

theorem namesFit_of_suitable (hw : w.Suitable) (d : Dimension) : NamesFit r d w.current :=
  fun _ _ t _ _ _ c hc =>
    Condition.fits_of_succeeds (hw c (List.mem_append_left _ (List.mem_of_mem_filter hc)) t)

end Grouped.Plan

end

/-- Without conditions, only the cap of the previous period is left. -/
def Windows.unbounded (today : Date) : Windows := ⟨[], [.cap today]⟩

theorem Windows.suitable_unbounded (today : Date) : (unbounded today).Suitable := by
  intro c hc t
  rw [List.mem_singleton.mp hc]
  exact (Condition.fits_cap today t).succeeds

theorem Sources.takesPart_unbounded {r : Registry} {today : Date} {dimension : Option Dimension} {name : String}
    {t : Table} (ht : r.table? name = some t) (hdimension : ∀ d ∈ dimension, d.appliesTo t = true) :
    takesPart r (.unbounded today) dimension name = true := by
  cases dimension <;> simp_all [takesPart, answers, Condition.supported, Windows.unbounded]

/-- A table that takes part under some conditions does so without them. -/
theorem Sources.takesPart_unbounded_of {r : Registry} {w : Windows} {today : Date} {dimension : Option Dimension}
    {name : String} (h : takesPart r w dimension name = true) :
    takesPart r (.unbounded today) dimension name = true := by
  rw [takesPart, Option.any_eq_true] at h
  obtain ⟨t, ht, hanswers⟩ := h
  rw [answers, Bool.and_eq_true] at hanswers
  apply takesPart_unbounded ht
  rintro d rfl
  exact hanswers.1

namespace Registry.WellFormed

variable {r : Registry} {aliases : List String}

/-- The tables of selected metrics are registered. -/
theorem isSome_table? (hr : r.WellFormed) {groups : TableMetrics} (h : r.metricsByTable aliases = .ok groups) :
    ∀ group ∈ groups, (r.table? group.1).isSome = true := by
  obtain ⟨metrics, hmetrics, rfl⟩ := metricsByTable_ok h
  intro group hgroup
  obtain ⟨m, hm, htable⟩ := TableMetrics.exists_of_mem_ofMetrics hgroup
  obtain ⟨t, ht, -⟩ := (hr.base m (mem_base_of_selectMetrics hmetrics m hm)).field
  rw [← htable, ht]
  rfl

/-- Every metric can be asked for by its name. -/
theorem metricsByTable_name (hr : r.WellFormed) {m : BaseMetric} (hm : m ∈ r.base) :
    r.metricsByTable [m.name] = .ok (TableMetrics.ofMetrics [m]) := by
  have hmetric : r.metric m.name = .ok m := by
    rw [metric, baseMetric?, find?_key_eq_some hr.nodup_names hm]
  have hselected : r.selectMetrics [m.name] = .ok [m] := by
    have hdistinct : [m.name].eraseDups = [m.name] := by simp [List.eraseDups_cons]
    rw [selectMetrics, if_neg (by simp), hdistinct, List.mapM_cons, hmetric]
    rfl
  rw [metricsByTable, hselected]
  rfl

/-- Every dimension can be asked for by its name. -/
theorem dimension_name (hr : r.WellFormed) {d : Dimension} (hd : d ∈ r.dimensions) : r.dimension d.name = .ok d := by
  rw [Registry.dimension, find?_key_eq_some hr.dimensionNames hd]

end Registry.WellFormed

namespace Yoy

variable {r : Registry} {request : YoyRequest} {today : Date} {groups : TableMetrics} {w : Windows}

/-- A request is answered exactly if its metrics are known, its dates can be moved, and its conditions fit every
table that takes part. -/
theorem exists_statement_iff : (∃ s, statement r request today = .ok s) ↔
    ∃ groups w, r.metricsByTable request.metrics = .ok groups ∧
      Windows.ofFilters request.filters today = .ok w ∧ Sources.Fit r w none groups := by
  constructor
  · rintro ⟨s, h⟩
    rw [statement] at h
    split at h
    case h_1 => cases h
    case h_2 p params hrun =>
      obtain ⟨groups, _, hrun', h⟩ := Binding.run_bind_ok hrun
      obtain ⟨hgroups, rfl⟩ := Binding.run_ofExcept_ok hrun'
      obtain ⟨w, _, hrun', h⟩ := Binding.run_bind_ok h
      obtain ⟨hw, rfl⟩ := Binding.run_ofExcept_ok hrun'
      obtain ⟨sources, hsources, -⟩ := Binding.run_map_ok h
      exact ⟨groups, w, hgroups, hw, Sources.fit_of_run hsources⟩
  · rintro ⟨groups, w, hgroups, hw, hfit⟩
    have hplan : (Plan.ofRequest r request today).Succeeds :=
      .ofExcept_bind hgroups (.ofExcept_bind hw (hfit.succeeds.bind fun sources => .pure _))
    obtain ⟨p, qs, hrun⟩ := hplan .empty
    rw [statement, hrun]
    exact ⟨_, rfl⟩

/-- Requests for metrics of the registry under suitable conditions are answered. -/
theorem exists_statement (hr : r.WellFormed) (hgroups : r.metricsByTable request.metrics = .ok groups)
    (hwindows : Windows.ofFilters request.filters today = .ok w) (hw : w.Suitable) :
    ∃ s, statement r request today = .ok s := by
  rw [exists_statement_iff]
  exact ⟨groups, w, hgroups, hwindows, Sources.fit_of_suitable hw (hr.isSome_table? hgroups)⟩

/-- Selected metrics get a statement without conditions. -/
theorem exists_plan (hr : r.WellFormed) {names : List String} (hgroups : r.metricsByTable names = .ok groups) :
    ∃ s p, statement r ⟨names, []⟩ spring = .ok s ∧ plan r ⟨names, []⟩ spring = .ok p ∧
      p.Answers r ⟨names, []⟩ spring groups (.unbounded spring) ∧ Renders p s := by
  have hwindows : Windows.ofFilters [] spring = .ok (.unbounded spring) := rfl
  have hsuitable : (Windows.unbounded spring).Suitable := Windows.suitable_unbounded spring
  have hstatement : ∃ s, statement r ⟨names, []⟩ spring = .ok s :=
    exists_statement hr hgroups hwindows hsuitable
  obtain ⟨s, hs⟩ := hstatement
  obtain ⟨p, groups', w, hplan, hanswers, hrenders⟩ := statement_ok hs
  cases hwindows.symm.trans hanswers.windows
  cases hgroups.symm.trans hanswers.metrics
  exact ⟨s, p, hs, hplan, hanswers, hrenders⟩

end Yoy

namespace Grouped

variable {r : Registry} {request : GroupedRequest} {today : Date} {d : Dimension} {groups : TableMetrics}
  {w : Windows} {limit : Nat}

/-- A request is answered exactly if its dimension and metrics are known, its page has rows, its dates can be moved,
and its conditions fit every table that takes part and, if there is any, the one with the names. -/
theorem exists_answer_iff : (∃ o, statement r request today = .ok o) ↔
    ∃ d groups limit w, r.dimension request.groupBy = .ok d ∧ r.metricsByTable request.metrics = .ok groups ∧
      request.page.effectiveLimit = .ok limit ∧ Windows.ofFilters request.filters today = .ok w ∧
      Sources.Fit r w (some d) groups ∧
      ((∃ group ∈ groups, Sources.takesPart r w (some d) group.1 = true) → Plan.NamesFit r d w.current) := by
  constructor
  · rintro ⟨o, h⟩
    have hrun : ∃ o qs, (Plan.ofRequest r request today).run .empty = (.ok o, qs) := by
      rw [statement] at h
      split at h
      case h_1 => cases h
      case h_2 hrun => exact ⟨_, _, hrun⟩
      case h_3 hrun => exact ⟨_, _, hrun⟩
    obtain ⟨o, qs, hrun⟩ := hrun
    obtain ⟨d, _, hstep, h⟩ := Binding.run_bind_ok hrun
    obtain ⟨hd, rfl⟩ := Binding.run_ofExcept_ok hstep
    obtain ⟨groups, _, hstep, h⟩ := Binding.run_bind_ok h
    obtain ⟨hgroups, rfl⟩ := Binding.run_ofExcept_ok hstep
    obtain ⟨limit, _, hstep, h⟩ := Binding.run_bind_ok h
    obtain ⟨hlimit, rfl⟩ := Binding.run_ofExcept_ok hstep
    obtain ⟨w, _, hstep, h⟩ := Binding.run_bind_ok h
    obtain ⟨hw, rfl⟩ := Binding.run_ofExcept_ok hstep
    obtain ⟨sources, ps', hsources, h⟩ := Binding.run_bind_ok h
    refine ⟨d, groups, limit, w, hd, hgroups, hlimit, hw, Sources.fit_of_run hsources, ?_⟩
    rintro ⟨group, hgroup, hpart⟩
    split at h
    case isTrue hnone =>
      have hout := (Sources.run_ofMetrics_ok hsources).1.joined_eq_nil_iff.mp (List.isEmpty_iff.mp hnone)
      rw [hout group hgroup] at hpart
      cases hpart
    case isFalse =>
      obtain ⟨names, hnames, -⟩ := Binding.run_map_ok h
      exact Plan.namesFit_of_run hnames
  · rintro ⟨d, groups, limit, w, hd, hgroups, hlimit, hw, hfit, hnames⟩
    obtain ⟨sources, ps, hsources⟩ := hfit.succeeds .empty
    have hrun : ∃ o qs, (Plan.ofRequest r request today).run .empty = (.ok o, qs) := by
      simp only [Plan.ofRequest, hd, hgroups, hlimit, hw, Binding.ofExcept_ok_bind, Binding.run_bind, hsources]
      split
      case isTrue => exact ⟨none, ps, rfl⟩
      case isFalse hsome =>
        have hpart : ∃ group ∈ groups, Sources.takesPart r w (some d) group.1 = true := by
          have hiff := (Sources.run_ofMetrics_ok hsources).1.joined_eq_nil_iff
          rw [List.isEmpty_iff, hiff] at hsome
          simpa using hsome
        exact ((hnames hpart).succeeds.bind fun names => .pure _) ps
    obtain ⟨o, qs, hrun⟩ := hrun
    rw [statement, hrun]
    cases o with
    | none => exact ⟨none, rfl⟩
    | some p => exact ⟨_, rfl⟩

/-- Requests for metrics and a dimension of the registry are answered, by a statement if some table takes
part. -/
theorem exists_statement (hr : r.WellFormed) (hd : r.dimension request.groupBy = .ok d)
    (hgroups : r.metricsByTable request.metrics = .ok groups) (hlimit : request.page.effectiveLimit = .ok limit)
    (hwindows : Windows.ofFilters request.filters today = .ok w) (hw : w.Suitable)
    (hpart : ∃ group ∈ groups, Sources.takesPart r w (some d) group.1 = true) :
    ∃ s, statement r request today = .ok (some s) := by
  obtain ⟨o, ho⟩ := exists_answer_iff.mpr ⟨d, groups, limit, w, hd, hgroups, hlimit, hwindows,
    Sources.fit_of_suitable hw (hr.isSome_table? hgroups), fun _ => Plan.namesFit_of_suitable hw d⟩
  obtain ⟨d', groups', w', hd', hgroups', hw', hnone, -⟩ := statement_ok ho
  cases hd.symm.trans hd'
  cases hgroups.symm.trans hgroups'
  cases hwindows.symm.trans hw'
  cases o with
  | some s => exact ⟨s, ho⟩
  | none =>
      obtain ⟨group, hgroup, hpart⟩ := hpart
      rw [hnone.mp rfl group hgroup] at hpart
      cases hpart

/-- Selected metrics get a statement without conditions by a dimension that applies to a table of theirs. -/
theorem exists_plan (hr : r.WellFormed) {names : List String} {groupBy : String}
    (hd : r.dimension groupBy = .ok d) (hgroups : r.metricsByTable names = .ok groups)
    (hpart : ∃ group ∈ groups, Sources.takesPart r (.unbounded spring) (some d) group.1 = true)
    (orderBy : Option String) :
    ∃ s p, statement r ⟨⟨names, []⟩, groupBy, ⟨1, 0⟩, orderBy, .asc⟩ spring = .ok (some s) ∧
      plan r ⟨⟨names, []⟩, groupBy, ⟨1, 0⟩, orderBy, .asc⟩ spring = .ok (some p) ∧
      p.Answers r ⟨⟨names, []⟩, groupBy, ⟨1, 0⟩, orderBy, .asc⟩ spring d groups (.unbounded spring) ∧
      Renders p s := by
  have hwindows : Windows.ofFilters [] spring = .ok (.unbounded spring) := rfl
  have hsuitable : (Windows.unbounded spring).Suitable := Windows.suitable_unbounded spring
  have hstatement : ∃ s, statement r ⟨⟨names, []⟩, groupBy, ⟨1, 0⟩, orderBy, .asc⟩ spring = .ok (some s) :=
    exists_statement hr hd hgroups rfl hwindows hsuitable hpart
  obtain ⟨s, hs⟩ := hstatement
  obtain ⟨p, d', groups', w, hplan, hanswers, hrenders⟩ := statement_some_ok hs
  cases hwindows.symm.trans hanswers.windows
  cases hgroups.symm.trans hanswers.metrics
  cases hd.symm.trans hanswers.dimension
  exact ⟨s, p, hs, hplan, hanswers, hrenders⟩

end Grouped
end BalanceSheet
