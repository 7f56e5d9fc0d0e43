import BalanceSheet.Proofs.Condition.Alike
import BalanceSheet.Proofs.Condition.Days
import BalanceSheet.Proofs.Condition.Growth
import BalanceSheet.Proofs.Query.PeriodValues
import BalanceSheet.Proofs.Query.Refusals
import BalanceSheet.Proofs.Query.Success

/-!
Lookups that do not fail. Over an accepted registry a statement looks up only tables that are registered, columns that
the table has and keys that the dimension gives, so what it fails with is always in the request: a metric, a date or a
filter, and for groups a dimension or a page too. A table whose conditions were put to the current period takes those of
the previous one, since a date is a date a year earlier as well, and takes them for the names of groups.
-/

namespace BalanceSheet

/-! ### What a request can be refused for -/

/-- The fault is in a value of the condition, which is read as a date. -/
inductive DateFault.In (c : Condition) : DateFault → Prop
  | unreadable {value : String} (h : value ∈ c.operand.values) : In c (.unreadable value)
  | unreadableFor {value : String} (h : value ∈ c.operand.values) : In c (.unreadableFor value c.field)

/-- The fault is in the operand of the condition or in one of its values. -/
inductive FilterFault.In (c : Condition) : FilterFault → Prop
  | emptyList : In c (.emptyList c.field)
  | unfitOperand : In c (.unfitOperand c.operator c.operand c.field)
  | unreadable {value : String} (h : value ∈ c.operand.values) (type : ValueType) :
      In c (.unreadable value type c.field)

namespace Failure

/-- A metric that is asked for is unknown, or the fault is in a filter. -/
inductive OfRow (r : Registry) (request : YoyRequest) : Failure → Prop
  | metric {name : String} (hname : name ∈ request.metrics) (hunknown : r.baseMetric? name = none) :
      OfRow r request (.unknownMetric name)
  | date {c : Condition} {fault : DateFault} (hc : c ∈ request.filters) (h : fault.In c) : OfRow r request (.date fault)
  | filter {c : Condition} {fault : FilterFault} (hc : c ∈ request.filters) (h : fault.In c) :
      OfRow r request (.filter fault)

/-- The same, or the dimension is not among those of the registry, or the page has no rows. -/
inductive OfGroups (r : Registry) (request : GroupedRequest) : Failure → Prop
  | row {f : Failure} (h : f.OfRow r request.toYoyRequest) : OfGroups r request f
  | groupBy (h : request.groupBy ∉ r.dimensionNames) :
      OfGroups r request (.groupBy (.notAllowed request.groupBy r.dimensionNames))
  | outOfRange (h : request.page.limit = 0) : OfGroups r request (.outOfRange .zeroLimit)

variable {r : Registry} {request : YoyRequest}

/-- A column that the table has refuses a condition for nothing but the condition. -/
theorem ofRow_of_leaves {t : Table} {c : Condition} (hc : c ∈ request.filters)
    (hcolumn : (c.isDate || t.hasColumn c.field) = true) {f : Failure} {added : List Param}
    (h : c.Leaves t f added) : f.OfRow r request := by
  cases h with
  | lacks hdate hnone =>
      rw [Bool.or_eq_true, Condition.isDate, beq_iff_eq, Table.hasColumn, hnone] at hcolumn
      exact absurd (hcolumn.resolve_right (by simp)) hdate
  | unfit =>
      rw [Condition.refusal]
      split
      · exact .filter hc .emptyList
      · exact .filter hc .emptyList
      · exact .filter hc .unfitOperand
  | @misfit type before after v _ htype htakes hvalues =>
      have hvalue : v ∈ c.operand.values := Condition.mem_values_of_mem_boundValues (by simp [hvalues])
      cases type with
      | date => exact .date hc (.unreadableFor hvalue)
      | string | float64 | int64 | uint64 => exact .filter hc (.unreadable hvalue _)

end Failure

theorem Condition.failsWith_clause_of_supported {r : Registry} {request : YoyRequest} {t : Table} {cs : List Condition}
    (hsupported : supported cs t = true) {c : Condition} (hc : c ∈ cs) (hfilters : c ∈ request.filters) :
    (clause t c).FailsWith (Failure.OfRow r request) := by
  intro ps f hfails
  obtain ⟨added, hleaves, -⟩ := leaves_of_run (Prod.ext hfails rfl)
  exact Failure.ofRow_of_leaves hfilters (List.all_eq_true.mp hsupported c hc) hleaves

/-! ### The previous window -/

/-- What an operator takes is a matter of the number of values. -/
theorem Operator.takes_eq_of_alike {o o' : Operand} (h : o.Alike o') (op : Operator) : op.takes o = op.takes o' := by
  cases h with
  | none => rfl
  | single v v' => cases op <;> rfl
  | @multiple vs vs' hlength =>
      have hempty : vs.isEmpty = vs'.isEmpty := by cases vs <;> cases vs' <;> simp_all
      cases op <;> simp [takes, Operand.values, hempty]

namespace Condition

theorem exists_text_of_yearEarlier {v v' : String} (h : yearEarlier v = .ok v') : ∃ d : Date, v' = d.text := by
  obtain ⟨d, -, h⟩ := Except.bind_eq_ok_iff.mp h
  cases h
  exact ⟨_, rfl⟩

/-- A condition that fits a table fits it a year earlier. -/
theorem Moved.fits {c c' : Condition} (h : c.Moved c') {t : Table} (hfits : c.Fits t) : c'.Fits t := by
  cases hdate : c.isDate with
  | false =>
      rw [h.undated hdate]
      exact hfits
  | true =>
      obtain ⟨column, hcolumn, htakes, -⟩ := hfits
      have htype : column.type = .date := by
        rw [isDate] at hdate
        rw [column?, if_pos hdate] at hcolumn
        cases hcolumn
        rfl
      refine ⟨column, by rw [h.field, hcolumn], ?_, ?_⟩
      · rw [h.operator, ← Operator.takes_eq_of_alike h.alike.operand]
        exact htakes
      · intro v' hv'
        obtain ⟨v, -, hmoved⟩ := forall₂_exists_left h.values hv'
        rw [ValueMoved, if_pos hdate] at hmoved
        obtain ⟨d, rfl⟩ := exists_text_of_yearEarlier hmoved
        rw [boundType, htype]
        split
        · rfl
        · rw [ValueType.admits, Date.parse?_text]
          rfl

end Condition

/-- A table that takes the conditions of the current window takes those of the previous one. -/
theorem Windows.fits_previous {filters : List Condition} {today : Date} {w : Windows}
    (hw : ofFilters filters today = .ok w) {t : Table} (h : ∀ c ∈ w.current, c.Fits t) :
    ∀ c ∈ w.previous, c.Fits t := by
  obtain ⟨hcurrent, hprevious⟩ := ofFilters_ok hw
  obtain ⟨moved, heq, hmoved⟩ := Condition.previousPeriod_ok hprevious
  rw [hcurrent] at h
  rw [heq]
  intro c' hc'
  rcases List.mem_append.mp hc' with hc' | hc'
  · obtain ⟨c, hc, hmove⟩ := forall₂_exists_left hmoved hc'
    exact hmove.fits (h c hc)
  · obtain ⟨rfl, -⟩ := Condition.mem_trailingCap_iff.mp hc'
    exact Condition.fits_cap today t

/-- What can be read in the current window can be read in the previous one. -/
theorem Source.succeeds_previous {filters : List Condition} {today : Date} {w : Windows}
    (hw : Windows.ofFilters filters today = .ok w) {t : Table} {metrics : List BaseMetric}
    {dimension : Option Dimension} {ps qs : Params} {s : Source}
    (h : (ofTable t metrics w.current dimension .current).run ps = (.ok s, qs)) :
    (ofTable t metrics w.previous dimension .previous).Succeeds := by
  have hkeyed := (run_ofTable_ok h).1.keyed
  have hkey := (run_ofTable_ok h).1.key
  refine succeeds_ofTable ?_ (Windows.fits_previous hw (fits_of_run h)) metrics .previous
  cases dimension with
  | none => rfl
  | some d =>
      rw [Option.all_some, ← d.isSome_keyExpr? t .current]
      rw [hkey] at hkeyed
      exact hkeyed

namespace Grouped.Plan

/-- The names for the keys of a dimension can be read where the metrics of their table can. -/
theorem exists_nameSource {r : Registry} {w : Windows} {d : Dimension} {c : NameColumn} (hc : d.nameColumn = some c)
    {t : Table} (ht : r.table? c.table = some t) {metrics : List BaseMetric} {ps qs : Params} {s : Source}
    (h : (Source.ofTable t metrics w.current (some d) .current).run ps = (.ok s, qs)) (ps' : Params) :
    ∃ names qs', (nameSource r d w.current).run ps' = (.ok (some names), qs') := by
  have hfits := Source.fits_of_run h
  have hundated : ∀ c ∈ undated w.current, c.Fits t := fun c hc => hfits c (List.mem_of_mem_filter hc)
  have hnames : NamesFit r d w.current := by
    intro c' hc' t' ht'
    cases hc.symm.trans hc'
    cases ht.symm.trans ht'
    exact fun _ _ => hundated
  obtain ⟨o, qs', hrun⟩ := hnames.succeeds ps'
  have hnamed : o.isSome = true := by
    have hkeyed := (Source.run_ofTable_ok h).1.keyed
    rw [(Source.run_ofTable_ok h).1.key] at hkeyed
    have hkey : (d.keyExpr? t .current).isSome = true := hkeyed
    simp [(run_nameSource_ok hrun).1, hasNames, hc, ht, hkey, Condition.supported_of_fits hundated]
  obtain ⟨names, rfl⟩ := Option.isSome_iff_exists.mp hnamed
  exact ⟨names, qs', hrun⟩

end Grouped.Plan

/-! ### Statements -/

section

variable {r : Registry} {request : YoyRequest} {today : Date} {w : Windows} {dimension : Option Dimension}

/-- Where the tables of the metrics are registered, a source fails with nothing but the filters. -/
theorem Sources.failsWith_joinTable (hw : Windows.ofFilters request.filters today = .ok w) {name : String}
    (hname : (r.table? name).isSome = true) (metrics : List BaseMetric) :
    (joinTable r w dimension name metrics).FailsWith (Failure.OfRow r request) := by
  obtain ⟨t, ht⟩ := Option.isSome_iff_exists.mp hname
  simp only [joinTable, ht]
  split
  case isTrue hanswers =>
    rw [answers, Bool.and_eq_true] at hanswers
    have hcurrent : (Source.ofTable t metrics w.current dimension .current).FailsWith (Failure.OfRow r request) := by
      refine Source.failsWith_ofTable (Source.succeeds_keyOf hanswers.1 .current).failsWith fun c hc => ?_
      exact Condition.failsWith_clause_of_supported hanswers.2 hc ((Windows.ofFilters_ok hw).1 ▸ hc)
    -- The previous window is read only where the current one was, and is read then.
    refine hcurrent.bind_of_run fun ps current qs hrun => ?_
    exact (Source.succeeds_previous hw hrun).failsWith.bind fun _ => Binding.failsWith_pure _
  case isFalse => exact Binding.failsWith_pure none

theorem Sources.failsWith_ofRow (hr : r.WellFormed) {groups : TableMetrics}
    (hgroups : r.metricsByTable request.metrics = .ok groups)
    (hw : Windows.ofFilters request.filters today = .ok w) :
    (ofMetrics r w dimension groups).FailsWith (Failure.OfRow r request) :=
  failsWith_ofMetrics fun group hgroup => failsWith_joinTable hw (hr.isSome_table? hgroups group hgroup) group.2

theorem Registry.failsWith_metrics : Except.FailsWith (Failure.OfRow r request) (r.metricsByTable request.metrics) :=
  failsWith_metricsByTable fun _ hname hunknown => .metric hname hunknown

theorem Windows.failsWith_filters : Except.FailsWith (Failure.OfRow r request) (ofFilters request.filters today) :=
  failsWith_ofFilters fun _ hc _ hv => .date hc (.unreadable hv)

end

theorem Yoy.failsWith_ofRow {r : Registry} (hr : r.WellFormed) (request : YoyRequest) (today : Date) :
    Except.FailsWith (Failure.OfRow r request) (statement r request today) :=
  failsWith_statement Registry.failsWith_metrics Windows.failsWith_filters fun _ _ hgroups hw =>
    Sources.failsWith_ofRow hr hgroups hw

theorem Grouped.failsWith_ofGroups {r : Registry} (hr : r.WellFormed) (request : GroupedRequest) (today : Date) :
    Except.FailsWith (Failure.OfGroups r request) (statement r request today) := by
  have hrow (f : Failure) (h : f.OfRow r request.toYoyRequest) : f.OfGroups r request := .row h
  refine failsWith_statement (Registry.failsWith_dimension .groupBy) (Registry.failsWith_metrics.imp hrow)
    (Page.failsWith_effectiveLimit .outOfRange) (Windows.failsWith_filters.imp hrow) ?_ ?_
  · intro d groups w hgroups hw
    exact (Sources.failsWith_ofRow hr hgroups hw).imp hrow
  · intro d w hw
    refine (Plan.failsWith_nameSource fun t hsupported c hc => ?_).imp hrow
    have hfilter : c ∈ request.filters := (Windows.ofFilters_ok hw).1 ▸ List.mem_of_mem_filter hc
    exact Condition.failsWith_clause_of_supported hsupported hc hfilter

/-- Over an accepted registry no lookup fails: what a statement is refused for is in the request, and what can be read
in the current window can be read in the previous one and, if its table has them, for the names of groups. -/
theorem Statement.failures_of_build {tables : List Table} {base : List BaseMetric}
    {calculated : List CalculatedMetric} {dimensions : List Dimension} {r : Registry}
    (h : Registry.build tables base calculated dimensions = .ok r) (today : Date) :
    (∀ request f, Yoy.statement r request today = .error f → f.OfRow r request) ∧
    (∀ request f, Grouped.statement r request today = .error f → f.OfGroups r request) ∧
    ∀ filters w, Windows.ofFilters filters today = .ok w → ∀ t metrics dimension ps qs s,
      (Source.ofTable t metrics w.current dimension .current).run ps = (.ok s, qs) →
        (Source.ofTable t metrics w.previous dimension .previous).Succeeds ∧
        ∀ d ∈ dimension, ∀ c ∈ d.nameColumn, r.table? c.table = some t →
          ∀ ps', ∃ names qs', (Grouped.Plan.nameSource r d w.current).run ps' = (.ok (some names), qs') := by
  have hr := Registry.wellFormed_of_build h
  refine ⟨fun request => Yoy.failsWith_ofRow hr request today,
    fun request => Grouped.failsWith_ofGroups hr request today, ?_⟩
  intro filters w hw t metrics dimension ps qs s hcurrent
  refine ⟨Source.succeeds_previous hw hcurrent, ?_⟩
  rintro d rfl c hc ht ps'
  exact Grouped.Plan.exists_nameSource hc ht hcurrent ps'

section

open Registry Registry.Builtin

/-- The sellers of the built-in registry, whose names are in the transactions. -/
def Registry.Builtin.sellers : Dimension := paired "seller_id" "seller_name"

/-- A metric that is not there, a date of words, and windows in which sellers are read in both periods and by name. -/
theorem Statement.failures_builtin :
    Registry.build Builtin.tables Builtin.base Builtin.calculated Builtin.dimensions = .ok .builtin ∧
    (∃ f, Yoy.statement .builtin ⟨["sales", "profit"], plainFilters⟩ spring = .error f ∧
      f.OfRow .builtin ⟨["sales", "profit"], plainFilters⟩) ∧
    (∃ f, Grouped.statement .builtin (bySeller [.gte "date" "soon"] "sales") spring = .error f ∧
      f.OfGroups .builtin (bySeller [.gte "date" "soon"] "sales")) ∧
    ∃ w t s qs, Windows.ofFilters plainFilters spring = .ok w ∧ Registry.builtin.table? "transactions" = some t ∧
      (Source.ofTable t Builtin.base w.current sellers .current).run .empty = (.ok s, qs) ∧
      (Source.ofTable t Builtin.base w.previous sellers .previous).Succeeds ∧
      ∀ ps', ∃ names qs', (Grouped.Plan.nameSource .builtin sellers w.current).run ps' = (.ok (some names), qs') := by
  obtain ⟨hyoy, hgrouped, hwindows⟩ := failures_of_build Registry.build_builtin spring
  refine ⟨Registry.build_builtin, ⟨.unknownMetric "profit", rfl, hyoy _ _ rfl⟩,
    ⟨.date (.unreadable "soon"), rfl, hgrouped _ _ rfl⟩, ?_⟩
  obtain ⟨w, hw⟩ := Except.exists_of_isOk (e := Windows.ofFilters plainFilters spring) (by decide +kernel)
  have hread : (Registry.builtin.table? "transactions").any (fun t =>
      ((Source.ofTable t Builtin.base plainFilters (some sellers) .current).run .empty).1.isOk) = true := by
    decide +kernel
  obtain ⟨t, ht, hok⟩ := (Option.any_eq_true _ _).mp hread
  rw [← (Windows.ofFilters_ok hw).1] at hok
  obtain ⟨s, hs⟩ := Except.exists_of_isOk hok
  have hrun : (Source.ofTable t Builtin.base w.current (some sellers) .current).run .empty = (.ok s, _) :=
    Prod.ext hs rfl
  obtain ⟨hprevious, hnames⟩ := hwindows _ w hw t _ _ _ _ s hrun
  exact ⟨w, t, s, _, hw, ht, hrun, hprevious, hnames sellers rfl _ rfl ht⟩

end

end BalanceSheet
