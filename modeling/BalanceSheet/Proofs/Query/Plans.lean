import BalanceSheet.Proofs.Query.Sources
import BalanceSheet.Proofs.Registry.Selection
import BalanceSheet.Proofs.Sorted
import BalanceSheet.Query.Statement
import BalanceSheet.Registry.Builtin

/-!
What a statement is made from. A successful request gives the groups of its metrics and the conditions of
its two windows; its plan covers the groups, resolves the calculated metrics and lists the output columns;
and the parameters of the statement are those of the plan, numbered from zero.
-/

namespace BalanceSheet

theorem Windows.ofFilters_ok {filters : List Condition} {today : Date} {w : Windows}
    (h : ofFilters filters today = .ok w) :
    w.current = filters ∧ Condition.previousPeriod filters today = .ok w.previous := by
  simp only [ofFilters] at h
  cases hprevious : Condition.previousPeriod filters today with
  | error f => rw [hprevious] at h; cases h
  | ok previous =>
      rw [hprevious] at h
      cases h
      exact ⟨rfl, rfl⟩

/-- The requested tables that take part, in the order in which the metrics name them first. -/
def Statement.tables (s : Statement) (metrics : List BaseMetric) : List String :=
  (metrics.map BaseMetric.table).eraseDups.filter fun t => !s.skipped.contains t

theorem Statement.tables_eq {s : Statement} {skipped : List String} (metrics : List BaseMetric)
    (h : s.skipped = Sorted.names skipped) :
    s.tables metrics =
      ((TableMetrics.ofMetrics metrics).map Prod.fst).filter fun t => !skipped.contains t := by
  rw [TableMetrics.map_fst_ofMetrics, tables]
  apply List.filter_congr
  intro t _
  have hiff : t ∈ s.skipped ↔ t ∈ skipped := by rw [h, Sorted.mem_names]
  simp [hiff]

theorem Statement.nodup_tables (s : Statement) (metrics : List BaseMetric) : (s.tables metrics).Nodup :=
  (nodup_eraseDups _).filter _

namespace Yoy

/-- The plan for a request whose metrics form `groups`, over the conditions `w`. -/
structure Plan.Answers (r : Registry) (request : YoyRequest) (today : Date) (groups : TableMetrics)
    (w : Windows) (p : Plan) : Prop where
  metrics : r.metricsByTable request.metrics = .ok groups
  windows : Windows.ofFilters request.filters today = .ok w
  sources : p.sources.Covers r w none groups
  resolved : p.resolved = CalculatedMetric.resolveAll (Aliases.ofMetrics p.sources.skipped groups) r.calculated
  outputs : p.outputs = Output.ofMetrics .value p.sources.skipped groups ++ p.resolved.map Output.ofResolved

theorem Plan.run_ofRequest_ok {r : Registry} {request : YoyRequest} {today : Date} {p : Plan} {ps qs : Params}
    (h : (ofRequest r request today).run ps = (.ok p, qs)) :
    ∃ groups w, p.Answers r request today groups w ∧ ps.Grows qs p.sources.params := by
  obtain ⟨groups, _, hrun, h⟩ := Binding.run_bind_ok h
  obtain ⟨hgroups, rfl⟩ := Binding.run_ofExcept_ok hrun
  obtain ⟨w, _, hrun, h⟩ := Binding.run_bind_ok h
  obtain ⟨hw, rfl⟩ := Binding.run_ofExcept_ok hrun
  obtain ⟨sources, hrun, rfl⟩ := Binding.run_map_ok h
  obtain ⟨hcovers, hgrows⟩ := Sources.run_ofMetrics_ok hrun
  exact ⟨groups, w, ⟨hgroups, hw, hcovers, rfl, rfl⟩, hgrows⟩

/-- The statement is its plan written out. -/
structure Renders (p : Plan) (s : Statement) : Prop where
  sql : s.sql = p.toSelect.text
  skipped : s.skipped = Sorted.names p.sources.skipped
  calculated : s.calculated = p.resolved.map ResolvedMetric.name
  params : s.params.toList = p.sources.params
  numbered : s.params.Numbered

/-- The plan that a request gets. -/
def plan (r : Registry) (request : YoyRequest) (today : Date) : Except Failure Plan :=
  ((Plan.ofRequest r request today).run .empty).1

theorem statement_ok {r : Registry} {request : YoyRequest} {today : Date} {s : Statement}
    (h : statement r request today = .ok s) :
    ∃ p groups w, plan r request today = .ok p ∧ p.Answers r request today groups w ∧ Renders p s := by
  rw [statement] at h
  split at h
  case h_1 => cases h
  case h_2 p params hrun =>
      cases h
      have hplan : plan r request today = .ok p := by rw [plan, hrun]
      obtain ⟨groups, w, hanswers, hgrows⟩ := Plan.run_ofRequest_ok hrun
      exact ⟨p, groups, w, hplan, hanswers, rfl, rfl, rfl, hgrows.of_empty.1, hgrows.of_empty.2⟩

end Yoy

namespace Grouped

/-- The conditions that do not depend on the period. -/
def undated (conditions : List Condition) : List Condition := conditions.filter fun c => !c.isDate

namespace NameSource

def params (s : NameSource) : List Param := s.clauses.flatMap Clause.values

/-- `s` reads the names for the keys of the dimension from the table that has them. -/
structure Reads (r : Registry) (d : Dimension) (conditions : List Condition) (c : NameColumn) (t : Table)
    (s : NameSource) : Prop where
  declared : d.nameColumn = some c
  found : r.table? c.table = some t
  table : s.table = t.name
  key : d.keyExpr? t .current = some s.key
  column : s.column = c.column
  clauses : List.Forall₂ (Condition.Makes t) (undated conditions) s.clauses

end NameSource

namespace Plan

/-- Whether the dimension has names that can be read under the conditions. -/
def hasNames (r : Registry) (d : Dimension) (conditions : List Condition) : Bool :=
  d.nameColumn.any fun c => (r.table? c.table).any fun t =>
    (d.keyExpr? t .current).isSome && Condition.supported (undated conditions) t

theorem run_nameSource_ok {r : Registry} {d : Dimension} {conditions : List Condition} {o : Option NameSource}
    {ps qs : Params} (h : (nameSource r d conditions).run ps = (.ok o, qs)) :
    o.isSome = hasNames r d conditions ∧ (∀ s ∈ o, ∃ c t, s.Reads r d conditions c t) ∧
      ps.Grows qs (o.toList.flatMap NameSource.params) := by
  have absent (hnames : hasNames r d conditions = false)
      (hrun : (pure none : Binding (Option NameSource)).run ps = (.ok o, qs)) :
      o.isSome = hasNames r d conditions ∧ (∀ s ∈ o, ∃ c t, s.Reads r d conditions c t) ∧
        ps.Grows qs (o.toList.flatMap NameSource.params) := by
    obtain ⟨rfl, rfl⟩ := Binding.run_pure_ok hrun
    exact ⟨hnames.symm, by simp, .refl ps⟩
  simp only [nameSource] at h
  split at h
  case h_1 hcolumn => exact absent (by simp [hasNames, hcolumn]) h
  case h_2 c hcolumn =>
      split at h
      case h_1 htable => exact absent (by simp [hasNames, hcolumn, htable]) h
      case h_2 t htable =>
          split at h
          case h_1 hkey => exact absent (by simp [hasNames, hcolumn, htable, hkey]) h
          case h_2 key hkey =>
              split at h
              case isTrue hsupported =>
                  obtain ⟨clauses, hrun, rfl⟩ := Binding.run_map_ok h
                  obtain ⟨hmakes, hgrows⟩ := Condition.run_clauses_ok hrun
                  refine ⟨by simpa [hasNames, hcolumn, htable, hkey, undated] using hsupported, ?_, ?_⟩
                  · rintro s ⟨⟩
                    exact ⟨c, t, hcolumn, htable, rfl, hkey, rfl, hmakes⟩
                  · simpa [NameSource.params] using hgrows
              case isFalse hsupported =>
                  exact absent (by simpa [hasNames, hcolumn, htable, hkey, undated] using hsupported) h

/-- The parameters of a plan, in the order of the text. -/
def params (p : Plan) : List Param := p.sources.params ++ p.names.toList.flatMap NameSource.params

/-- The plan for a grouped request by the dimension `d`. -/
structure Answers (r : Registry) (request : GroupedRequest) (today : Date) (d : Dimension)
    (groups : TableMetrics) (w : Windows) (p : Plan) : Prop where
  dimension : r.dimension request.groupBy = .ok d
  metrics : r.metricsByTable request.metrics = .ok groups
  limit : request.page.effectiveLimit = .ok p.limit
  windows : Windows.ofFilters request.filters today = .ok w
  sources : p.sources.Covers r w (some d) groups
  joined : p.sources.joined ≠ []
  named : p.names.isSome = hasNames r d w.current
  names : ∀ s ∈ p.names, ∃ c t, s.Reads r d w.current c t
  resolved : p.resolved = CalculatedMetric.resolveAll (Aliases.ofMetrics p.sources.skipped groups) r.calculated
  outputs : p.outputs = columnsOf p.names.isSome p.sources.skipped groups p.resolved
  orderBy : p.orderBy = orderField groups p.resolved request.orderBy
  direction : p.direction = request.direction
  offset : p.offset = request.page.offset

theorem run_ofRequest_ok {r : Registry} {request : GroupedRequest} {today : Date} {o : Option Plan}
    {ps qs : Params} (h : (ofRequest r request today).run ps = (.ok o, qs)) :
    ∃ d groups w, r.dimension request.groupBy = .ok d ∧ r.metricsByTable request.metrics = .ok groups ∧
      Windows.ofFilters request.filters today = .ok w ∧
      (o = none ↔ ∀ group ∈ groups, Sources.takesPart r w (some d) group.1 = false) ∧
      ∀ p ∈ o, p.Answers r request today d groups w ∧ ps.Grows qs p.params := by
  obtain ⟨d, _, hrun, h⟩ := Binding.run_bind_ok h
  obtain ⟨hd, rfl⟩ := Binding.run_ofExcept_ok hrun
  obtain ⟨groups, _, hrun, h⟩ := Binding.run_bind_ok h
  obtain ⟨hgroups, rfl⟩ := Binding.run_ofExcept_ok hrun
  obtain ⟨limit, _, hrun, h⟩ := Binding.run_bind_ok h
  obtain ⟨hlimit, rfl⟩ := Binding.run_ofExcept_ok hrun
  obtain ⟨w, _, hrun, h⟩ := Binding.run_bind_ok h
  obtain ⟨hw, rfl⟩ := Binding.run_ofExcept_ok hrun
  obtain ⟨sources, _, hrun, h⟩ := Binding.run_bind_ok h
  obtain ⟨hcovers, hgrows⟩ := Sources.run_ofMetrics_ok hrun
  refine ⟨d, groups, w, hd, hgroups, hw, ?_⟩
  rw [← hcovers.joined_eq_nil_iff]
  split at h
  case isTrue hempty =>
      obtain ⟨rfl, rfl⟩ := Binding.run_pure_ok h
      exact ⟨by simpa using hempty, by simp⟩
  case isFalse hjoined =>
      obtain ⟨names, hrun, rfl⟩ := Binding.run_map_ok h
      obtain ⟨hnamed, hnames, hgrows'⟩ := run_nameSource_ok hrun
      rw [List.isEmpty_iff] at hjoined
      refine ⟨by simpa using hjoined, ?_⟩
      rintro p ⟨⟩
      exact ⟨⟨hd, hgroups, hlimit, hw, hcovers, hjoined, hnamed, hnames, rfl, rfl, rfl, rfl, rfl⟩,
        hgrows.trans hgrows'⟩

end Plan

/-- The statement is its plan written out. -/
structure Renders (p : Plan) (s : Statement) : Prop where
  sql : s.sql = p.toSelect.text
  skipped : s.skipped = Sorted.names p.sources.skipped
  calculated : s.calculated = p.resolved.map ResolvedMetric.name
  params : s.params.toList = p.params
  numbered : s.params.Numbered

/-- The plan that a request gets, if it has groups. -/
def plan (r : Registry) (request : GroupedRequest) (today : Date) : Except Failure (Option Plan) :=
  ((Plan.ofRequest r request today).run .empty).1

theorem statement_ok {r : Registry} {request : GroupedRequest} {today : Date} {o : Option Statement}
    (h : statement r request today = .ok o) :
    ∃ d groups w, r.dimension request.groupBy = .ok d ∧ r.metricsByTable request.metrics = .ok groups ∧
      Windows.ofFilters request.filters today = .ok w ∧
      (o = none ↔ ∀ group ∈ groups, Sources.takesPart r w (some d) group.1 = false) ∧
      ∀ s ∈ o, ∃ p, plan r request today = .ok (some p) ∧ p.Answers r request today d groups w ∧
        Renders p s := by
  rw [statement] at h
  split at h
  case h_1 => cases h
  case h_2 params hrun =>
      cases h
      obtain ⟨d, groups, w, hd, hgroups, hw, hnone, -⟩ := Plan.run_ofRequest_ok hrun
      exact ⟨d, groups, w, hd, hgroups, hw, by simpa using hnone, by simp⟩
  case h_3 p params hrun =>
      cases h
      obtain ⟨d, groups, w, hd, hgroups, hw, hnone, hplan⟩ := Plan.run_ofRequest_ok hrun
      obtain ⟨hanswers, hgrows⟩ := hplan p rfl
      have hplanned : plan r request today = .ok (some p) := by rw [plan, hrun]
      refine ⟨d, groups, w, hd, hgroups, hw, by simpa using hnone, ?_⟩
      rintro s ⟨⟩
      exact ⟨p, hplanned, hanswers, rfl, rfl, rfl, hgrows.of_empty.1, hgrows.of_empty.2⟩

theorem statement_some_ok {r : Registry} {request : GroupedRequest} {today : Date} {s : Statement}
    (h : statement r request today = .ok (some s)) :
    ∃ p d groups w, plan r request today = .ok (some p) ∧ p.Answers r request today d groups w ∧
      Renders p s := by
  obtain ⟨d, groups, w, -, -, -, -, hsome⟩ := statement_ok h
  obtain ⟨p, hplan, hanswers, hrenders⟩ := hsome s rfl
  exact ⟨p, d, groups, w, hplan, hanswers, hrenders⟩

end Grouped

namespace Distinct

/-- The statement reads the column of the table under the conditions. -/
structure Renders (r : Registry) (request : DistinctRequest) (t : Table) (c : Column) (limit : Nat)
    (cls : List (Clause Param)) (s : Statement) : Prop where
  table : r.table? request.table = some t
  column : t.column? request.column = some c
  page : request.page.effectiveLimit = .ok limit
  clauses : List.Forall₂ (Condition.Makes t) request.filters cls
  sql : s.sql = (toSelect t c cls ⟨limit, request.page.offset⟩).text
  skipped : s.skipped = []
  calculated : s.calculated = []
  params : s.params.toList = cls.flatMap Clause.values
  numbered : s.params.Numbered

theorem statement_ok {r : Registry} {request : DistinctRequest} {s : Statement}
    (h : statement r request = .ok s) : ∃ t c limit cls, Renders r request t c limit cls s := by
  rw [statement] at h
  split at h
  case h_1 => cases h
  case h_2 t htable =>
      split at h
      case h_1 => cases h
      case h_2 c hcolumn =>
          cases hlimit : request.page.effectiveLimit with
          | error f => rw [hlimit] at h; cases h
          | ok limit =>
              rw [hlimit] at h
              rcases hrun : Binding.run (request.filters.mapM (Condition.clause t)) .empty with ⟨_ | cls, params⟩
              · simp only [hrun] at h
                cases h
              · simp only [hrun] at h
                cases h
                obtain ⟨hmakes, hgrows⟩ := Condition.run_clauses_ok hrun
                exact ⟨t, c, limit, cls, htable, hcolumn, hlimit, hmakes, rfl, rfl, rfl, hgrows.of_empty.1,
                  hgrows.of_empty.2⟩

end Distinct

/-! ### Requests to the built-in registry, as instances of what holds of all -/

namespace Registry.Builtin

/-- Conditions that leave the inventory out, as it has no sellers. -/
def plainFilters : List Condition :=
  [.gte "date" "2024-02-29", .isIn "brand" ["north", "south"], .contains "seller_name" "ann"]

def spring : Date := ⟨2024, 3, 15, by decide, by decide, by decide⟩

def totals (filters : List Condition) : YoyRequest := ⟨["sales", "stock_value"], filters⟩

/-- The same by seller, whose names are among the transactions. -/
def bySeller (filters : List Condition) (orderBy : String) : GroupedRequest :=
  ⟨totals filters, "seller_id", ⟨20, 40⟩, some orderBy, .desc⟩

end Registry.Builtin
end BalanceSheet
