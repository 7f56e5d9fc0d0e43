import BalanceSheet.Proofs.Query.Alike
import BalanceSheet.Proofs.Query.Plans

/-!
The values of a request never shape its statement. Two requests that differ in the values of their
conditions only, asked on whatever days, are planned alike: the plans have the same output columns and
sources of one shape. As the parameters are numbered by position they have the same labels, and then the
texts are equal. A field to order by is copied into the text only if it is a field of the output, so that
one that is not may differ too.
-/

namespace BalanceSheet

/-- What two statements show is the same: all but the values of their parameters. -/
structure Statement.SameButValues (s s' : Statement) : Prop where
  sql : s.sql = s'.sql
  skipped : s.skipped = s'.skipped
  calculated : s.calculated = s'.calculated
  labels : s.params.toList.map Param.label = s'.params.toList.map Param.label

/-- The same metrics under conditions that are alike. -/
structure YoyRequest.Alike (q q' : YoyRequest) : Prop where
  metrics : q.metrics = q'.metrics
  filters : Condition.AllAlike q.filters q'.filters

namespace Yoy

namespace Plan

/-- Plans with the same output over sources of one shape. -/
structure Alike (p p' : Plan) : Prop where
  sources : p.sources.Alike p'.sources
  outputs : p.outputs = p'.outputs
  resolved : p.resolved = p'.resolved

theorem Answers.alike {r : Registry} {q q' : YoyRequest} {today today' : Date} {groups groups' : TableMetrics}
    {w w' : Windows} {p p' : Plan} (hq : q.Alike q') (h : p.Answers r q today groups w)
    (h' : p'.Answers r q' today' groups' w') : p.Alike p' := by
  have hgroups : groups = groups' := by
    have hmetrics := h.metrics
    rw [hq.metrics, h'.metrics] at hmetrics
    exact (Except.ok.inj hmetrics).symm
  subst hgroups
  have hw : w.Alike w' := Windows.alike_of_ofFilters hq.filters h.windows h'.windows
  have hsources : p.sources.Alike p'.sources := h.sources.alike hw h'.sources
  have hresolved : p.resolved = p'.resolved := by rw [h.resolved, h'.resolved, hsources.skipped]
  refine ⟨hsources, ?_, hresolved⟩
  rw [h.outputs, h'.outputs, hsources.skipped, hresolved]

theorem Alike.toSelect_eq {p p' : Plan} (h : p.Alike p')
    (hlabels : p.sources.params.map Param.label = p'.sources.params.map Param.label) :
    p.toSelect = p'.toSelect := by
  have hctes := h.sources.ctes_eq hlabels
  have hnames : p.sources.all.map Source.name = p'.sources.all.map Source.name := h.sources.map_name_eq id
  have hjoins : joins p.sources = joins p'.sources := by rw [joins, joins, hnames]
  rw [toSelect, toSelect, hctes, hjoins, h.outputs]

end Plan

theorem statement_sameButValues {r : Registry} {q q' : YoyRequest} {today today' : Date} {s s' : Statement}
    (hq : q.Alike q') (h : statement r q today = .ok s) (h' : statement r q' today' = .ok s') :
    s.SameButValues s' := by
  obtain ⟨p, groups, w, -, hanswers, hrenders⟩ := statement_ok h
  obtain ⟨p', groups', w', -, hanswers', hrenders'⟩ := statement_ok h'
  have halike : p.Alike p' := hanswers.alike hq hanswers'
  have hlabels : s.params.toList.map Param.label = s'.params.toList.map Param.label := by
    apply hrenders.numbered.labels hrenders'.numbered
    rw [hrenders.params, hrenders'.params]
    exact halike.sources.types_eq
  have hselect : p.toSelect = p'.toSelect := by
    apply halike.toSelect_eq
    rw [← hrenders.params, ← hrenders'.params]
    exact hlabels
  refine ⟨?_, ?_, ?_, hlabels⟩
  · rw [hrenders.sql, hrenders'.sql, hselect]
  · rw [hrenders.skipped, hrenders'.skipped, halike.sources.skipped]
  · rw [hrenders.calculated, hrenders'.calculated, halike.resolved]

end Yoy

namespace Grouped

/-- The fields that the rows of a request can be ordered by. Which tables are skipped does not matter. -/
def Orderable (r : Registry) (metrics : List String) (field : String) : Prop :=
  ∃ groups skipped, r.metricsByTable metrics = .ok groups ∧
    field ∈ Plan.orderFields groups (CalculatedMetric.resolveAll (Aliases.ofMetrics skipped groups) r.calculated)

theorem orderFields_congr (r : Registry) (groups : TableMetrics) (skipped skipped' : List String) :
    Plan.orderFields groups (CalculatedMetric.resolveAll (Aliases.ofMetrics skipped groups) r.calculated) =
      Plan.orderFields groups
        (CalculatedMetric.resolveAll (Aliases.ofMetrics skipped' groups) r.calculated) := by
  have hnames := CalculatedMetric.names_resolveAll_congr r.calculated
    (Aliases.has_ofMetrics_congr skipped skipped' groups)
  rw [Plan.orderFields, Plan.orderFields, hnames]

theorem orderable_iff_of_metrics {r : Registry} {metrics : List String} {groups : TableMetrics} {field : String}
    (h : r.metricsByTable metrics = .ok groups) :
    Orderable r metrics field ↔ field ∈ Plan.orderFields groups
      (CalculatedMetric.resolveAll (Aliases.ofMetrics [] groups) r.calculated) := by
  constructor
  · rintro ⟨groups', skipped, h', hmem⟩
    rw [h] at h'
    cases h'
    rwa [orderFields_congr r groups [] skipped]
  · intro hmem
    exact ⟨groups, [], h, hmem⟩

instance (r : Registry) (metrics : List String) (field : String) : Decidable (Orderable r metrics field) :=
  match h : r.metricsByTable metrics with
  | .error _ => isFalse fun ⟨_, _, h', _⟩ => by simp [h] at h'
  | .ok _ => decidable_of_iff _ (orderable_iff_of_metrics h).symm

end Grouped

/-- The same grouping, page and direction of alike requests, ordered by the same field or both by none
that rows can be ordered by. -/
structure GroupedRequest.Alike (r : Registry) (q q' : GroupedRequest) : Prop extends
    YoyRequest.Alike q.toYoyRequest q'.toYoyRequest where
  groupBy : q.groupBy = q'.groupBy
  page : q.page = q'.page
  direction : q.direction = q'.direction
  orderBy : q.orderBy = q'.orderBy ∨
    (∀ field ∈ q.orderBy, ¬ Grouped.Orderable r q.metrics field) ∧
      ∀ field ∈ q'.orderBy, ¬ Grouped.Orderable r q'.metrics field

namespace Grouped

/-- Sources of names with one shape. -/
structure NameSource.Alike (s s' : NameSource) : Prop where
  table : s.table = s'.table
  key : s.key = s'.key
  column : s.column = s'.column
  clauses : List.Forall₂ Clause.Alike s.clauses s'.clauses

namespace NameSource

theorem Alike.types_eq {s s' : NameSource} (h : s.Alike s') :
    s.params.map Param.type = s'.params.map Param.type :=
  types_flatMap_eq h.clauses fun _ _ hcl => hcl.types_eq

theorem Alike.toSelect_eq {s s' : NameSource} (h : s.Alike s')
    (hlabels : s.params.map Param.label = s'.params.map Param.label) : s.toSelect = s'.toSelect := by
  have hclauses := Source.clauses_text_eq h.clauses hlabels
  rw [toSelect, toSelect, h.table, h.key, h.column, hclauses]

theorem Reads.alike {r : Registry} {d : Dimension} {cs cs' : List Condition} {c c' : NameColumn}
    {t t' : Table} {s s' : NameSource} (hcs : Condition.AllAlike cs cs') (h : s.Reads r d cs c t)
    (h' : s'.Reads r d cs' c' t') : s.Alike s' := by
  have hcolumn : c = c' := Option.some.inj (h.declared.symm.trans h'.declared)
  subst hcolumn
  have htable : t = t' := Option.some.inj (h.found.symm.trans h'.found)
  subst htable
  have hkey : s.key = s'.key := Option.some.inj (h.key.symm.trans h'.key)
  exact ⟨h.table.trans h'.table.symm, hkey, h.column.trans h'.column.symm,
    hcs.undated.clauses h.clauses h'.clauses⟩

end NameSource

namespace Plan

/-- Plans with the same output and order over sources of one shape. -/
structure Alike (p p' : Plan) : Prop where
  sources : p.sources.Alike p'.sources
  names : List.Forall₂ NameSource.Alike p.names.toList p'.names.toList
  outputs : p.outputs = p'.outputs
  resolved : p.resolved = p'.resolved
  orderBy : p.orderBy = p'.orderBy
  direction : p.direction = p'.direction
  limit : p.limit = p'.limit
  offset : p.offset = p'.offset

/-- A field that rows cannot be ordered by is as good as none. -/
theorem orderField_eq_none {groups : TableMetrics} {resolved : List ResolvedMetric} {requested : Option String}
    (h : ∀ field ∈ requested, field ∉ orderFields groups resolved) :
    orderField groups resolved requested = orderField groups resolved none := by
  cases requested with
  | none => rfl
  | some field =>
      have hrefused : (orderFields groups resolved).contains field = false := by simpa using h field rfl
      simp only [orderField, Option.filter, hrefused]
      rfl

theorem Answers.orderBy_eq {r : Registry} {q q' : GroupedRequest} {today today' : Date} {d d' : Dimension}
    {groups : TableMetrics} {w w' : Windows} {p p' : Plan} (hq : q.Alike r q')
    (h : p.Answers r q today d groups w) (h' : p'.Answers r q' today' d' groups w')
    (hresolved : p.resolved = p'.resolved) : p.orderBy = p'.orderBy := by
  rw [h.orderBy, h'.orderBy, hresolved]
  rcases hq.orderBy with heq | ⟨hrefused, hrefused'⟩
  · rw [heq]
  · have hnone : orderField groups p'.resolved q.orderBy = orderField groups p'.resolved none := by
      apply orderField_eq_none
      intro field hfield hmem
      exact hrefused field hfield ⟨groups, p.sources.skipped, h.metrics, h.resolved ▸ hresolved ▸ hmem⟩
    have hnone' : orderField groups p'.resolved q'.orderBy = orderField groups p'.resolved none := by
      apply orderField_eq_none
      intro field hfield hmem
      exact hrefused' field hfield ⟨groups, p'.sources.skipped, h'.metrics, h'.resolved ▸ hmem⟩
    rw [hnone, hnone']

theorem Answers.named_eq {r : Registry} {q q' : GroupedRequest} {today today' : Date} {d : Dimension}
    {groups groups' : TableMetrics} {w w' : Windows} {p p' : Plan} (hw : w.Alike w')
    (h : p.Answers r q today d groups w) (h' : p'.Answers r q' today' d groups' w') :
    p.names.isSome = p'.names.isSome := by
  have hsupported (t : Table) :
      Condition.supported (undated w.current) t = Condition.supported (undated w'.current) t :=
    hw.current.undated.supported_eq t
  rw [h.named, h'.named, hasNames, hasNames]
  simp only [hsupported]

theorem Answers.names_alike {r : Registry} {q q' : GroupedRequest} {today today' : Date} {d : Dimension}
    {groups groups' : TableMetrics} {w w' : Windows} {p p' : Plan} (hw : w.Alike w')
    (h : p.Answers r q today d groups w) (h' : p'.Answers r q' today' d groups' w') :
    List.Forall₂ NameSource.Alike p.names.toList p'.names.toList := by
  have hnone : p.names = none ↔ p'.names = none := Option.isSome_eq_isSome.mp (h.named_eq hw h')
  refine forall₂_toList (rel_of_eq_none_iff hnone fun s hs s' hs' => ?_)
  obtain ⟨c, t, hreads⟩ := h.names s hs
  obtain ⟨c', t', hreads'⟩ := h'.names s' hs'
  exact hreads.alike hw.current hreads'

theorem Answers.alike {r : Registry} {q q' : GroupedRequest} {today today' : Date} {d : Dimension}
    {groups : TableMetrics} {w w' : Windows} {p p' : Plan} (hq : q.Alike r q') (hw : w.Alike w')
    (h : p.Answers r q today d groups w) (h' : p'.Answers r q' today' d groups w') : p.Alike p' := by
  have hsources : p.sources.Alike p'.sources := h.sources.alike hw h'.sources
  have hnames := h.names_alike hw h'
  have hnamed : p.names.isSome = p'.names.isSome := h.named_eq hw h'
  have hresolved : p.resolved = p'.resolved := by rw [h.resolved, h'.resolved, hsources.skipped]
  refine ⟨hsources, hnames, ?_, hresolved, h.orderBy_eq hq h' hresolved, ?_, ?_, ?_⟩
  · rw [h.outputs, h'.outputs, hnamed, hsources.skipped, hresolved]
  · rw [h.direction, h'.direction, hq.direction]
  · have hlimit := h.limit
    rw [hq.page, h'.limit] at hlimit
    exact (Except.ok.inj hlimit).symm
  · rw [h.offset, h'.offset, hq.page]

theorem Alike.types_eq {p p' : Plan} (h : p.Alike p') :
    p.params.map Param.type = p'.params.map Param.type := by
  have hnames := types_flatMap_eq h.names fun _ _ hs => hs.types_eq
  rw [params, params, List.map_append, List.map_append, h.sources.types_eq, hnames]

theorem Alike.toSelect_eq {p p' : Plan} (h : p.Alike p')
    (hlabels : p.params.map Param.label = p'.params.map Param.label) : p.toSelect = p'.toSelect := by
  rw [params, params, List.map_append, List.map_append] at hlabels
  have hlength : (p.sources.params.map Param.label).length = (p'.sources.params.map Param.label).length := by
    simpa using congrArg List.length h.sources.types_eq
  obtain ⟨hsources, hnames⟩ := List.append_inj hlabels hlength
  have hctes := h.sources.ctes_eq hsources
  have hkeys := h.sources.map_name_eq fun name => s!"SELECT {groupId} FROM {name}"
  have hkeysText : keysText p.sources = keysText p'.sources := by
    unfold keysText
    rw [hkeys]
  have hjoins := h.sources.map_name_eq joinToKeys
  have hnamesText : (p.names.toList.map fun names => (groupNames, names.toSelect.text)) =
      p'.names.toList.map fun names => (groupNames, names.toSelect.text) := by
    rw [← List.forall₂_eq_eq_eq, List.forall₂_map_left_iff, List.forall₂_map_right_iff]
    refine (labels_of_flatMap_eq h.names (fun _ _ hs => hs.types_eq) hnames).imp ?_
    rintro names names' ⟨halike, hsame⟩
    rw [halike.toSelect_eq hsame]
  have hnamesJoin : (p.names.toList.map fun _ => joinToKeys groupNames) =
      p'.names.toList.map fun _ => joinToKeys groupNames := by
    rw [List.map_const', List.map_const', h.names.length_eq]
  rw [toSelect, toSelect, hctes, hkeysText, hnamesText, hjoins, hnamesJoin, h.outputs, h.orderBy, h.direction,
    h.limit, h.offset]

end Plan

theorem statement_sameButValues {r : Registry} {q q' : GroupedRequest} {today today' : Date}
    {o o' : Option Statement} (hq : q.Alike r q') (h : statement r q today = .ok o)
    (h' : statement r q' today' = .ok o') : Option.Rel Statement.SameButValues o o' := by
  obtain ⟨d, groups, w, hd, hgroups, hwindows, hnone, hsome⟩ := statement_ok h
  obtain ⟨d', groups', w', hd', hgroups', hwindows', hnone', hsome'⟩ := statement_ok h'
  have hdimension : d' = d := by
    rw [← hq.groupBy, hd] at hd'
    exact (Except.ok.inj hd').symm
  have hmetrics : groups' = groups := by
    rw [← hq.metrics, hgroups] at hgroups'
    exact (Except.ok.inj hgroups').symm
  subst hdimension hmetrics
  have hw : w.Alike w' := Windows.alike_of_ofFilters hq.filters hwindows hwindows'
  have hiff : o = none ↔ o' = none := by rw [hnone, hnone', Sources.takesPart_eq hw]
  cases o with
  | none =>
      rw [hiff.mp rfl]
      exact .none
  | some s =>
      cases o' with
      | none => simp at hiff
      | some s' =>
          obtain ⟨p, -, hanswers, hrenders⟩ := hsome s rfl
          obtain ⟨p', -, hanswers', hrenders'⟩ := hsome' s' rfl
          have halike : p.Alike p' := hanswers.alike hq hw hanswers'
          have hlabels : s.params.toList.map Param.label = s'.params.toList.map Param.label := by
            apply hrenders.numbered.labels hrenders'.numbered
            rw [hrenders.params, hrenders'.params]
            exact halike.types_eq
          have hselect : p.toSelect = p'.toSelect := by
            apply halike.toSelect_eq
            rw [← hrenders.params, ← hrenders'.params]
            exact hlabels
          refine .some ⟨?_, ?_, ?_, hlabels⟩
          · rw [hrenders.sql, hrenders'.sql, hselect]
          · rw [hrenders.skipped, hrenders'.skipped, halike.sources.skipped]
          · rw [hrenders.calculated, hrenders'.calculated, halike.resolved]

end Grouped

/-- The same page of the same column under conditions that are alike. -/
structure DistinctRequest.Alike (q q' : DistinctRequest) : Prop where
  table : q.table = q'.table
  column : q.column = q'.column
  filters : Condition.AllAlike q.filters q'.filters
  page : q.page = q'.page

theorem Distinct.statement_sameButValues {r : Registry} {q q' : DistinctRequest} {s s' : Statement}
    (hq : q.Alike q') (h : statement r q = .ok s) (h' : statement r q' = .ok s') : s.SameButValues s' := by
  obtain ⟨t, c, limit, cls, hs⟩ := statement_ok h
  obtain ⟨t', c', limit', cls', hs'⟩ := statement_ok h'
  have htable : t = t' := by
    apply Option.some.inj
    rw [← hs.table, ← hs'.table, hq.table]
  subst htable
  have hcolumn : c = c' := by
    apply Option.some.inj
    rw [← hs.column, ← hs'.column, hq.column]
  have hlimit : limit = limit' := by
    apply Except.ok.inj (ε := Failure)
    rw [← hs.page, ← hs'.page, hq.page]
  have hclauses : List.Forall₂ Clause.Alike cls cls' := hq.filters.clauses hs.clauses hs'.clauses
  have hlabels : s.params.toList.map Param.label = s'.params.toList.map Param.label := by
    apply hs.numbered.labels hs'.numbered
    rw [hs.params, hs'.params]
    exact types_flatMap_eq hclauses fun _ _ hcl => hcl.types_eq
  have htexts : cls.map Clause.text = cls'.map Clause.text := by
    apply Source.clauses_text_eq hclauses
    rw [← hs.params, ← hs'.params]
    exact hlabels
  refine ⟨?_, ?_, ?_, hlabels⟩
  · rw [hs.sql, hs'.sql, hcolumn, hlimit, hq.page, toSelect, toSelect, List.map_cons, List.map_cons, htexts]
  · rw [hs.skipped, hs'.skipped]
  · rw [hs.calculated, hs'.calculated]

/-- Nothing that a statement shows depends on the values of the request or on the day of asking. -/
theorem Statement.independent_of_values (r : Registry) :
    (∀ (q q' : YoyRequest) (today today' : Date) (s s' : Statement), q.Alike q' →
      Yoy.statement r q today = .ok s → Yoy.statement r q' today' = .ok s' → s.SameButValues s') ∧
    (∀ (q q' : GroupedRequest) (today today' : Date) (o o' : Option Statement), q.Alike r q' →
      Grouped.statement r q today = .ok o → Grouped.statement r q' today' = .ok o' →
      Option.Rel SameButValues o o') ∧
    (∀ (q q' : DistinctRequest) (s s' : Statement), q.Alike q' →
      Distinct.statement r q = .ok s → Distinct.statement r q' = .ok s' → s.SameButValues s') := by
  refine ⟨?_, ?_, ?_⟩
  · intro q q' today today' s s' hq h h'
    exact Yoy.statement_sameButValues hq h h'
  · intro q q' today today' o o' hq h h'
    exact Grouped.statement_sameButValues hq h h'
  · intro q q' s s' hq h h'
    exact Distinct.statement_sameButValues hq h h'

namespace Registry.Builtin

/-- The plain filters with values that would change the text if they entered it. -/
def hostileFilters : List Condition :=
  [.gte "date" "2019-12-31", .isIn "brand" ["'; DROP TABLE transactions", "\x7bp0:Date\x7d"],
    .contains "seller_name" "' OR 1 = 1"]

def summer : Date := ⟨2025, 7, 1, by decide, by decide, by decide⟩

def brands (filters : List Condition) : DistinctRequest := ⟨"transactions", "brand", filters, .ofValues⟩

theorem filters_alike : Condition.AllAlike plainFilters hostileFilters :=
  .cons ⟨rfl, rfl, .single ..⟩ (.cons ⟨rfl, rfl, .multiple rfl⟩ (.cons ⟨rfl, rfl, .single ..⟩ .nil))

variable {cs cs' : List Condition}

theorem totals_alike (h : Condition.AllAlike cs cs') : (totals cs).Alike (totals cs') := ⟨rfl, h⟩

theorem bySeller_alike (h : Condition.AllAlike cs cs') (field field' : String)
    (hrefused : ¬ Grouped.Orderable .builtin ["sales", "stock_value"] field)
    (hrefused' : ¬ Grouped.Orderable .builtin ["sales", "stock_value"] field') :
    (bySeller cs field).Alike .builtin (bySeller cs' field') := by
  refine ⟨totals_alike h, rfl, rfl, rfl, .inr ⟨?_, ?_⟩⟩
  · rintro _ ⟨⟩
    exact hrefused
  · rintro _ ⟨⟩
    exact hrefused'

theorem brands_alike (h : Condition.AllAlike cs cs') : (brands cs).Alike (brands cs') := ⟨rfl, rfl, h, rfl⟩

end Registry.Builtin

section

open Registry.Builtin

theorem Statement.independent_of_values_builtin :
    (∃ s s', Yoy.statement .builtin (totals plainFilters) spring = .ok s ∧
      Yoy.statement .builtin (totals hostileFilters) summer = .ok s' ∧ s.SameButValues s') ∧
    (∃ o o', Grouped.statement .builtin (bySeller plainFilters "margin") spring = .ok o ∧
      Grouped.statement .builtin (bySeller hostileFilters "1; DROP TABLE inventory") summer = .ok o' ∧
      o.isSome ∧ Option.Rel SameButValues o o') ∧
    ∃ s s', Distinct.statement .builtin (brands plainFilters) = .ok s ∧
      Distinct.statement .builtin (brands hostileFilters) = .ok s' ∧ s.SameButValues s' := by
  obtain ⟨hyoy, hgrouped, hdistinct⟩ := independent_of_values .builtin
  refine ⟨?_, ?_, ?_⟩
  · obtain ⟨s, hs⟩ := Except.exists_of_isOk
      (e := Yoy.statement .builtin (totals plainFilters) spring) (by decide +kernel)
    obtain ⟨s', hs'⟩ := Except.exists_of_isOk
      (e := Yoy.statement .builtin (totals hostileFilters) summer) (by decide +kernel)
    exact ⟨s, s', hs, hs', hyoy _ _ _ _ s s' (totals_alike filters_alike) hs hs'⟩
  · obtain ⟨o, ho⟩ := Except.exists_of_isOk
      (e := Grouped.statement .builtin (bySeller plainFilters "margin") spring) (by decide +kernel)
    obtain ⟨o', ho'⟩ := Except.exists_of_isOk
      (e := Grouped.statement .builtin (bySeller hostileFilters "1; DROP TABLE inventory") summer)
      (by decide +kernel)
    have hsome : (Grouped.statement .builtin (bySeller plainFilters "margin") spring).toOption.join.isSome := by
      decide +kernel
    rw [ho] at hsome
    have halike := bySeller_alike filters_alike "margin" "1; DROP TABLE inventory"
      (by decide +kernel) (by decide +kernel)
    exact ⟨o, o', ho, ho', hsome, hgrouped _ _ _ _ o o' halike ho ho'⟩
  · obtain ⟨s, hs⟩ := Except.exists_of_isOk
      (e := Distinct.statement .builtin (brands plainFilters)) (by decide +kernel)
    obtain ⟨s', hs'⟩ := Except.exists_of_isOk
      (e := Distinct.statement .builtin (brands hostileFilters)) (by decide +kernel)
    exact ⟨s, s', hs, hs', hdistinct _ _ s s' (brands_alike filters_alike) hs hs'⟩

end

end BalanceSheet
