import BalanceSheet.Proofs.Condition.Filled
import BalanceSheet.Proofs.Query.Capture
import BalanceSheet.Proofs.Query.Success

/-!
Filters in another order. What a request asks for is decided by which filters it has: the tables that take part, the
window that the previous period is capped for, and whether every condition can be put to its table. So a request and
the same one with its filters in another order are both refused, both without groups or both answered, and then by
statements that differ in the order of the conditions only, once the placeholders in them are filled.
-/

namespace BalanceSheet

/-! ### Conditions and windows -/

namespace Condition

variable {cs cs' : List Condition}

theorem supported_eq_of_perm (h : cs.Perm cs') : supported cs = supported cs' := by
  funext t
  rw [Bool.eq_iff_iff, supported, supported, List.all_eq_true, List.all_eq_true]
  simp only [h.mem_iff]

theorem boundedAbove_eq_of_perm (h : cs.Perm cs') : boundedAbove cs = boundedAbove cs' := by
  rw [Bool.eq_iff_iff, boundedAbove, boundedAbove, List.any_eq_true, List.any_eq_true]
  simp only [h.mem_iff]

/-- The previous window of conditions in another order is that window in another order. -/
theorem exists_previousPeriod_of_perm (h : cs.Perm cs') {today : Date} {previous : List Condition}
    (hprevious : previousPeriod cs today = .ok previous) :
    ∃ previous', previousPeriod cs' today = .ok previous' ∧ previous.Perm previous' := by
  rw [previousPeriod] at hprevious
  obtain ⟨moved, hmoved, hprevious⟩ := Except.bind_eq_ok_iff.mp hprevious
  obtain ⟨moved', hmoved', hperm⟩ := List.perm_comp_forall₂ h.symm (Except.mapM_ok hmoved)
  cases hprevious
  refine ⟨if boundedAbove cs' then moved' else moved' ++ [cap today], ?_, ?_⟩
  · rw [previousPeriod, Except.mapM_of_forall₂ hmoved']
    rfl
  · rw [boundedAbove_eq_of_perm h]
    split
    · exact hperm.symm
    · exact hperm.symm.append_right [cap today]

end Condition

namespace Windows

/-- The conditions of each window in another order. -/
structure Perm (w w' : Windows) : Prop where
  current : w.current.Perm w'.current
  previous : w.previous.Perm w'.previous

theorem exists_ofFilters_of_perm {filters filters' : List Condition} (h : filters.Perm filters') {today : Date}
    {w : Windows} (hw : ofFilters filters today = .ok w) :
    ∃ w', ofFilters filters' today = .ok w' ∧ w.Perm w' := by
  obtain ⟨rfl, hprevious⟩ := ofFilters_ok hw
  obtain ⟨previous', hprevious', hperm⟩ := Condition.exists_previousPeriod_of_perm h hprevious
  refine ⟨⟨filters', previous'⟩, ?_, h, hperm⟩
  rw [ofFilters, hprevious']
  rfl

end Windows

section

variable {r : Registry} {w w' : Windows} {dimension : Option Dimension}

theorem Sources.takesPart_eq_of_perm (hw : w.Perm w') : takesPart r w dimension = takesPart r w' dimension := by
  funext name
  simp only [takesPart, answers, Condition.supported_eq_of_perm hw.current]

theorem Sources.Fit.perm (hw : w.Perm w') {groups : TableMetrics} (h : Fit r w dimension groups) :
    Fit r w' dimension groups := by
  intro group hgroup
  obtain ⟨t, ht, hfit⟩ := h group hgroup
  refine ⟨t, ht, fun hanswers c hc => hfit ?_ c ?_⟩
  · rwa [answers, Condition.supported_eq_of_perm hw.current]
  · exact (hw.current.append hw.previous).mem_iff.mpr hc

theorem Grouped.undated_perm {cs cs' : List Condition} (h : cs.Perm cs') : (undated cs).Perm (undated cs') := h.filter _

theorem Grouped.Plan.NamesFit.perm {d : Dimension} {cs cs' : List Condition} (hcs : cs.Perm cs')
    (h : NamesFit r d cs) : NamesFit r d cs' := by
  intro c hc t ht happlies hsupported c' hc'
  rw [← Condition.supported_eq_of_perm (undated_perm hcs)] at hsupported
  exact h c hc t ht happlies hsupported c' ((undated_perm hcs).mem_iff.mpr hc')

theorem Grouped.Plan.hasNames_eq_of_perm {d : Dimension} {cs cs' : List Condition} (hcs : cs.Perm cs') :
    hasNames r d cs = hasNames r d cs' := by
  simp only [hasNames, Condition.supported_eq_of_perm (undated_perm hcs)]

end

/-! ### Statements that differ in the order of conditions -/

/-- The same but for the order of the conditions, with the parameters of each in the place of their placeholders. -/
structure Select.Reorders (ps ps' : Params) (s s' : Select) : Prop where
  rest : { s with conjuncts := [] } = { s' with conjuncts := [] }
  conjuncts : (s.conjuncts.map ps.filled).Perm (s'.conjuncts.map ps'.filled)

/-- Expressions of one name: bodies that differ in the order of their conditions, written out, or the keys of groups,
which have no conditions. -/
inductive Select.CteReorders (ps ps' : Params) (bodies bodies' : List (String × Select)) :
    String × String → String × String → Prop
  | body {name : String} {body body' : Select} (h : (name, body) ∈ bodies) (h' : (name, body') ∈ bodies')
      (hreorders : body.Reorders ps ps' body') : CteReorders ps ps' bodies bodies' (name, body.text) (name, body'.text)
  | keys (sources : Sources) : CteReorders ps ps' bodies bodies'
      (Grouped.groupKeys, Grouped.Plan.keysText sources) (Grouped.groupKeys, Grouped.Plan.keysText sources)

/-- Two statements, written out, with the same expressions but for the order of their conditions. -/
structure Statement.Reorders (select select' : Select) (bodies bodies' : List (String × Select))
    (s s' : Statement) : Prop where
  sql : s.sql = select.text
  sql' : s'.sql = select'.text
  skipped : s.skipped = s'.skipped
  calculated : s.calculated = s'.calculated
  outer : { select with ctes := [] } = { select' with ctes := [] }
  ctes : List.Forall₂ (Select.CteReorders s.params s'.params bodies bodies') select.ctes select'.ctes

/-- The statements of two requests are written out from their plans, with the same expressions but for the order of
their conditions. -/
def Yoy.Reorders (r : Registry) (today : Date) (q q' : YoyRequest) (s s' : Statement) : Prop :=
  ∃ p p', plan r q today = .ok p ∧ plan r q' today = .ok p' ∧
    s.Reorders p.toSelect p'.toSelect p.bodies p'.bodies s'

def Grouped.Reorders (r : Registry) (today : Date) (q q' : GroupedRequest) (s s' : Statement) : Prop :=
  ∃ p p', plan r q today = .ok (some p) ∧ plan r q' today = .ok (some p') ∧
    s.Reorders p.toSelect p'.toSelect p.bodies p'.bodies s'

section

variable {r : Registry} {w w' : Windows} {dimension : Option Dimension} {ps ps' : Params}

/-- Sources of one table under the same conditions in another order. -/
theorem Source.Reads.reorders (hps : ps.Numbered) (hps' : ps'.Numbered) {t : Table} (ht : t.WellFormed)
    {metrics : List BaseMetric} {cs cs' : List Condition} (hcs : cs.Perm cs') {period : Period} {s s' : Source}
    (h : s.Reads t metrics cs dimension period) (h' : s'.Reads t metrics cs' dimension period)
    (hbound : s.params ⊆ ps.toList) (hbound' : s'.params ⊆ ps'.toList) :
    s.toSelect.Reorders ps ps' s'.toSelect := by
  refine ⟨?_, Condition.perm_filled ht hcs h.clauses h'.clauses hps hps' hbound hbound'⟩
  simp only [toSelect, h.table, h'.table, h.key, h'.key, h.aggregates, h'.aggregates]

namespace Sources

variable {groups : TableMetrics} {s s' : Sources}

theorem Covers.skipped_eq_of_perm (hw : w.Perm w') (h : s.Covers r w dimension groups)
    (h' : s'.Covers r w' dimension groups) : s.skipped = s'.skipped := by
  rw [h.skipped, h'.skipped, takesPart_eq_of_perm hw]

/-- The sources of the two are in step: they have the same names and differ in the order of the conditions. -/
theorem Covers.reorders (hr : r.WellFormed) (hps : ps.Numbered) (hps' : ps'.Numbered) (hw : w.Perm w')
    (h : s.Covers r w dimension groups) (h' : s'.Covers r w' dimension groups) (hbound : s.params ⊆ ps.toList)
    (hbound' : s'.params ⊆ ps'.toList) :
    List.Forall₂ (fun source source' => source.name = source'.name ∧
      source.toSelect.Reorders ps ps' source'.toSelect) s.all s'.all := by
  have hstep : List.Forall₂ (fun source source' => source.name = source'.name ∧
      (source.params ⊆ ps.toList → source'.params ⊆ ps'.toList →
        source.toSelect.Reorders ps ps' source'.toSelect)) s.all s'.all := by
    refine h.forall₂_all (takesPart_eq_of_perm hw) ?_ ?_ h'
    · intro t ht metrics source source' hreads hreads'
      exact ⟨hreads.name.trans hreads'.name.symm, hreads.reorders hps hps' (hr.tables t ht) hw.current hreads'⟩
    · intro t ht metrics source source' hreads hreads'
      exact ⟨hreads.name.trans hreads'.name.symm, hreads.reorders hps hps' (hr.tables t ht) hw.previous hreads'⟩
  refine (forall₂_and_mem hstep).imp ?_
  rintro source source' ⟨hsource, hsource', hname, hreorders⟩
  -- The placeholders of each source are looked up among the parameters of the whole statement.
  rw [params_eq_all] at hbound hbound'
  exact ⟨hname, hreorders (fun p hp => hbound (List.mem_flatMap.mpr ⟨source, hsource, hp⟩))
    fun p hp => hbound' (List.mem_flatMap.mpr ⟨source', hsource', hp⟩)⟩

/-- Sources in step are expressions in step. -/
theorem forall₂_ctes {bodies bodies' : List (String × Select)} (hbodies : s.bodies ⊆ bodies)
    (hbodies' : s'.bodies ⊆ bodies')
    (h : List.Forall₂ (fun source source' => source.name = source'.name ∧
      source.toSelect.Reorders ps ps' source'.toSelect) s.all s'.all) :
    List.Forall₂ (Select.CteReorders ps ps' bodies bodies') s.ctes s'.ctes := by
  rw [ctes, ctes, List.forall₂_map_left_iff, List.forall₂_map_right_iff]
  refine (forall₂_and_mem h).imp ?_
  rintro source source' ⟨hsource, hsource', hname, hreorders⟩
  have hbody' : (source.name, source'.toSelect) ∈ bodies' := hname ▸ hbodies' (mem_bodies.mpr ⟨source', hsource', rfl⟩)
  rw [← hname]
  exact .body (hbodies (mem_bodies.mpr ⟨source, hsource, rfl⟩)) hbody' hreorders

end Sources

end

/-! ### Requests with their filters in another order -/

namespace Yoy

variable {r : Registry} {today : Date} {q : YoyRequest} {filters' : List Condition}

theorem exists_statement_of_perm (h : q.filters.Perm filters') (hs : ∃ s, statement r q today = .ok s) :
    ∃ s, statement r { q with filters := filters' } today = .ok s := by
  obtain ⟨groups, w, hgroups, hw, hfit⟩ := exists_statement_iff.mp hs
  obtain ⟨w', hw', hperm⟩ := Windows.exists_ofFilters_of_perm h hw
  exact exists_statement_iff.mpr ⟨groups, w', hgroups, hw', hfit.perm hperm⟩

theorem reorders_of_perm (hr : r.WellFormed) (h : q.filters.Perm filters') {s s' : Statement}
    (hs : statement r q today = .ok s) (hs' : statement r { q with filters := filters' } today = .ok s') :
    Reorders r today q { q with filters := filters' } s s' := by
  obtain ⟨p, groups, w, hplan, hanswers, hrenders⟩ := statement_ok hs
  obtain ⟨p', groups', w', hplan', hanswers', hrenders'⟩ := statement_ok hs'
  cases hanswers.metrics.symm.trans hanswers'.metrics
  obtain ⟨_, hw, hperm⟩ := Windows.exists_ofFilters_of_perm h hanswers.windows
  cases hw.symm.trans hanswers'.windows
  have hskipped : p.sources.skipped = p'.sources.skipped :=
    hanswers.sources.skipped_eq_of_perm hperm hanswers'.sources
  have hresolved : p.resolved = p'.resolved := by rw [hanswers.resolved, hanswers'.resolved, hskipped]
  have hsources := hanswers.sources.reorders hr hrenders.numbered hrenders'.numbered hperm hanswers'.sources
    (hrenders.params ▸ List.Subset.refl _) (hrenders'.params ▸ List.Subset.refl _)
  refine ⟨p, p', hplan, hplan', hrenders.sql, hrenders'.sql, ?_, ?_, ?_, ?_⟩
  · rw [hrenders.skipped, hrenders'.skipped, hskipped]
  · rw [hrenders.calculated, hrenders'.calculated, hresolved]
  · have hnames : p.sources.all.map Source.name = p'.sources.all.map Source.name :=
      Sources.map_name_eq (fun _ _ hs => hs.1) hsources id
    have hjoins : Plan.joins p.sources = Plan.joins p'.sources := by rw [Plan.joins, Plan.joins, hnames]
    simp only [Plan.toSelect, hjoins, hanswers.outputs, hanswers'.outputs, hskipped, hresolved]
  · exact Sources.forall₂_ctes (List.Subset.refl _) (List.Subset.refl _) hsources

end Yoy

namespace Grouped

variable {r : Registry} {today : Date} {q : GroupedRequest} {filters' : List Condition}

/-- The names of groups are read under the same conditions in another order. -/
theorem NameSource.Reads.reorders {ps ps' : Params} (hr : r.WellFormed) (hps : ps.Numbered) (hps' : ps'.Numbered)
    {d : Dimension} {cs cs' : List Condition} (hcs : cs.Perm cs') {c c' : NameColumn} {t t' : Table}
    {s s' : NameSource} (h : s.Reads r d cs c t) (h' : s'.Reads r d cs' c' t') (hbound : s.params ⊆ ps.toList)
    (hbound' : s'.params ⊆ ps'.toList) : s.toSelect.Reorders ps ps' s'.toSelect := by
  cases h.declared.symm.trans h'.declared
  cases h.found.symm.trans h'.found
  have hkey : s.key = s'.key := Option.some.inj (h.key.symm.trans h'.key)
  refine ⟨?_, Condition.perm_filled (hr.table h.found) (undated_perm hcs) h.clauses h'.clauses hps hps' hbound hbound'⟩
  simp only [toSelect, h.table, h'.table, hkey, h.column, h'.column]

/-- The expressions of a plan are its sources, the keys of groups and the names for these. -/
theorem Plan.forall₂_ctes {ps ps' : Params} {p p' : Plan}
    (hsources : List.Forall₂ (fun source source' => source.name = source'.name ∧
      source.toSelect.Reorders ps ps' source'.toSelect) p.sources.all p'.sources.all)
    (hnames : List.Forall₂ (fun names names' => names.toSelect.Reorders ps ps' names'.toSelect)
      p.names.toList p'.names.toList) :
    List.Forall₂ (Select.CteReorders ps ps' p.bodies p'.bodies) p.toSelect.ctes p'.toSelect.ctes := by
  have hkeys := Sources.map_name_eq (fun _ _ hs => hs.1) hsources fun name => s!"SELECT {groupId} FROM {name}"
  have hkeysText : keysText p.sources = keysText p'.sources := by
    unfold keysText
    rw [hkeys]
  have hnamesText : List.Forall₂ (Select.CteReorders ps ps' p.bodies p'.bodies)
      (p.names.toList.map fun names => (groupNames, names.toSelect.text))
      (p'.names.toList.map fun names => (groupNames, names.toSelect.text)) := by
    rw [List.forall₂_map_left_iff, List.forall₂_map_right_iff]
    refine (forall₂_and_mem hnames).imp ?_
    rintro names names' ⟨hmem, hmem', hreorders⟩
    have hbody : (groupNames, names.toSelect) ∈ p.bodies :=
      List.mem_append_right _ (List.mem_map.mpr ⟨names, hmem, rfl⟩)
    have hbody' : (groupNames, names'.toSelect) ∈ p'.bodies :=
      List.mem_append_right _ (List.mem_map.mpr ⟨names', hmem', rfl⟩)
    exact .body hbody hbody' hreorders
  have hfront : List.Forall₂ (Select.CteReorders ps ps' p.bodies p'.bodies) p.sources.ctes p'.sources.ctes :=
    Sources.forall₂_ctes (List.subset_append_left _ _) (List.subset_append_left _ _) hsources
  refine List.rel_append hfront (.cons ?_ hnamesText)
  rw [hkeysText]
  exact .keys p'.sources

theorem exists_answer_of_perm (h : q.filters.Perm filters') (ho : ∃ o, statement r q today = .ok o) :
    ∃ o, statement r { q with filters := filters' } today = .ok o := by
  obtain ⟨d, groups, limit, w, hd, hgroups, hlimit, hw, hfit, hnames⟩ := exists_answer_iff.mp ho
  obtain ⟨w', hw', hperm⟩ := Windows.exists_ofFilters_of_perm h hw
  refine exists_answer_iff.mpr ⟨d, groups, limit, w', hd, hgroups, hlimit, hw', hfit.perm hperm, ?_⟩
  rw [← Sources.takesPart_eq_of_perm hperm]
  exact fun hpart => (hnames hpart).perm hperm.current

theorem eq_none_iff_of_perm (h : q.filters.Perm filters') {o o' : Option Statement} (ho : statement r q today = .ok o)
    (ho' : statement r { q with filters := filters' } today = .ok o') : o = none ↔ o' = none := by
  obtain ⟨d, groups, w, hd, hgroups, hw, hnone, -⟩ := statement_ok ho
  obtain ⟨d', groups', w', hd', hgroups', hw', hnone', -⟩ := statement_ok ho'
  cases hd.symm.trans hd'
  cases hgroups.symm.trans hgroups'
  obtain ⟨_, hw'', hperm⟩ := Windows.exists_ofFilters_of_perm h hw
  cases hw''.symm.trans hw'
  rw [hnone, hnone', Sources.takesPart_eq_of_perm hperm]

theorem reorders_of_perm (hr : r.WellFormed) (h : q.filters.Perm filters') {s s' : Statement}
    (hs : statement r q today = .ok (some s)) (hs' : statement r { q with filters := filters' } today = .ok (some s')) :
    Reorders r today q { q with filters := filters' } s s' := by
  obtain ⟨p, d, groups, w, hplan, hanswers, hrenders⟩ := statement_some_ok hs
  obtain ⟨p', d', groups', w', hplan', hanswers', hrenders'⟩ := statement_some_ok hs'
  cases hanswers.metrics.symm.trans hanswers'.metrics
  cases hanswers.dimension.symm.trans hanswers'.dimension
  obtain ⟨_, hw, hperm⟩ := Windows.exists_ofFilters_of_perm h hanswers.windows
  cases hw.symm.trans hanswers'.windows
  have hskipped : p.sources.skipped = p'.sources.skipped :=
    hanswers.sources.skipped_eq_of_perm hperm hanswers'.sources
  have hresolved : p.resolved = p'.resolved := by rw [hanswers.resolved, hanswers'.resolved, hskipped]
  have hbound : p.params ⊆ s.params.toList := hrenders.params ▸ List.Subset.refl _
  have hbound' : p'.params ⊆ s'.params.toList := hrenders'.params ▸ List.Subset.refl _
  have hsources := hanswers.sources.reorders hr hrenders.numbered hrenders'.numbered hperm hanswers'.sources
    (fun _ hp => hbound (List.mem_append_left _ hp)) (fun _ hp => hbound' (List.mem_append_left _ hp))
  have hnamed : p.names.isSome = p'.names.isSome := by
    rw [hanswers.named, hanswers'.named, Plan.hasNames_eq_of_perm hperm.current]
  have hnames : List.Forall₂ (fun names names' => names.toSelect.Reorders s.params s'.params names'.toSelect)
      p.names.toList p'.names.toList := by
    refine forall₂_toList (rel_of_eq_none_iff (Option.isSome_eq_isSome.mp hnamed) fun names hmem names' hmem' => ?_)
    obtain ⟨c, t, hreads⟩ := hanswers.names names hmem
    obtain ⟨c', t', hreads'⟩ := hanswers'.names names' hmem'
    refine hreads.reorders hr hrenders.numbered hrenders'.numbered hperm.current hreads' ?_ ?_
    · exact fun _ hp => hbound (List.mem_append_right _ (List.mem_flatMap.mpr ⟨names, by simpa using hmem, hp⟩))
    · exact fun _ hp => hbound' (List.mem_append_right _ (List.mem_flatMap.mpr ⟨names', by simpa using hmem', hp⟩))
  refine ⟨p, p', hplan, hplan', hrenders.sql, hrenders'.sql, ?_, ?_, ?_, ?_⟩
  · rw [hrenders.skipped, hrenders'.skipped, hskipped]
  · rw [hrenders.calculated, hrenders'.calculated, hresolved]
  · have hjoins := Sources.map_name_eq (fun _ _ hs => hs.1) hsources Plan.joinToKeys
    have hnamesJoin : (p.names.toList.map fun _ => Plan.joinToKeys groupNames) =
        p'.names.toList.map fun _ => Plan.joinToKeys groupNames := by
      rw [List.map_const', List.map_const', hnames.length_eq]
    have hlimit : p.limit = p'.limit := Except.ok.inj (hanswers.limit.symm.trans hanswers'.limit)
    simp only [Plan.toSelect, hjoins, hnamesJoin, hanswers.outputs, hanswers'.outputs, hnamed, hskipped, hresolved,
      hanswers.orderBy, hanswers'.orderBy, hanswers.direction, hanswers'.direction, hlimit, hanswers.offset,
      hanswers'.offset]
  · exact Plan.forall₂_ctes hsources hnames

end Grouped

/-- The order of filters does not matter: both requests are refused, both are without groups, or both are answered,
with the same tables skipped, the same metrics calculated, and the same conditions in each expression. -/
theorem Statement.reorders_of_build {tables : List Table} {base : List BaseMetric} {calculated : List CalculatedMetric}
    {dimensions : List Dimension} {r : Registry} (h : Registry.build tables base calculated dimensions = .ok r)
    (today : Date) :
    (∀ (q : YoyRequest) (filters' : List Condition), q.filters.Perm filters' →
      Option.Rel (Yoy.Reorders r today q { q with filters := filters' })
        (Yoy.statement r q today).toOption (Yoy.statement r { q with filters := filters' } today).toOption) ∧
    ∀ (q : GroupedRequest) (filters' : List Condition), q.filters.Perm filters' →
      Option.Rel (Option.Rel (Grouped.Reorders r today q { q with filters := filters' }))
        (Grouped.statement r q today).toOption (Grouped.statement r { q with filters := filters' } today).toOption := by
  have hr := Registry.wellFormed_of_build h
  constructor
  · intro q filters' hperm
    refine Except.rel_toOption ⟨Yoy.exists_statement_of_perm hperm, fun hs => ?_⟩ fun s s' =>
      Yoy.reorders_of_perm hr hperm
    exact Yoy.exists_statement_of_perm (q := { q with filters := filters' }) hperm.symm hs
  · intro q filters' hperm
    refine Except.rel_toOption ⟨Grouped.exists_answer_of_perm hperm, fun ho => ?_⟩ fun o o' ho ho' => ?_
    · exact Grouped.exists_answer_of_perm (q := { q with filters := filters' }) hperm.symm ho
    · refine rel_of_eq_none_iff (Grouped.eq_none_iff_of_perm hperm ho ho') ?_
      rintro s rfl s' rfl
      exact Grouped.reorders_of_perm hr hperm ho ho'

section

open Registry Registry.Builtin

/-- Filters of three kinds, from the last to the first. -/
theorem Statement.reorders_builtin :
    Registry.build Builtin.tables Builtin.base Builtin.calculated Builtin.dimensions = .ok .builtin ∧
    plainFilters.Perm plainFilters.reverse ∧
    (∃ s s', Yoy.statement .builtin (totals plainFilters) spring = .ok s ∧
      Yoy.statement .builtin (totals plainFilters.reverse) spring = .ok s' ∧
      Yoy.Reorders .builtin spring (totals plainFilters) (totals plainFilters.reverse) s s') ∧
    ∃ s s', Grouped.statement .builtin (bySeller plainFilters "sales") spring = .ok (some s) ∧
      Grouped.statement .builtin (bySeller plainFilters.reverse "sales") spring = .ok (some s') ∧
      Grouped.Reorders .builtin spring (bySeller plainFilters "sales") (bySeller plainFilters.reverse "sales")
        s s' := by
  have hperm : plainFilters.Perm plainFilters.reverse := (List.reverse_perm _).symm
  obtain ⟨hyoy, hgrouped⟩ := reorders_of_build build_builtin spring
  refine ⟨build_builtin, hperm, ?_, ?_⟩
  · obtain ⟨s, hs⟩ := Except.exists_of_isOk
      (e := Yoy.statement .builtin (totals plainFilters) spring) (by decide +kernel)
    obtain ⟨s', hs', hreorders⟩ := Except.exists_of_rel_toOption (hyoy (totals plainFilters) _ hperm) hs
    exact ⟨s, s', hs, hs', hreorders⟩
  · have hsome : ((Grouped.statement .builtin (bySeller plainFilters "sales") spring).toOption.join.map fun _ => ()) =
        some () := by decide +kernel
    obtain ⟨s, hs, -⟩ := Except.exists_some_of_map hsome
    obtain ⟨o', ho', hrel⟩ := Except.exists_of_rel_toOption (hgrouped (bySeller plainFilters "sales") _ hperm) hs
    cases hrel with
    | some hreorders => exact ⟨s, _, hs, ho', hreorders⟩

end

end BalanceSheet
