import BalanceSheet.Proofs.Condition.Outline
import BalanceSheet.Proofs.Lists
import BalanceSheet.Query.Source

/-!
What the sources of a statement hold. A source carries the metrics of its group under the columns of its
period and one clause for each condition. A table takes part when it can answer the request, and then
with one source for each period; all other tables are skipped. The parameters grow by those of the
sources, the current period of each table before its previous one.
-/

namespace BalanceSheet

theorem Registry.name_of_table? {r : Registry} {name : String} {table : Table} (h : r.table? name = some table) :
    table.name = name := by
  simpa using List.find?_some h

namespace Source

/-- The parameters of a source, in the order of its text. -/
def params (s : Source) : List Param := s.clauses.flatMap Clause.values

/-- `s` aggregates the metrics over the rows of the table that meet the conditions. -/
structure Reads (t : Table) (metrics : List BaseMetric) (conditions : List Condition)
    (dimension : Option Dimension) (period : Period) (s : Source) : Prop where
  name : s.name = nameOf t.name period
  table : s.table = t.name
  key : s.key = dimension.bind fun d => d.keyExpr? t period
  keyed : s.key.isSome = dimension.isSome
  aggregates : s.aggregates = metrics.map fun m => (m.expr, metricColumn period m)
  clauses : List.Forall₂ (Condition.Makes t) conditions s.clauses

theorem run_keyOf_ok {table : Table} {dimension : Option Dimension} {period : Period} {key : Option String}
    {ps qs : Params} (h : (keyOf table dimension period).run ps = (.ok key, qs)) :
    key = dimension.bind (fun d => d.keyExpr? table period) ∧ key.isSome = dimension.isSome ∧ ps = qs := by
  cases dimension with
  | none =>
      obtain ⟨rfl, rfl⟩ := Binding.run_pure_ok h
      exact ⟨rfl, rfl, rfl⟩
  | some d =>
      simp only [keyOf] at h
      split at h
      case h_1 expr hexpr =>
          obtain ⟨rfl, rfl⟩ := Binding.run_pure_ok h
          exact ⟨hexpr.symm, rfl, rfl⟩
      case h_2 => exact (Binding.run_fail_ne_ok h).elim

theorem run_ofTable_ok {table : Table} {metrics : List BaseMetric} {conditions : List Condition}
    {dimension : Option Dimension} {period : Period} {s : Source} {ps qs : Params}
    (h : (ofTable table metrics conditions dimension period).run ps = (.ok s, qs)) :
    s.Reads table metrics conditions dimension period ∧ ps.Grows qs s.params := by
  obtain ⟨key, ps', hrun, h⟩ := Binding.run_bind_ok h
  obtain ⟨hkey, hkeyed, rfl⟩ := run_keyOf_ok hrun
  obtain ⟨clauses, hclauses, rfl⟩ := Binding.run_map_ok h
  obtain ⟨hmakes, hgrows⟩ := Condition.run_clauses_ok hclauses
  exact ⟨⟨rfl, rfl, hkey, hkeyed, rfl, hmakes⟩, hgrows⟩

end Source

namespace Joined

def params (j : Joined) : List Param := j.current.params ++ j.previous.params

/-- `j` reads the table of a group once for each window. -/
structure Compares (r : Registry) (w : Windows) (dimension : Option Dimension)
    (group : String × List BaseMetric) (j : Joined) : Prop where
  table : j.table = group.1
  sources : ∃ table, r.table? group.1 = some table ∧
    j.current.Reads table group.2 w.current dimension .current ∧
    j.previous.Reads table group.2 w.previous dimension .previous

end Joined

namespace Sources

variable {r : Registry} {w : Windows} {dimension : Option Dimension}

/-- The parameters of all sources, in the order of the text. -/
def params (s : Sources) : List Param := s.joined.flatMap Joined.params

theorem params_eq_all (s : Sources) : s.params = s.all.flatMap Source.params := by
  rw [params, all, List.flatMap_assoc]
  congr 1
  funext j
  simp [Joined.params]

/-- Whether the table of that name can answer the request. -/
def takesPart (r : Registry) (w : Windows) (dimension : Option Dimension) (name : String) : Bool :=
  (r.table? name).any fun table => answers table dimension w.current

/-- The tables that can answer take part, in the order of the groups, and the others are skipped. -/
structure Covers (r : Registry) (w : Windows) (dimension : Option Dimension) (groups : TableMetrics)
    (s : Sources) : Prop where
  joined : List.Forall₂ (Joined.Compares r w dimension)
    (groups.filter fun group => takesPart r w dimension group.1) s.joined
  skipped : s.skipped = (groups.filter fun group => !takesPart r w dimension group.1).map Prod.fst

theorem Covers.joined_eq_nil_iff {groups : TableMetrics} {s : Sources} (h : s.Covers r w dimension groups) :
    s.joined = [] ↔ ∀ group ∈ groups, takesPart r w dimension group.1 = false := by
  rw [← List.length_eq_zero_iff, ← h.joined.length_eq, List.length_eq_zero_iff, List.filter_eq_nil_iff]
  simp

/-- The tables that take part are those requested without those skipped. -/
theorem Covers.tables {groups : TableMetrics} {s : Sources} (h : s.Covers r w dimension groups) :
    (groups.filter fun group => takesPart r w dimension group.1).map Prod.fst =
      (groups.map Prod.fst).filter fun t => !s.skipped.contains t := by
  rw [List.filter_map]
  congr 1
  apply List.filter_congr
  intro group hgroup
  have hskipped : group.1 ∈ s.skipped ↔ takesPart r w dimension group.1 = false := by
    rw [h.skipped, List.mem_map]
    constructor
    · rintro ⟨group', hgroup', heq⟩
      have hout := (List.mem_filter.mp hgroup').2
      rw [heq] at hout
      simpa using hout
    · intro hout
      exact ⟨group, List.mem_filter.mpr ⟨hgroup, by simp [hout]⟩, rfl⟩
  cases hpart : takesPart r w dimension group.1 with
  | false => simp [hskipped.mpr hpart]
  | true => simp [hskipped, hpart]

/-- The sources are named after the tables that take part, the current period of each before its previous
one. -/
theorem Covers.names {groups : TableMetrics} {s : Sources} (h : s.Covers r w dimension groups) :
    s.all.map Source.name =
      ((groups.map Prod.fst).filter fun t => !s.skipped.contains t).flatMap
        fun t => [currentSource t, previousSource t] := by
  have hnames {groups : TableMetrics} {js : List Joined}
      (hjs : List.Forall₂ (Joined.Compares r w dimension) groups js) :
      (js.flatMap fun j => [j.current, j.previous]).map Source.name =
        (groups.map Prod.fst).flatMap fun t => [currentSource t, previousSource t] := by
    induction hjs with
    | nil => rfl
    | @cons group j _ _ hj _ ih =>
        obtain ⟨t, ht, hcurrent, hprevious⟩ := hj.sources
        have hname := Registry.name_of_table? ht
        rw [List.flatMap_cons, List.map_append, ih, List.map_cons, List.map_cons, hcurrent.name,
          hprevious.name, hname]
        rfl
  rw [← h.tables]
  exact hnames h.joined

/-- Each source reads the table of some group for its metrics. -/
theorem Covers.reads {groups : TableMetrics} {s : Sources} (h : s.Covers r w dimension groups) {source : Source}
    (hsource : source ∈ s.all) : ∃ group ∈ groups, ∃ t cs period, r.table? group.1 = some t ∧
      source.Reads t group.2 cs dimension period := by
  obtain ⟨j, hj, hmem⟩ := List.mem_flatMap.mp hsource
  obtain ⟨group, hgroup, hcompares⟩ := forall₂_exists_left h.joined hj
  obtain ⟨t, ht, hcurrent, hprevious⟩ := hcompares.sources
  refine ⟨group, List.mem_of_mem_filter hgroup, t, ?_⟩
  rcases List.mem_pair.mp hmem with rfl | rfl
  · exact ⟨_, _, ht, hcurrent⟩
  · exact ⟨_, _, ht, hprevious⟩

/-- Tables in step have sources in step. -/
theorem forall₂_all_of_joined {R : Source → Source → Prop} {s s' : Sources}
    (h : List.Forall₂ (fun j j' => R j.current j'.current ∧ R j.previous j'.previous) s.joined s'.joined) :
    List.Forall₂ R s.all s'.all := by
  rw [all, all]
  generalize s.joined = js at h ⊢
  generalize s'.joined = js' at h ⊢
  induction h with
  | nil => exact .nil
  | cons hj _ ih => exact .cons hj.1 (.cons hj.2 ih)

/-- What is made from the names of sources is the same for sources in step. -/
theorem map_name_eq {β : Type} {R : Source → Source → Prop} {s s' : Sources}
    (hR : ∀ source source', R source source' → source.name = source'.name) (h : List.Forall₂ R s.all s'.all)
    (f : String → β) : (s.all.map fun source => f source.name) = s'.all.map fun source => f source.name := by
  rw [← List.forall₂_eq_eq_eq, List.forall₂_map_left_iff, List.forall₂_map_right_iff]
  exact h.imp fun source source' hs => congrArg f (hR source source' hs)

/-- The same groups are covered in step, where the same tables take part. -/
theorem Covers.forall₂_all {R : Source → Source → Prop} {w' : Windows} {groups : TableMetrics} {s s' : Sources}
    (hpart : takesPart r w dimension = takesPart r w' dimension)
    (hcurrent : ∀ t ∈ r.tables, ∀ metrics source source', source.Reads t metrics w.current dimension .current →
      source'.Reads t metrics w'.current dimension .current → R source source')
    (hprevious : ∀ t ∈ r.tables, ∀ metrics source source', source.Reads t metrics w.previous dimension .previous →
      source'.Reads t metrics w'.previous dimension .previous → R source source')
    (h : s.Covers r w dimension groups) (h' : s'.Covers r w' dimension groups) :
    List.Forall₂ R s.all s'.all := by
  apply forall₂_all_of_joined
  refine forall₂_of_common (fun group j j' hj hj' => ?_) h.joined (hpart ▸ h'.joined)
  obtain ⟨t, ht, hcurrents, hpreviouses⟩ := hj.sources
  obtain ⟨t', ht', hcurrents', hpreviouses'⟩ := hj'.sources
  cases ht.symm.trans ht'
  have hmem : t ∈ r.tables := List.mem_of_find?_eq_some ht
  exact ⟨hcurrent t hmem _ _ _ hcurrents hcurrents', hprevious t hmem _ _ _ hpreviouses hpreviouses'⟩

theorem map_fst_ctes (s : Sources) : s.ctes.map Prod.fst = s.all.map Source.name := by
  rw [ctes, List.map_map]
  rfl

theorem run_joinTable_ok {name : String} {metrics : List BaseMetric} {o : Option Joined} {ps qs : Params}
    (h : (joinTable r w dimension name metrics).run ps = (.ok o, qs)) :
    match o with
    | some j => takesPart r w dimension name = true ∧ j.Compares r w dimension (name, metrics) ∧
        ps.Grows qs j.params
    | none => takesPart r w dimension name = false ∧ ps = qs := by
  rw [joinTable] at h
  split at h
  case h_1 => exact (Binding.run_fail_ne_ok h).elim
  case h_2 table htable =>
      split at h
      case isTrue hanswers =>
          obtain ⟨current, ps', hcurrent, h⟩ := Binding.run_bind_ok h
          obtain ⟨previous, hprevious, rfl⟩ := Binding.run_map_ok h
          obtain ⟨hcurrent, hgrows⟩ := Source.run_ofTable_ok hcurrent
          obtain ⟨hprevious, hgrows'⟩ := Source.run_ofTable_ok hprevious
          exact ⟨by simpa [takesPart, htable] using hanswers, ⟨rfl, table, htable, hcurrent, hprevious⟩,
            hgrows.trans hgrows'⟩
      case isFalse hanswers =>
          obtain ⟨rfl, rfl⟩ := Binding.run_pure_ok h
          exact ⟨by simpa [takesPart, htable] using hanswers, rfl⟩

theorem run_ofMetrics_ok {groups : TableMetrics} {s : Sources} {ps qs : Params}
    (h : (ofMetrics r w dimension groups).run ps = (.ok s, qs)) :
    s.Covers r w dimension groups ∧ ps.Grows qs s.params := by
  induction groups generalizing s ps with
  | nil =>
      obtain ⟨rfl, rfl⟩ := Binding.run_pure_ok h
      exact ⟨⟨.nil, rfl⟩, .refl ps⟩
  | cons group groups ih =>
      obtain ⟨o, ps', hjoin, h⟩ := Binding.run_bind_ok h
      obtain ⟨rest, hrest, rfl⟩ := Binding.run_map_ok h
      obtain ⟨⟨hjoined, hskipped⟩, hgrows⟩ := ih hrest
      have hstep := run_joinTable_ok hjoin
      cases o with
      | some j =>
          obtain ⟨hpart, hcompares, hgrows'⟩ := hstep
          exact ⟨⟨by simpa [hpart] using ⟨hcompares, hjoined⟩, by simpa [hpart] using hskipped⟩,
            hgrows'.trans hgrows⟩
      | none =>
          obtain ⟨hpart, rfl⟩ := hstep
          exact ⟨⟨by simpa [hpart] using hjoined, by simpa [hpart] using hskipped⟩, hgrows⟩

end Sources
end BalanceSheet
