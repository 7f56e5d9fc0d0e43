import BalanceSheet.Proofs.Query.Names
import BalanceSheet.Proofs.Query.Plans
import BalanceSheet.Proofs.Registry.Acceptance

/-!
What the outer statement can refer to: the columns of the expressions in its FROM, and its own output
columns. A metric whose table is not skipped has a column in both sources of the table.
-/

namespace BalanceSheet

/-- Expressions in the FROM of a statement with the columns that they select, and its output columns. -/
structure Scope where
  joined : List (String × List String)
  outputs : List String

/-- Whether the reference is to a column of a joined expression or to an output column. -/
def Reference.ResolvesIn (scope : Scope) : Reference → Prop
  | column source name => ∃ columns, (source, columns) ∈ scope.joined ∧ name ∈ columns
  | output name => name ∈ scope.outputs

/-- The references in an output column, without those in the text of a formula. -/
def OutputExpr.references : OutputExpr → List Reference
  | zero | groupCount | formula _ => []
  | value r | valueOrZero r => [r]
  | change current lastYear => [current, lastYear]
  | nameOrKey name key => [name, key]

/-- The columns of a statement are expressions under these names. -/
def Select.Selects (s : Select) (columns : List String) : Prop :=
  List.Forall₂ (fun text column => ∃ expr, text = named expr column) s.columns columns

theorem Source.selects_columns (s : Source) : s.toSelect.Selects s.columns := by
  apply List.rel_append
  · rw [List.forall₂_map_left_iff, List.forall₂_map_right_iff, List.forall₂_same]
    intro key _
    exact ⟨key, rfl⟩
  · rw [List.forall₂_map_left_iff, List.forall₂_map_right_iff, List.forall₂_same]
    rintro ⟨expr, column⟩ -
    exact ⟨expr, rfl⟩

namespace Source

variable {t : Table} {metrics : List BaseMetric} {cs : List Condition} {dimension : Option Dimension}
  {period : Period} {s : Source}

theorem Reads.metricColumn_mem (h : s.Reads t metrics cs dimension period) {m : BaseMetric} (hm : m ∈ metrics) :
    metricColumn period m ∈ s.columns := by
  apply List.mem_append_right
  rw [h.aggregates, List.map_map]
  exact List.mem_map.mpr ⟨m, hm, rfl⟩

/-- With a dimension, a source selects the key. -/
theorem Reads.groupId_mem (h : s.Reads t metrics cs dimension period) (hdimension : dimension.isSome = true) :
    groupId ∈ s.columns := by
  apply List.mem_append_left
  have hkey : s.key.isSome = true := h.keyed.trans hdimension
  obtain ⟨key, hkey⟩ := Option.isSome_iff_exists.mp hkey
  simp [hkey]

end Source

/-- Metrics stand in the group of their table. -/
theorem TableMetrics.mem_group {ms : List BaseMetric} {m : BaseMetric} (hm : m ∈ ms) :
    (m.table, ms.filter fun m' => m'.table = m.table) ∈ ofMetrics ms := by
  rw [ofMetrics_eq, List.mem_map]
  refine ⟨m.table, ?_, rfl⟩
  rw [List.mem_eraseDups]
  exact List.mem_map_of_mem hm

namespace Sources

variable {r : Registry} {w : Windows} {dimension : Option Dimension} {s : Sources} {ms : List BaseMetric}

/-- A metric whose table is not skipped has a column in both sources of the table. -/
theorem Covers.exists_sources (h : s.Covers r w dimension (TableMetrics.ofMetrics ms)) {m : BaseMetric}
    (hm : m ∈ ms) (htable : m.table ∉ s.skipped) (period : Period) :
    ∃ source ∈ s.all, source.name = Source.nameOf m.table period ∧
      Source.metricColumn period m ∈ source.columns := by
  have hgroup := TableMetrics.mem_group hm
  have hpart : takesPart r w dimension m.table = true := by
    cases hpart : takesPart r w dimension m.table with
    | true => rfl
    | false =>
        apply absurd _ htable
        rw [h.skipped, List.mem_map]
        exact ⟨_, List.mem_filter.mpr ⟨hgroup, by simp [hpart]⟩, rfl⟩
  obtain ⟨j, hj, hcompares⟩ := forall₂_exists_right h.joined (List.mem_filter.mpr ⟨hgroup, hpart⟩)
  obtain ⟨t, ht, hcurrent, hprevious⟩ := hcompares.sources
  have hname : t.name = m.table := Registry.name_of_table? ht
  have hmember : m ∈ ms.filter fun m' => m'.table = m.table := by simp [hm]
  cases period with
  | current =>
      refine ⟨j.current, List.mem_flatMap.mpr ⟨j, hj, by simp⟩, ?_, hcurrent.metricColumn_mem hmember⟩
      rw [hcurrent.name, hname]
  | previous =>
      refine ⟨j.previous, List.mem_flatMap.mpr ⟨j, hj, by simp⟩, ?_, hprevious.metricColumn_mem hmember⟩
      rw [hprevious.name, hname]

/-- The sources with their columns. -/
def selected (s : Sources) : List (String × List String) :=
  s.all.map fun source => (source.name, source.columns)

theorem Covers.resolves_column (h : s.Covers r w dimension (TableMetrics.ofMetrics ms)) {scope : Scope}
    (hscope : s.selected ⊆ scope.joined) {m : BaseMetric} (hm : m ∈ ms) (htable : m.table ∉ s.skipped)
    (period : Period) :
    (Reference.column (Source.nameOf m.table period) (Source.metricColumn period m)).ResolvesIn scope := by
  obtain ⟨source, hsource, hname, hcolumn⟩ := h.exists_sources hm htable period
  refine ⟨source.columns, hscope ?_, hcolumn⟩
  rw [← hname]
  exact List.mem_map_of_mem hsource

end Sources

end BalanceSheet
