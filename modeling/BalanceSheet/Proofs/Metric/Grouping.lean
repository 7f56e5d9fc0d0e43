import BalanceSheet.Proofs.Lists
import BalanceSheet.Registry.Parts

/-!
Base metrics by table. The groups are the tables of the metrics, each once and in the order of first
appearance, and the group of a table is the sublist of its metrics; so grouping loses no metric and
repeats none.
-/

namespace BalanceSheet

namespace TableMetrics

/-- The metrics in groups: the tables each once and in the order in which they first appear, and under each of
them its own metrics, as they follow each other. -/
structure Partitions (groups : TableMetrics) (ms : List BaseMetric) : Prop where
  tables : ∀ t, t ∈ groups.map Prod.fst ↔ t ∈ ms.map BaseMetric.table
  distinct : (groups.map Prod.fst).Nodup
  ordered : (groups.map Prod.fst).Pairwise fun t t' =>
    (ms.map BaseMetric.table).idxOf t < (ms.map BaseMetric.table).idxOf t'
  group : ∀ group ∈ groups, group.2 ≠ [] ∧ group.2 = ms.filter fun m => m.table = group.1
  perm : groups.metrics.Perm ms
  first : groups.metrics.head? = ms.head?

/-- A metric goes to the group of its table, or makes a group behind the others. -/
theorem insert_map {keys : List String} (hkeys : keys.Nodup) (m : BaseMetric)
    (group : String → List BaseMetric) (hgroup : m.table ∉ keys → group m.table = []) :
    insert m (keys.map fun t => (t, group t)) =
      (if m.table ∈ keys then keys else keys ++ [m.table]).map
        fun t => (t, group t ++ if m.table = t then [m] else []) := by
  induction keys with
  | nil => simp [insert, hgroup]
  | cons key keys ih =>
      rw [List.nodup_cons] at hkeys
      rw [List.map_cons, insert]
      by_cases h : key = m.table
      · have hrest : ∀ t ∈ keys, m.table ≠ t := fun t ht heq => hkeys.1 (h ▸ heq ▸ ht)
        subst h
        simpa using hrest
      · rw [if_neg h, ih hkeys.2 fun hmem => hgroup (by simp [Ne.symm h, hmem])]
        by_cases hmem : m.table ∈ keys <;> simp [hmem, Ne.symm h]

theorem ofMetrics_concat (ms : List BaseMetric) (m : BaseMetric) :
    ofMetrics (ms ++ [m]) = insert m (ofMetrics ms) := by
  simp [ofMetrics]

/-- Tables in the order of first appearance, each with its metrics in order. -/
theorem ofMetrics_eq (ms : List BaseMetric) :
    ofMetrics ms = (ms.map BaseMetric.table).eraseDups.map
      fun t => (t, ms.filter fun m => m.table = t) := by
  induction ms using List.reverseRecOn with
  | nil => rfl
  | append_singleton ms m ih =>
      have hfree : m.table ∉ (ms.map BaseMetric.table).eraseDups →
          (ms.filter fun m' => m'.table = m.table) = [] := by
        intro h
        rw [List.filter_eq_nil_iff]
        intro m' hm'
        simp only [List.mem_eraseDups, List.mem_map, not_exists, not_and] at h
        simpa using h m' hm'
      rw [ofMetrics_concat, ih, insert_map (nodup_eraseDups _) m _ hfree, List.map_append, List.map_singleton,
        eraseDups_concat]
      simp only [List.mem_eraseDups, List.filter_append]
      congr 1
      funext t
      by_cases h : m.table = t <;> simp [h]

theorem map_fst_ofMetrics (ms : List BaseMetric) :
    (ofMetrics ms).map Prod.fst = (ms.map BaseMetric.table).eraseDups := by
  rw [ofMetrics_eq, List.map_map]
  exact List.map_id _

/-- Each group is that of the table of a metric. -/
theorem exists_of_mem_ofMetrics {ms : List BaseMetric} {group : String × List BaseMetric}
    (h : group ∈ ofMetrics ms) : ∃ m ∈ ms, m.table = group.1 := by
  have hname : group.1 ∈ ms.map BaseMetric.table := by
    rw [← List.mem_eraseDups, ← map_fst_ofMetrics]
    exact List.mem_map_of_mem h
  exact List.mem_map.mp hname

/-- Putting a metric into its group puts it among the others. -/
theorem perm_metrics_insert (m : BaseMetric) (groups : TableMetrics) :
    (metrics (insert m groups)).Perm (metrics groups ++ [m]) := by
  induction groups with
  | nil => exact .refl _
  | cons group rest ih =>
      obtain ⟨table, ms⟩ := group
      rw [insert]
      split
      case isTrue =>
        have hswap : ([m] ++ metrics rest).Perm (metrics rest ++ [m]) := List.perm_append_comm
        simpa [metrics] using hswap.append_left ms
      case isFalse => simpa [metrics] using ih.append_left ms

/-- Grouping loses no metric and repeats none. -/
theorem perm_metrics_ofMetrics (ms : List BaseMetric) : (metrics (ofMetrics ms)).Perm ms := by
  induction ms using List.reverseRecOn with
  | nil => exact .refl _
  | append_singleton ms m ih =>
      rw [ofMetrics_concat]
      exact (perm_metrics_insert m _).trans (ih.append_right [m])

theorem mem_metrics_ofMetrics {ms : List BaseMetric} {m : BaseMetric} : m ∈ metrics (ofMetrics ms) ↔ m ∈ ms :=
  (perm_metrics_ofMetrics ms).mem_iff

theorem nodup_metrics_ofMetrics {ms : List BaseMetric} (h : ms.Nodup) : (metrics (ofMetrics ms)).Nodup :=
  (perm_metrics_ofMetrics ms).nodup_iff.mpr h

/-- The first metric stays the first one. -/
theorem head?_metrics_ofMetrics (ms : List BaseMetric) : (metrics (ofMetrics ms)).head? = ms.head? := by
  rw [ofMetrics_eq]
  cases ms with
  | nil => rfl
  | cons m ms => simp [metrics, List.eraseDups_cons]

theorem partitions_ofMetrics (ms : List BaseMetric) : Partitions (ofMetrics ms) ms := by
  have htables := map_fst_ofMetrics ms
  refine ⟨?_, htables ▸ nodup_eraseDups _, htables ▸ pairwise_idxOf_eraseDups _, ?_, perm_metrics_ofMetrics ms,
    head?_metrics_ofMetrics ms⟩
  · intro t
    rw [htables, List.mem_eraseDups]
  · intro group hgroup
    obtain ⟨m, hm, htable⟩ := exists_of_mem_ofMetrics hgroup
    have hfilter : group.2 = ms.filter fun m => m.table = group.1 := by
      rw [ofMetrics_eq] at hgroup
      obtain ⟨t, -, rfl⟩ := List.mem_map.mp hgroup
      rfl
    refine ⟨?_, hfilter⟩
    rw [hfilter]
    exact List.ne_nil_of_mem (List.mem_filter.mpr ⟨hm, by simpa using htable⟩)

end TableMetrics
end BalanceSheet
