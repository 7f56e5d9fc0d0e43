import BalanceSheet.Formula
import BalanceSheet.Proofs.Lists
import BalanceSheet.Proofs.Sorted

/-!
How calculated metrics are resolved. Every resolved metric rests on names with references and on metrics
resolved before it, and which metrics are resolved depends on the names with references only, not on what
these stand for.
-/

namespace BalanceSheet

namespace CalculatedMetric

variable {aliases aliases' : Aliases} {metrics : List CalculatedMetric}

/-- Every dependency of a resolved metric is a name with a reference or the name of a metric before it. -/
def Founded (aliases : Aliases) (metrics : List CalculatedMetric) (done : List ResolvedMetric) : Prop :=
  ∀ before m after, done = before ++ m :: after →
    ∃ c ∈ metrics, m = c.resolve aliases ∧ c.satisfied aliases (before.map ResolvedMetric.name) = true

theorem satisfied_mono {known known' : List String} (h : known ⊆ known') {m : CalculatedMetric}
    (hm : m.satisfied aliases known = true) : m.satisfied aliases known' = true := by
  simp only [satisfied, List.all_eq_true, Bool.or_eq_true, List.contains_iff_mem] at hm ⊢
  exact fun name hname => (hm name hname).imp_right (h ·)

theorem mem_resolveRound {known added : List String} {m : ResolvedMetric} {ms : List CalculatedMetric}
    (h : m ∈ resolveRound aliases known added ms) :
    ∃ c ∈ ms, m = c.resolve aliases ∧ c.satisfied aliases known = true := by
  induction ms generalizing added with
  | nil => simp [resolveRound] at h
  | cons c ms ih =>
      rw [resolveRound] at h
      split at h
      · obtain ⟨c', hc', hm⟩ := ih h
        exact ⟨c', List.mem_cons_of_mem _ hc', hm⟩
      · rcases List.mem_cons.mp h with rfl | h
        · exact ⟨c, List.mem_cons_self, rfl, by simp_all⟩
        · obtain ⟨c', hc', hm⟩ := ih h
          exact ⟨c', List.mem_cons_of_mem _ hc', hm⟩

theorem Founded.append_round {done : List ResolvedMetric} (h : Founded aliases metrics done)
    (added : List String) :
    Founded aliases metrics (done ++ resolveRound aliases (done.map ResolvedMetric.name) added metrics) := by
  intro before m after heq
  rcases split_append heq with ⟨rest, hdone⟩ | ⟨hbefore, hm⟩
  · exact h before m rest hdone
  · obtain ⟨c, hc, hresolve, hsatisfied⟩ := mem_resolveRound hm
    exact ⟨c, hc, hresolve, satisfied_mono (List.map_subset _ hbefore) hsatisfied⟩

theorem Founded.resolveRounds {done : List ResolvedMetric} (h : Founded aliases metrics done) (rounds : Nat) :
    Founded aliases metrics (resolveRounds aliases metrics rounds done) := by
  induction rounds generalizing done with
  | zero => exact h
  | succ rounds ih =>
      rw [CalculatedMetric.resolveRounds]
      have hround := h.append_round (done.map ResolvedMetric.name)
      split
      case h_1 => exact h
      case h_2 found hfound => exact ih hround

theorem founded_resolveAll : Founded aliases metrics (resolveAll aliases metrics) :=
  Founded.resolveRounds (fun before m after h => by simp at h) _

theorem Founded.of_mem {done : List ResolvedMetric} (h : Founded aliases metrics done) {m : ResolvedMetric}
    (hm : m ∈ done) : ∃ before after, done = before ++ m :: after ∧
      ∃ c ∈ metrics, m = c.resolve aliases ∧ c.satisfied aliases (before.map ResolvedMetric.name) = true := by
  obtain ⟨before, after, heq⟩ := List.append_of_mem hm
  exact ⟨before, after, heq, h before m after heq⟩

/-- The names of resolved metrics are those of calculated metrics. -/
theorem Founded.name_mem {done : List ResolvedMetric} (h : Founded aliases metrics done) {m : ResolvedMetric}
    (hm : m ∈ done) : ∃ c ∈ metrics, m.name = c.name := by
  obtain ⟨_, _, _, c, hc, rfl, _⟩ := h.of_mem hm
  exact ⟨c, hc, rfl⟩

/-! ### The names alone

What is resolved next depends on the names that have references, the names resolved before and the
dependencies, so two sets of references for the same names resolve the same metrics. -/

theorem satisfied_congr (h : ∀ name, aliases.has name = aliases'.has name) (known : List String)
    (m : CalculatedMetric) : m.satisfied aliases known = m.satisfied aliases' known := by
  simp only [satisfied, h]

theorem names_resolveRound_congr (h : ∀ name, aliases.has name = aliases'.has name)
    (known added : List String) (ms : List CalculatedMetric) :
    (resolveRound aliases known added ms).map ResolvedMetric.name =
      (resolveRound aliases' known added ms).map ResolvedMetric.name := by
  induction ms generalizing added with
  | nil => rfl
  | cons m ms ih =>
      rw [resolveRound, resolveRound, satisfied_congr h]
      split
      · exact ih added
      · rw [List.map_cons, List.map_cons, ih]
        rfl

theorem names_resolveRounds_congr (h : ∀ name, aliases.has name = aliases'.has name) (rounds : Nat)
    {done done' : List ResolvedMetric} (hdone : done.map ResolvedMetric.name = done'.map ResolvedMetric.name) :
    (resolveRounds aliases metrics rounds done).map ResolvedMetric.name =
      (resolveRounds aliases' metrics rounds done').map ResolvedMetric.name := by
  induction rounds generalizing done done' with
  | zero => exact hdone
  | succ rounds ih =>
      have hround := names_resolveRound_congr h (done.map ResolvedMetric.name)
        (done.map ResolvedMetric.name) metrics
      rw [resolveRounds, resolveRounds, ← hdone]
      split
      case h_1 hnil =>
          rw [hnil, List.map_nil, eq_comm, List.map_eq_nil_iff] at hround
          rw [hround]
          exact hdone
      case h_2 found hfound =>
          split
          case h_1 hnil => simp_all
          case h_2 found' hfound' =>
              exact ih (by rw [List.map_append, List.map_append, hround, hdone])

/-- The metrics resolved, and their order, depend on the names with references only. -/
theorem names_resolveAll_congr (metrics : List CalculatedMetric)
    (h : ∀ name, aliases.has name = aliases'.has name) :
    (resolveAll aliases metrics).map ResolvedMetric.name =
      (resolveAll aliases' metrics).map ResolvedMetric.name :=
  names_resolveRounds_congr h _ rfl

end CalculatedMetric

namespace Aliases

/-- The names with references are those of the requested metrics and of their values last year, whether
or not their tables take part. -/
theorem has_ofMetrics {skipped : List String} {groups : TableMetrics} {name : String} :
    (ofMetrics skipped groups).has name = true ↔
      ∃ m ∈ groups.metrics, name = m.name ∨ name = m.lastYearField := by
  rw [has, ofMetrics, Sorted.isSome_get?, Sorted.mem_keys_ofList]
  simp only [List.map_flatMap, List.mem_flatMap, ofMetric]
  refine exists_congr fun m => and_congr_right fun _ => ?_
  split <;> simp

theorem has_eq_of_mem_metrics_iff {groups groups' : TableMetrics} (h : ∀ m, m ∈ groups.metrics ↔ m ∈ groups'.metrics)
    (skipped skipped' : List String) (name : String) :
    (ofMetrics skipped groups).has name = (ofMetrics skipped' groups').has name := by
  rw [Bool.eq_iff_iff, has_ofMetrics, has_ofMetrics]
  simp only [h]

theorem has_ofMetrics_congr (skipped skipped' : List String) (groups : TableMetrics) (name : String) :
    (ofMetrics skipped groups).has name = (ofMetrics skipped' groups).has name :=
  has_eq_of_mem_metrics_iff (fun _ => Iff.rfl) skipped skipped' name

end Aliases
end BalanceSheet
