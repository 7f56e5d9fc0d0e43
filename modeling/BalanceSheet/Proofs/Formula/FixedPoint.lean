import BalanceSheet.Proofs.Formula.Resolution
import BalanceSheet.Registry.Builtin
import Mathlib.Data.List.Perm.Subperm
import Mathlib.Data.Nat.Find
import Mathlib.Order.Basic

/-!
Resolution as a least fixed point. What can be derived from the names with references is defined without
rounds, and so is the rank of a metric, one more than the ranks that it rests on. After `k` rounds exactly
the derivable metrics of rank up to `k` are resolved; so the rounds end with all that can be derived, by rank
and then in the order of declaration.
-/

namespace BalanceSheet.CalculatedMetric

/-- The names of metrics all of whose dependencies have references or are derivable themselves. -/
inductive Derivable (aliases : Aliases) (metrics : List CalculatedMetric) : String → Prop
  | of_dependencies {m : CalculatedMetric} (hm : m ∈ metrics)
      (h : ∀ name ∈ m.dependencies, aliases.has name = false → Derivable aliases metrics name) :
      Derivable aliases metrics m.name

/-- The dependencies that are not names with references. -/
def inner (aliases : Aliases) (m : CalculatedMetric) : List String :=
  m.dependencies.filter fun name => !aliases.has name

/-- A derivable metric ranks one above the highest of its inner dependencies, and first without any. -/
def IsRank (aliases : Aliases) (metrics : List CalculatedMetric) (rank : String → Nat) : Prop :=
  ∀ m ∈ metrics, Derivable aliases metrics m.name →
    rank m.name = 1 + ((m.inner aliases).map rank).foldr max 0

/-- By rank, and among equals as they are declared. -/
def Precedes (metrics : List CalculatedMetric) (rank : String → Nat) (a b : ResolvedMetric) : Prop :=
  rank a.name < rank b.name ∨
    rank a.name = rank b.name ∧ [a.name, b.name].Sublist (metrics.map CalculatedMetric.name)

/-- What one round adds to the metrics resolved so far. -/
def round (aliases : Aliases) (metrics : List CalculatedMetric) (done : List ResolvedMetric) :
    List ResolvedMetric :=
  resolveRound aliases (done.map ResolvedMetric.name) (done.map ResolvedMetric.name) metrics

/-- Rounds without a bound: another one as long as the last one has resolved something. -/
inductive Rounds (aliases : Aliases) (metrics : List CalculatedMetric) :
    List ResolvedMetric → List ResolvedMetric → Prop
  | stop {done : List ResolvedMetric} (h : round aliases metrics done = []) : Rounds aliases metrics done done
  | next {done result : List ResolvedMetric} (h : round aliases metrics done ≠ [])
      (rest : Rounds aliases metrics (done ++ round aliases metrics done) result) :
      Rounds aliases metrics done result

variable {aliases : Aliases} {metrics : List CalculatedMetric}

/-! ### One round -/

theorem satisfied_iff {known : List String} {m : CalculatedMetric} :
    m.satisfied aliases known = true ↔ ∀ name ∈ m.inner aliases, name ∈ known := by
  simp only [satisfied, inner, List.all_eq_true, Bool.or_eq_true, List.contains_iff_mem, List.mem_filter,
    Bool.not_eq_true', and_imp]
  refine forall₂_congr fun name _ => ?_
  cases aliases.has name <;> simp

/-- Whether the metric can be resolved next. -/
def isNext (aliases : Aliases) (known : List String) (m : CalculatedMetric) : Bool :=
  !known.contains m.name && m.satisfied aliases known

theorem isNext_iff {known : List String} {m : CalculatedMetric} :
    m.isNext aliases known = true ↔ m.name ∉ known ∧ m.satisfied aliases known = true := by
  simp [isNext]

/-- Where names are given once, a round goes through the metrics without looking at what it has added. -/
theorem resolveRound_eq_filter {known added : List String} {ms : List CalculatedMetric}
    (hnodup : (ms.map CalculatedMetric.name).Nodup) (hadded : ∀ m ∈ ms, m.name ∈ added ↔ m.name ∈ known) :
    resolveRound aliases known added ms = (ms.filter (isNext aliases known)).map (resolve aliases) := by
  induction ms generalizing added with
  | nil => rfl
  | cons m ms ih =>
      rw [List.map_cons, List.nodup_cons] at hnodup
      rw [List.forall_mem_cons] at hadded
      have hskip : (added.contains m.name || !m.satisfied aliases known) = true ↔
          ¬ m.isNext aliases known = true := by
        rw [isNext_iff, ← hadded.1]
        simp [imp_iff_not_or]
      rw [resolveRound]
      by_cases hnext : m.isNext aliases known = true
      · have hrest : ∀ m' ∈ ms, m'.name ∈ m.name :: added ↔ m'.name ∈ known := by
          intro m' hm'
          have hne : m'.name ≠ m.name := fun heq => hnodup.1 (heq ▸ List.mem_map_of_mem hm')
          rw [List.mem_cons, ← hadded.2 m' hm']
          exact or_iff_right hne
        rw [if_neg fun h => hskip.mp h hnext, List.filter_cons_of_pos hnext, List.map_cons, ih hnodup.2 hrest]
      · rw [if_pos (hskip.mpr hnext), List.filter_cons_of_neg hnext, ih hnodup.2 hadded.2]

theorem round_eq_filter (hnodup : (metrics.map CalculatedMetric.name).Nodup) (done : List ResolvedMetric) :
    round aliases metrics done =
      (metrics.filter (isNext aliases (done.map ResolvedMetric.name))).map (resolve aliases) :=
  resolveRound_eq_filter hnodup fun _ _ => Iff.rfl

theorem mem_names_round (hnodup : (metrics.map CalculatedMetric.name).Nodup) {done : List ResolvedMetric}
    {name : String} : name ∈ (round aliases metrics done).map ResolvedMetric.name ↔
      name ∉ done.map ResolvedMetric.name ∧
        ∃ m ∈ metrics, m.name = name ∧ m.satisfied aliases (done.map ResolvedMetric.name) = true := by
  rw [round_eq_filter hnodup, List.map_map, List.mem_map]
  constructor
  · rintro ⟨m, hm, rfl⟩
    obtain ⟨hm, hnext⟩ := List.mem_filter.mp hm
    obtain ⟨hfree, hsatisfied⟩ := isNext_iff.mp hnext
    exact ⟨hfree, m, hm, rfl, hsatisfied⟩
  · rintro ⟨hfree, m, hm, rfl, hsatisfied⟩
    exact ⟨m, List.mem_filter.mpr ⟨hm, isNext_iff.mpr ⟨hfree, hsatisfied⟩⟩, rfl⟩

/-- Behind a round, the names are those before it and those that it satisfied. -/
theorem mem_names_append_round (hnodup : (metrics.map CalculatedMetric.name).Nodup)
    {done : List ResolvedMetric} {name : String} :
    name ∈ (done ++ round aliases metrics done).map ResolvedMetric.name ↔
      name ∈ done.map ResolvedMetric.name ∨
        ∃ m ∈ metrics, m.name = name ∧ m.satisfied aliases (done.map ResolvedMetric.name) = true := by
  rw [List.map_append, List.mem_append, mem_names_round hnodup]
  by_cases hdone : name ∈ done.map ResolvedMetric.name
  · simp only [hdone, true_or]
  · simp only [hdone, not_false_eq_true, true_and]

/-- A round resolves a part of what is declared, in that order. -/
theorem names_round_sublist (hnodup : (metrics.map CalculatedMetric.name).Nodup) (done : List ResolvedMetric) :
    ((round aliases metrics done).map ResolvedMetric.name).Sublist (metrics.map CalculatedMetric.name) := by
  rw [round_eq_filter hnodup, List.map_map]
  exact List.filter_sublist.map _

/-- Resolved metrics have names of their own, which are those of declared metrics. -/
structure Unrepeated (metrics : List CalculatedMetric) (done : List ResolvedMetric) : Prop where
  nodup : (done.map ResolvedMetric.name).Nodup
  declared : done.map ResolvedMetric.name ⊆ metrics.map CalculatedMetric.name

theorem Unrepeated.nil : Unrepeated metrics [] := ⟨List.nodup_nil, List.nil_subset _⟩

theorem Unrepeated.append_round (hnodup : (metrics.map CalculatedMetric.name).Nodup)
    {done : List ResolvedMetric} (h : Unrepeated metrics done) :
    Unrepeated metrics (done ++ round aliases metrics done) := by
  have hround : ((round aliases metrics done).map ResolvedMetric.name).Sublist
      (metrics.map CalculatedMetric.name) := names_round_sublist hnodup done
  constructor
  · rw [List.map_append, List.nodup_append]
    refine ⟨h.nodup, hnodup.sublist hround, ?_⟩
    rintro name hname other hother rfl
    exact ((mem_names_round hnodup).mp hother).1 hname
  · rw [List.map_append]
    exact List.append_subset.mpr ⟨h.declared, hround.subset⟩

/-! ### Rounds come to an end -/

theorem resolveRounds_succ (bound : Nat) (done : List ResolvedMetric) :
    resolveRounds aliases metrics (bound + 1) done =
      if round aliases metrics done = [] then done
      else resolveRounds aliases metrics bound (done ++ round aliases metrics done) := by
  rw [resolveRounds, round]
  split
  case h_1 hround => rw [if_pos hround]
  case h_2 hround => rw [if_neg hround]

/-- A bound on the number of rounds is no bound if it leaves a round for every metric. -/
theorem rounds_of_bound (hnodup : (metrics.map CalculatedMetric.name).Nodup) (bound : Nat)
    {done : List ResolvedMetric} (h : Unrepeated metrics done) (hbound : metrics.length ≤ bound + done.length) :
    Rounds aliases metrics done (resolveRounds aliases metrics bound done) := by
  induction bound generalizing done with
  | zero =>
      -- as many names as metrics are all names, so none is left for a round
      have hlength : (metrics.map CalculatedMetric.name).length ≤ (done.map ResolvedMetric.name).length := by
        simpa using hbound
      have hperm := (List.subperm_of_subset h.nodup h.declared).perm_of_length_le hlength
      apply Rounds.stop
      rw [← List.map_eq_nil_iff (f := ResolvedMetric.name), List.eq_nil_iff_forall_not_mem]
      intro name hname
      obtain ⟨hfree, m, hm, rfl, -⟩ := (mem_names_round hnodup).mp hname
      exact hfree (hperm.mem_iff.mpr (List.mem_map_of_mem hm))
  | succ bound ih =>
      rw [resolveRounds_succ]
      split
      case isTrue hround => exact .stop hround
      case isFalse hround =>
          have hpos : 0 < (round aliases metrics done).length := List.length_pos_iff.mpr hround
          refine .next hround (ih (h.append_round hnodup) ?_)
          rw [List.length_append]
          omega

theorem rounds_resolveAll (hnodup : (metrics.map CalculatedMetric.name).Nodup) :
    Rounds aliases metrics [] (resolveAll aliases metrics) :=
  rounds_of_bound hnodup _ .nil (Nat.le_refl _)

/-! ### What rounds derive -/

/-- Derivable by chains of at most that many metrics. -/
def DerivableIn (aliases : Aliases) (metrics : List CalculatedMetric) : Nat → String → Prop
  | 0, _ => False
  | k + 1, name => ∃ m ∈ metrics, m.name = name ∧ ∀ d ∈ m.inner aliases, DerivableIn aliases metrics k d

theorem DerivableIn.succ {k : Nat} {name : String} (h : DerivableIn aliases metrics k name) :
    DerivableIn aliases metrics (k + 1) name := by
  induction k generalizing name with
  | zero => exact h.elim
  | succ k ih =>
      obtain ⟨m, hm, hname, hinner⟩ := h
      exact ⟨m, hm, hname, fun d hd => ih (hinner d hd)⟩

theorem DerivableIn.mono {k k' : Nat} (hle : k ≤ k') {name : String}
    (h : DerivableIn aliases metrics k name) : DerivableIn aliases metrics k' name := by
  induction hle with
  | refl => exact h
  | step _ ih => exact ih.succ

theorem mem_inner {m : CalculatedMetric} {name : String} :
    name ∈ m.inner aliases ↔ name ∈ m.dependencies ∧ aliases.has name = false := by
  simp [inner]

/-- The chains below finitely many names have a common bound. -/
theorem exists_common {names : List String} (h : ∀ name ∈ names, ∃ k, DerivableIn aliases metrics k name) :
    ∃ k, ∀ name ∈ names, DerivableIn aliases metrics k name := by
  induction names with
  | nil => exact ⟨0, by simp⟩
  | cons name names ih =>
      rw [List.forall_mem_cons] at h
      obtain ⟨k, hk⟩ := h.1
      obtain ⟨k', hk'⟩ := ih h.2
      refine ⟨max k k', List.forall_mem_cons.mpr ⟨hk.mono (le_max_left k k'), ?_⟩⟩
      intro other hother
      exact (hk' other hother).mono (le_max_right k k')

theorem derivable_iff_exists {name : String} :
    Derivable aliases metrics name ↔ ∃ k, DerivableIn aliases metrics k name := by
  constructor
  · intro h
    induction h with
    | @of_dependencies m hm _ ih =>
        obtain ⟨k, hk⟩ := exists_common fun d hd => ih d (mem_inner.mp hd).1 (mem_inner.mp hd).2
        exact ⟨k + 1, m, hm, rfl, hk⟩
  · rintro ⟨k, h⟩
    induction k generalizing name with
    | zero => exact h.elim
    | succ k ih =>
        obtain ⟨m, hm, rfl, hinner⟩ := h
        exact .of_dependencies hm fun d hd hhas => ih (hinner d (mem_inner.mpr ⟨hd, hhas⟩))

/-- The names resolved are those derivable by chains of at most `k` metrics. -/
def Stage (aliases : Aliases) (metrics : List CalculatedMetric) (k : Nat) (done : List ResolvedMetric) : Prop :=
  ∀ name, name ∈ done.map ResolvedMetric.name ↔ DerivableIn aliases metrics k name

theorem Stage.append_round (hnodup : (metrics.map CalculatedMetric.name).Nodup) {k : Nat}
    {done : List ResolvedMetric} (h : Stage aliases metrics k done) :
    Stage aliases metrics (k + 1) (done ++ round aliases metrics done) := by
  intro name
  rw [mem_names_append_round hnodup, h name]
  simp only [satisfied_iff, h _]
  exact or_iff_right_of_imp DerivableIn.succ

/-- A round that resolves nothing leaves nothing derivable. -/
theorem Stage.derivable_of_round_nil (hnodup : (metrics.map CalculatedMetric.name).Nodup) {k : Nat}
    {done : List ResolvedMetric} (h : Stage aliases metrics k done) (hround : round aliases metrics done = [])
    {name : String} : name ∈ done.map ResolvedMetric.name ↔ Derivable aliases metrics name := by
  constructor
  · intro hname
    exact derivable_iff_exists.mpr ⟨k, (h name).mp hname⟩
  · intro hname
    induction hname with
    | @of_dependencies m hm _ ih =>
        have hsatisfied : m.satisfied aliases (done.map ResolvedMetric.name) = true :=
          satisfied_iff.mpr fun d hd => ih d (mem_inner.mp hd).1 (mem_inner.mp hd).2
        have hnext := (mem_names_append_round hnodup).mpr (.inr ⟨m, hm, rfl, hsatisfied⟩)
        rwa [hround, List.append_nil] at hnext

/-! ### Ranks -/

theorem foldr_max_le_iff {ns : List Nat} {k : Nat} : ns.foldr max 0 ≤ k ↔ ∀ n ∈ ns, n ≤ k := by
  induction ns with
  | nil => simp
  | cons n ns ih => rw [List.foldr_cons, Nat.max_le, ih, List.forall_mem_cons]

/-- The rank of a derivable name is the least length of chains that derive it. -/
theorem IsRank.derivableIn_iff {rank : String → Nat} (hrank : IsRank aliases metrics rank) {k : Nat}
    {name : String} : DerivableIn aliases metrics k name ↔ Derivable aliases metrics name ∧ rank name ≤ k := by
  induction k generalizing name with
  | zero =>
      constructor
      · exact False.elim
      · rintro ⟨⟨hm, hdependencies⟩, hle⟩
        have heq := hrank _ hm (.of_dependencies hm hdependencies)
        omega
  | succ k ih =>
      constructor
      · intro h
        have hderivable := derivable_iff_exists.mpr ⟨_, h⟩
        obtain ⟨m, hm, rfl, hinner⟩ := h
        have hle : ((m.inner aliases).map rank).foldr max 0 ≤ k := by
          rw [foldr_max_le_iff, List.forall_mem_map]
          exact fun d hd => (ih.mp (hinner d hd)).2
        have heq := hrank m hm hderivable
        exact ⟨hderivable, by omega⟩
      · rintro ⟨@⟨m, hm, hdependencies⟩, hle⟩
        have heq := hrank m hm (.of_dependencies hm hdependencies)
        have hle' : ((m.inner aliases).map rank).foldr max 0 ≤ k := by omega
        rw [foldr_max_le_iff, List.forall_mem_map] at hle'
        refine ⟨m, hm, rfl, ?_⟩
        intro d hd
        exact ih.mpr ⟨hdependencies d (mem_inner.mp hd).1 (mem_inner.mp hd).2, hle' d hd⟩

/-- Where names are given once, a name is derived by the metric that has it. -/
theorem derivableIn_succ_iff (hnodup : (metrics.map CalculatedMetric.name).Nodup) {m : CalculatedMetric}
    (hm : m ∈ metrics) {k : Nat} : DerivableIn aliases metrics (k + 1) m.name ↔
      ∀ d ∈ m.inner aliases, DerivableIn aliases metrics k d := by
  constructor
  · rintro ⟨m', hm', hname, hinner⟩
    rwa [List.inj_on_of_nodup_map hnodup hm' hm hname] at hinner
  · intro hinner
    exact ⟨m, hm, rfl, hinner⟩

/-- The least length of chains is a rank. -/
theorem isRank_of_derivableIn_iff (hnodup : (metrics.map CalculatedMetric.name).Nodup) {rank : String → Nat}
    (hrank : ∀ k name, DerivableIn aliases metrics k name ↔ Derivable aliases metrics name ∧ rank name ≤ k) :
    IsRank aliases metrics rank := by
  intro m hm hderivable
  have hinner : ∀ d ∈ m.inner aliases, Derivable aliases metrics d := by
    obtain ⟨k, hk⟩ := derivable_iff_exists.mp hderivable
    intro d hd
    exact derivable_iff_exists.mpr ⟨k, (derivableIn_succ_iff hnodup hm).mp hk.succ d hd⟩
  apply eq_of_forall_ge_iff
  intro k
  cases k with
  | zero =>
      have hzero := hrank 0 m.name
      simp only [DerivableIn, hderivable, true_and, false_iff] at hzero
      omega
  | succ k =>
      have hbelow : rank m.name ≤ k + 1 ↔ ∀ d ∈ m.inner aliases, rank d ≤ k := by
        have hsucc := hrank (k + 1) m.name
        rw [derivableIn_succ_iff hnodup hm, and_iff_right hderivable] at hsucc
        rw [← hsucc]
        exact forall₂_congr fun d hd => (hrank k d).trans (and_iff_right (hinner d hd))
      have hmax : ((m.inner aliases).map rank).foldr max 0 ≤ k ↔ ∀ d ∈ m.inner aliases, rank d ≤ k := by
        rw [foldr_max_le_iff, List.forall_mem_map]
      rw [hbelow, ← hmax]
      omega

/-- Where names are given once, there is a rank. -/
theorem exists_isRank (hnodup : (metrics.map CalculatedMetric.name).Nodup) (aliases : Aliases) :
    ∃ rank, IsRank aliases metrics rank := by
  classical
  refine ⟨fun name => if h : ∃ k, DerivableIn aliases metrics k name then Nat.find h else 0, ?_⟩
  apply isRank_of_derivableIn_iff hnodup
  intro k name
  rw [derivable_iff_exists]
  constructor
  · intro h
    have hexists : ∃ k, DerivableIn aliases metrics k name := ⟨k, h⟩
    rw [dif_pos hexists]
    exact ⟨hexists, Nat.find_min' hexists h⟩
  · rintro ⟨hexists, hle⟩
    rw [dif_pos hexists] at hle
    exact (Nat.find_spec hexists).mono hle

/-! ### The order of resolution -/

/-- What a round resolves comes behind all that was resolved before, as it is declared. -/
theorem Stage.pairwise_append_round (hnodup : (metrics.map CalculatedMetric.name).Nodup) {k : Nat}
    {done : List ResolvedMetric} (h : Stage aliases metrics k done) {rank : String → Nat}
    (hrank : IsRank aliases metrics rank) (hordered : done.Pairwise (Precedes metrics rank)) :
    (done ++ round aliases metrics done).Pairwise (Precedes metrics rank) := by
  have hbefore : ∀ a ∈ done, rank a.name ≤ k := by
    intro a ha
    exact (hrank.derivableIn_iff.mp ((h a.name).mp (List.mem_map_of_mem ha))).2
  have hround : ∀ b ∈ round aliases metrics done, rank b.name = k + 1 := by
    intro b hb
    have hname := List.mem_map_of_mem (f := ResolvedMetric.name) hb
    have hin := (h.append_round hnodup b.name).mp (by rw [List.map_append]; exact List.mem_append_right _ hname)
    have hout := (mem_names_round hnodup).mp hname |>.1
    obtain ⟨hderivable, hle⟩ := hrank.derivableIn_iff.mp hin
    rw [h b.name, hrank.derivableIn_iff, and_iff_right hderivable] at hout
    omega
  rw [List.pairwise_append]
  refine ⟨hordered, ?_, ?_⟩
  · have hdeclared : (round aliases metrics done).Pairwise fun a b =>
        [a.name, b.name].Sublist (metrics.map CalculatedMetric.name) := by
      rw [← List.pairwise_map (f := ResolvedMetric.name)
        (R := fun a b => [a, b].Sublist (metrics.map CalculatedMetric.name)), List.pairwise_iff_forall_sublist]
      intro a b hsub
      exact hsub.trans (names_round_sublist hnodup done)
    refine hdeclared.imp_of_mem ?_
    intro a b ha hb hsub
    exact .inr ⟨(hround a ha).trans (hround b hb).symm, hsub⟩
  · intro a ha b hb
    have hle := hbefore a ha
    have heq := hround b hb
    exact .inl (by omega)

theorem Rounds.result (hnodup : (metrics.map CalculatedMetric.name).Nodup) {k : Nat}
    {done result : List ResolvedMetric} (h : Rounds aliases metrics done result)
    (hstage : Stage aliases metrics k done) (hunrepeated : Unrepeated metrics done)
    (hordered : ∀ rank, IsRank aliases metrics rank → done.Pairwise (Precedes metrics rank)) :
    (∀ name, name ∈ result.map ResolvedMetric.name ↔ Derivable aliases metrics name) ∧
      Unrepeated metrics result ∧
      ∀ rank, IsRank aliases metrics rank → result.Pairwise (Precedes metrics rank) := by
  induction h generalizing k with
  | stop hround => exact ⟨fun name => hstage.derivable_of_round_nil hnodup hround, hunrepeated, hordered⟩
  | next _ _ ih =>
      exact ih (hstage.append_round hnodup) (hunrepeated.append_round hnodup)
        fun rank hrank => hstage.pairwise_append_round hnodup hrank (hordered rank hrank)

/-! ### The least fixed point -/

/-- What is derivable stays derivable with more metrics. -/
theorem Derivable.of_subset {metrics' : List CalculatedMetric} (hsubset : metrics ⊆ metrics') {name : String}
    (h : Derivable aliases metrics name) : Derivable aliases metrics' name := by
  induction h with
  | of_dependencies hm _ ih => exact .of_dependencies (hsubset hm) ih

/-- `output` is what rounds end with, which are all derivable metrics, each once, behind those that it rests
on, by rank and then as declared. -/
structure Resolution (aliases : Aliases) (metrics : List CalculatedMetric) (output : List ResolvedMetric) :
    Prop where
  reached : Rounds aliases metrics [] output
  derivable : ∀ e, e ∈ output ↔ ∃ m ∈ metrics, Derivable aliases metrics m.name ∧ e = m.resolve aliases
  once : (output.map ResolvedMetric.name).Nodup
  founded : ∀ before e after, output = before ++ e :: after →
    ∃ m ∈ metrics, e = m.resolve aliases ∧
      ∀ name ∈ m.dependencies, aliases.has name = false → name ∈ before.map ResolvedMetric.name
  ranked : ∃ rank, IsRank aliases metrics rank
  ordered : ∀ rank, IsRank aliases metrics rank → output.Pairwise (Precedes metrics rank)

theorem resolution_resolveAll (hnodup : (metrics.map CalculatedMetric.name).Nodup) (aliases : Aliases) :
    Resolution aliases metrics (resolveAll aliases metrics) := by
  have hreached : Rounds aliases metrics [] (resolveAll aliases metrics) := rounds_resolveAll hnodup
  have hstage : Stage aliases metrics 0 [] := by
    intro name
    simp [DerivableIn]
  obtain ⟨hderivable, hunrepeated, hordered⟩ := hreached.result hnodup hstage .nil fun _ _ => .nil
  refine ⟨hreached, ?_, hunrepeated.nodup, ?_, exists_isRank hnodup aliases, hordered⟩
  · intro e
    constructor
    · intro he
      obtain ⟨_, _, _, m, hm, rfl, _⟩ := founded_resolveAll.of_mem he
      exact ⟨m, hm, (hderivable m.name).mp (List.mem_map_of_mem he), rfl⟩
    · rintro ⟨m, hm, hname, rfl⟩
      obtain ⟨e, he, heq⟩ := List.mem_map.mp ((hderivable m.name).mpr hname)
      obtain ⟨_, _, _, m', hm', rfl, _⟩ := founded_resolveAll.of_mem he
      rwa [List.inj_on_of_nodup_map hnodup hm' hm heq] at he
  · intro before e after hsplit
    obtain ⟨m, hm, rfl, hsatisfied⟩ := founded_resolveAll before e after hsplit
    refine ⟨m, hm, rfl, ?_⟩
    intro name hname hhas
    exact satisfied_iff.mp hsatisfied name (mem_inner.mpr ⟨hname, hhas⟩)

/-- The order of declaration decides nothing but the order of the output. -/
theorem resolveAll_perm (hnodup : (metrics.map CalculatedMetric.name).Nodup)
    {metrics' : List CalculatedMetric} (hperm : metrics.Perm metrics') :
    (resolveAll aliases metrics).Perm (resolveAll aliases metrics') := by
  have hnodup' : (metrics'.map CalculatedMetric.name).Nodup := (hperm.map _).nodup_iff.mp hnodup
  have h := resolution_resolveAll hnodup aliases
  have h' := resolution_resolveAll hnodup' aliases
  rw [List.perm_ext_iff_of_nodup h.once.of_map h'.once.of_map]
  intro e
  rw [h.derivable, h'.derivable]
  refine exists_congr fun m => and_congr hperm.mem_iff (and_congr_left fun _ => ?_)
  exact ⟨.of_subset hperm.subset, .of_subset hperm.symm.subset⟩

/-- Where names are given once, resolution gives what can be derived, by rank and as declared; in any order
of declaration it gives the same, and the same names for all references to the same names, whichever tables
are skipped. -/
theorem resolveAll_least (metrics : List CalculatedMetric) (aliases : Aliases)
    (hnodup : (metrics.map CalculatedMetric.name).Nodup) :
    Resolution aliases metrics (resolveAll aliases metrics) ∧
    (∀ metrics', metrics.Perm metrics' → (resolveAll aliases metrics).Perm (resolveAll aliases metrics')) ∧
    (∀ aliases' : Aliases, (∀ name, aliases.has name = aliases'.has name) →
      (resolveAll aliases metrics).map ResolvedMetric.name =
        (resolveAll aliases' metrics).map ResolvedMetric.name) ∧
    ∀ (groups : TableMetrics) (skipped skipped' : List String),
      (resolveAll (Aliases.ofMetrics skipped groups) metrics).map ResolvedMetric.name =
        (resolveAll (Aliases.ofMetrics skipped' groups) metrics).map ResolvedMetric.name := by
  refine ⟨resolution_resolveAll hnodup aliases, fun _ => resolveAll_perm hnodup,
    fun _ => names_resolveAll_congr metrics, ?_⟩
  intro groups skipped skipped'
  exact names_resolveAll_congr metrics (Aliases.has_ofMetrics_congr skipped skipped' groups)

section

open Registry Registry.Builtin

/-- Two metrics that refer to each other. -/
def circular : List CalculatedMetric :=
  [percentage "ahead" "behind" "sales", percentage "behind" "ahead" "sales"]

/-- The unit margin is declared before the unit price that it rests on and comes last; metrics that refer to
each other are left out. -/
theorem resolveAll_least_builtin :
    let aliases := Aliases.ofMetrics ["inventory"] (TableMetrics.ofMetrics Builtin.base)
    let metrics := circular ++ Builtin.calculated
    (metrics.map CalculatedMetric.name).Nodup ∧
    (resolveAll aliases metrics).map ResolvedMetric.name = ["gross_margin_pct", "avg_ticket",
      "avg_unit_price", "stock_turnover", "gmroi", "purchases_to_sales_pct", "avg_unit_margin"] ∧
    Resolution aliases metrics (resolveAll aliases metrics) ∧
    (resolveAll aliases metrics).Perm (resolveAll aliases metrics.reverse) := by
  have hnodup : ((circular ++ Builtin.calculated).map CalculatedMetric.name).Nodup := by decide +kernel
  obtain ⟨hresolution, hperm, -, -⟩ := resolveAll_least (circular ++ Builtin.calculated)
    (Aliases.ofMetrics ["inventory"] (TableMetrics.ofMetrics Builtin.base)) hnodup
  exact ⟨hnodup, by decide +kernel, hresolution, hperm _ (List.reverse_perm _).symm⟩

end
end BalanceSheet.CalculatedMetric
