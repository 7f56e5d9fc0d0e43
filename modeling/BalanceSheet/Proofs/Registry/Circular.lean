import BalanceSheet.Proofs.Registry.Lost
import Mathlib.Data.Finite.Defs
import Mathlib.Data.Set.Finite.Lemmas
import Mathlib.Order.RelClasses

/-!
What is reported as circular. A calculated metric can be derived where everything that it rests on is known and
nothing of it rests on itself. So one whose own dependencies are known and that is reported all the same rests on
a cycle, or else on a metric with an unknown dependency, which is reported for it, and then there need be no cycle.
-/

namespace BalanceSheet

open CalculatedMetric Relation

namespace Registry

variable {r : Registry} {m : CalculatedMetric} {name other : String}

/-- The first calculated metric declares the second one as a dependency. -/
def DependsOn (r : Registry) (name other : String) : Prop :=
  ∃ m ∈ r.calculated, m.name = name ∧ other ∈ m.dependencies ∧ other ∈ r.calculated.map CalculatedMetric.name

instance (r : Registry) (name other : String) : Decidable (r.DependsOn name other) :=
  inferInstanceAs (Decidable (∃ m ∈ r.calculated, _))

/-- The second name is the first one, or dependencies lead to it. -/
def Reaches (r : Registry) : String → String → Prop := ReflTransGen r.DependsOn

/-- Dependencies lead from the metric back to it. -/
def OnCycle (r : Registry) (name : String) : Prop := TransGen r.DependsOn name name

/-- The metric lies on a cycle, or its dependencies lead to one. -/
def ReachesCycle (r : Registry) (name : String) : Prop := ∃ other, r.Reaches name other ∧ r.OnCycle other

/-! ### One dependency -/

theorem WellFormed.not_has_calculated (hr : r.WellFormed) (h : name ∈ r.calculated.map CalculatedMetric.name) :
    r.allAliases.has name = false := by
  obtain ⟨m, hm, rfl⟩ := List.mem_map.mp h
  rw [← Bool.not_eq_true, has_allAliases]
  rintro ⟨b, hb, hname⟩
  have htaken : m.name ∈ fieldsTaken b := by
    rcases hname with hname | hname <;> simp [hname, fieldsTaken]
  exact hr.taken_ne_calculated hb htaken h

/-- Names are given once, so a metric depends on what it declares itself. -/
theorem WellFormed.dependsOn_iff (hr : r.WellFormed) (hm : m ∈ r.calculated) :
    r.DependsOn m.name other ↔
      other ∈ m.dependencies ∧ other ∈ r.calculated.map CalculatedMetric.name := by
  constructor
  · rintro ⟨m', hm', hname, hother⟩
    obtain rfl := List.inj_on_of_nodup_map hr.calculatedNames hm' hm hname
    exact hother
  · intro hother
    exact ⟨m, hm, rfl, hother⟩

/-- A metric can be derived where its dependencies are known and those that are calculated can be. -/
theorem WellFormed.derivable_iff (hr : r.WellFormed) (hm : m ∈ r.calculated) :
    Derivable r.allAliases r.calculated m.name ↔
      ¬ r.ReportsMissing m.name ∧
        ∀ other, r.DependsOn m.name other → Derivable r.allAliases r.calculated other := by
  constructor
  · intro h
    constructor
    · intro hmissing
      exact (hr.reportsLost_iff hm).mp (.inl hmissing) h
    · intro other hother
      obtain ⟨hmem, hcalculated⟩ := (hr.dependsOn_iff hm).mp hother
      refine (h.dependencies hr.calculatedNames hm other hmem).resolve_left ?_
      rw [hr.not_has_calculated hcalculated]
      exact Bool.false_ne_true
  · rintro ⟨hmissing, hdependencies⟩
    refine .of_dependencies hm fun d hd hfree => hdependencies d ((hr.dependsOn_iff hm).mpr ⟨hd, ?_⟩)
    have hknown : d ∈ r.knownMetrics := by
      by_contra hunknown
      exact hmissing ⟨d, missingDependency_mem_diagnose.mpr ⟨m, hm, rfl, hd, hunknown⟩⟩
    rw [mem_knownMetrics, hfree] at hknown
    exact hknown.resolve_left Bool.false_ne_true

theorem DependsOn.mem_names (h : r.DependsOn name other) : name ∈ r.calculated.map CalculatedMetric.name := by
  obtain ⟨m, hm, rfl, -⟩ := h
  exact List.mem_map_of_mem hm

theorem Reaches.mem_names (h : r.Reaches name other) (hname : name ∈ r.calculated.map CalculatedMetric.name) :
    other ∈ r.calculated.map CalculatedMetric.name := by
  induction h with
  | refl => exact hname
  | tail _ hlast _ =>
      obtain ⟨m, -, -, -, hother⟩ := hlast
      exact hother

/-! ### Chains of dependencies -/

/-- What a derivable metric rests on is derivable. -/
theorem Reaches.derivable (hr : r.WellFormed) (h : r.Reaches name other)
    (hname : Derivable r.allAliases r.calculated name) : Derivable r.allAliases r.calculated other := by
  induction h with
  | refl => exact hname
  | tail _ hlast ih =>
      obtain ⟨m, hm, rfl⟩ := List.mem_map.mp hlast.mem_names
      exact ((hr.derivable_iff hm).mp ih).2 _ hlast

/-- No derivable metric lies on a cycle: with it the next one would, which is derived before. -/
theorem WellFormed.not_onCycle (hr : r.WellFormed) (h : Derivable r.allAliases r.calculated name) :
    ¬ r.OnCycle name := by
  induction h with
  | of_dependencies hm _ ih =>
      intro hcycle
      obtain ⟨next, hnext, hback⟩ := TransGen.head'_iff.mp hcycle
      obtain ⟨hmem, hcalculated⟩ := (hr.dependsOn_iff hm).mp hnext
      exact ih next hmem (hr.not_has_calculated hcalculated) (TransGen.tail' hback hnext)

/-- The names that a metric reaches are finitely many, so without a cycle there is an order in which each comes
after those that it reaches itself. -/
theorem wellFounded_of_acyclic (hname : name ∈ r.calculated.map CalculatedMetric.name)
    (hacyclic : ∀ other, r.Reaches name other → ¬ r.OnCycle other) :
    WellFounded fun next other : {other // r.Reaches name other} => TransGen r.DependsOn other.1 next.1 := by
  have hfinite : {other | r.Reaches name other}.Finite :=
    (List.finite_toSet (r.calculated.map CalculatedMetric.name)).subset fun _ hother => Reaches.mem_names hother hname
  have : Finite {other // r.Reaches name other} := hfinite.to_subtype
  have : IsTrans {other // r.Reaches name other} fun next other => TransGen r.DependsOn other.1 next.1 :=
    ⟨fun _ _ _ hnext hother => hother.trans hnext⟩
  have : Std.Irrefl fun next other : {other // r.Reaches name other} => TransGen r.DependsOn other.1 next.1 :=
    ⟨fun other => hacyclic other.1 other.2⟩
  exact Finite.wellFounded_of_trans_of_irrefl _

/-- A metric can be derived that rests neither on a cycle nor on an unknown dependency. -/
theorem WellFormed.derivable_of_reaches (hr : r.WellFormed) (hname : name ∈ r.calculated.map CalculatedMetric.name)
    (hacyclic : ∀ other, r.Reaches name other → ¬ r.OnCycle other)
    (hknown : ∀ other, r.Reaches name other → ¬ r.ReportsMissing other) :
    Derivable r.allAliases r.calculated name := by
  suffices hall : ∀ other : {other // r.Reaches name other}, Derivable r.allAliases r.calculated other.1 from
    hall ⟨name, .refl⟩
  intro other
  induction other using (wellFounded_of_acyclic hname hacyclic).induction with
  | _ other ih =>
      obtain ⟨m, hm, hother⟩ := List.mem_map.mp (Reaches.mem_names other.2 hname)
      rw [← hother, hr.derivable_iff hm, hother]
      refine ⟨hknown other.1 other.2, fun next hnext => ?_⟩
      exact ih ⟨next, other.2.tail hnext⟩ (.single hnext)

theorem WellFormed.not_derivable_iff (hr : r.WellFormed) (hname : name ∈ r.calculated.map CalculatedMetric.name) :
    ¬ Derivable r.allAliases r.calculated name ↔
      r.ReachesCycle name ∨ ∃ other, r.Reaches name other ∧ r.ReportsMissing other := by
  constructor
  · intro hlost
    by_contra hneither
    rw [not_or] at hneither
    refine hlost (hr.derivable_of_reaches hname ?_ ?_)
    · exact fun other hother hcycle => hneither.1 ⟨other, hother, hcycle⟩
    · exact fun other hother hmissing => hneither.2 ⟨other, hother, hmissing⟩
  · rintro (⟨other, hother, hcycle⟩ | ⟨other, hother, hmissing⟩) hderivable
    · exact hr.not_onCycle (Reaches.derivable hr hother hderivable) hcycle
    · obtain ⟨m, hm, rfl⟩ := List.mem_map.mp (Reaches.mem_names hother hname)
      exact ((hr.derivable_iff hm).mp (Reaches.derivable hr hother hderivable)).1 hmissing

/-- What is reported as unresolvable are the lost metrics that miss no dependency of their own. -/
theorem WellFormed.reportsUnresolvable_iff_not_derivable (hr : r.WellFormed) (hm : m ∈ r.calculated) :
    r.ReportsUnresolvable m.name ↔
      ¬ r.ReportsMissing m.name ∧ ¬ Derivable r.allAliases r.calculated m.name := by
  rw [← hr.reportsLost_iff hm, ReportsLost]
  have hone : ¬ (r.ReportsMissing m.name ∧ r.ReportsUnresolvable m.name) := hr.not_reportsMissing_and_unresolvable
  tauto

end Registry

open Registry Registry.Builtin

/-- A metric is reported as circular if its own dependencies are known and it reaches a cycle, or a metric that has
an unknown dependency. Only where it reaches none of the latter is it a cycle that is reported. -/
theorem Registry.unresolvable_iff_reaches {tables : List Table} {base : List BaseMetric}
    {calculated : List CalculatedMetric} {dimensions : List Dimension} {r : Registry}
    (hr : build tables base calculated dimensions = .ok r) {m : CalculatedMetric} (hm : m ∈ r.calculated) :
    (r.ReportsUnresolvable m.name ↔ ¬ r.ReportsMissing m.name ∧
      (r.ReachesCycle m.name ∨ ∃ other, r.Reaches m.name other ∧ r.ReportsMissing other)) ∧
    ((∀ other, r.Reaches m.name other → ¬ r.ReportsMissing other) →
      (r.ReportsUnresolvable m.name ↔ r.ReachesCycle m.name)) := by
  have hwell : r.WellFormed := wellFormed_of_build hr
  rw [hwell.reportsUnresolvable_iff_not_derivable hm, hwell.not_derivable_iff (List.mem_map_of_mem hm)]
  refine ⟨Iff.rfl, fun hknown => ?_⟩
  have hnone : ¬ ∃ other, r.Reaches m.name other ∧ r.ReportsMissing other :=
    fun ⟨other, hother, hmissing⟩ => hknown other hother hmissing
  rw [or_iff_left hnone]
  exact and_iff_right (hknown m.name .refl)

/-- Two metrics that refer to each other are a cycle, and a metric that rests on one of them is reported. -/
theorem Registry.unresolvable_gapped :
    build gapped.tables gapped.base gapped.calculated gapped.dimensions = .ok gapped ∧
    ratio "beyond" "ahead" "sales" ∈ gapped.calculated ∧ ¬ gapped.ReportsMissing "beyond" ∧
    gapped.ReachesCycle "beyond" ∧ gapped.ReportsUnresolvable "beyond" := by
  have hbuild : build gapped.tables gapped.base gapped.calculated gapped.dimensions = .ok gapped :=
    build_of_validate (by decide +kernel)
  have hmem : ratio "beyond" "ahead" "sales" ∈ gapped.calculated := by decide
  have hmissing : ¬ gapped.ReportsMissing "beyond" := by
    rintro ⟨d, hmissing⟩
    obtain ⟨m, hm, hname, hd, hunknown⟩ := missingDependency_mem_diagnose.mp hmissing
    have hknown : ∀ m ∈ gapped.calculated, m.name = "beyond" →
        ∀ d ∈ m.dependencies, d ∈ gapped.knownMetrics := by decide +kernel
    exact hunknown (hknown m hm hname d hd)
  have hdepends : gapped.DependsOn "beyond" "ahead" ∧ gapped.DependsOn "ahead" "behind" ∧
      gapped.DependsOn "behind" "ahead" := by decide +kernel
  obtain ⟨hbeyond, hahead, hbehind⟩ := hdepends
  have hcycle : gapped.ReachesCycle "beyond" := ⟨"ahead", .single hbeyond, .head hahead (.single hbehind)⟩
  exact ⟨hbuild, hmem, hmissing, hcycle, (unresolvable_iff_reaches hbuild hmem).1.mpr ⟨hmissing, .inl hcycle⟩⟩

/-- A metric with an unknown dependency, and one that rests on it. -/
def Registry.dangling : Registry :=
  ⟨[⟨"sales", "date", [⟨"date", .date⟩, ⟨"amount", .float64⟩]⟩], [⟨"sales", "amount", .sum, "total"⟩],
    [ratio "return_rate" "returns" "total", ⟨"doubled_rate", ["return_rate"], "\x7breturn_rate\x7d * 2"⟩], []⟩

/-- The second one is reported as circular, and nothing leads to a cycle. -/
theorem Registry.unresolvable_dangling :
    build dangling.tables dangling.base dangling.calculated dangling.dimensions = .ok dangling ∧
    dangling.ReportsUnresolvable "doubled_rate" ∧
    Gap.message (.unresolvable "doubled_rate") =
      "calculated metric 'doubled_rate' has a circular dependency and will be omitted" ∧
    ∀ name, ¬ dangling.ReachesCycle name := by
  have honly : ∀ m ∈ dangling.calculated, ∀ d ∈ m.dependencies,
      d ∈ dangling.calculated.map CalculatedMetric.name → m.name = "doubled_rate" ∧ d = "return_rate" := by
    decide +kernel
  have hreported : .unresolvable "doubled_rate" ∈ dangling.diagnose := by decide +kernel
  refine ⟨build_of_validate (by decide +kernel), hreported, by decide +kernel, fun _ hreaches => ?_⟩
  obtain ⟨name, -, hcycle⟩ := hreaches
  obtain ⟨next, ⟨m, hm, hfirst, hd, hcalculated⟩, -⟩ := TransGen.head'_iff.mp hcycle
  obtain ⟨last, -, ⟨m', hm', -, hd', hcalculated'⟩⟩ := TransGen.tail'_iff.mp hcycle
  -- A chain of dependencies that starts with the second metric ends with the first one.
  have hstart : name = "doubled_rate" := hfirst ▸ (honly m hm next hd hcalculated).1
  have hend : name = "return_rate" := (honly m' hm' name hd' hcalculated').2
  exact absurd (hstart.symm.trans hend) (by decide)

end BalanceSheet
