import BalanceSheet.Proofs.Formula.Leftover
import BalanceSheet.Proofs.Query.Output
import BalanceSheet.Proofs.Registry.Lost
import BalanceSheet.Proofs.Registry.Names

/-!
What a registry without gaps leaves in its formulas. Every calculated metric of it is resolved. A placeholder for
something undeclared stays in the expression, and the diagnosis, which reads braces from left to right, misses it
behind a brace that is open; besides these only what comes together from a nested placeholder can be left. So
nothing is left of formulas in which no brace opens within another.
-/

namespace BalanceSheet

open Text CalculatedMetric

namespace Registry

variable {r : Registry} {m : CalculatedMetric} {name : String}

/-! ### No gaps -/

theorem mem_formulaPlaceholders_iff {formula : String} : name ∈ formulaPlaceholders formula ↔
    isIdentifier name = true ∧ OpensPart formula.toList name.toList := by
  simp only [formulaPlaceholders, List.mem_eraseDups, List.mem_map, List.mem_filter, mem_braced_iff]
  constructor
  · rintro ⟨inside, ⟨hopens, hvalid⟩, rfl⟩
    rw [isIdentifier, String.toList_ofList]
    exact ⟨hvalid, hopens⟩
  · rintro ⟨hvalid, hopens⟩
    exact ⟨name.toList, ⟨hopens, hvalid⟩, String.ofList_toList⟩

/-- Without gaps, formulas and dependencies match. -/
theorem declared_of_clean (hclean : r.diagnose = []) (hm : m ∈ r.calculated) :
    (∀ d ∈ m.dependencies, d ∈ r.knownMetrics) ∧
      ∀ name ∈ formulaPlaceholders m.formula, name ∈ m.dependencies := by
  rw [diagnose, List.append_eq_nil_iff, List.flatMap_eq_nil_iff] at hclean
  have hgaps := hclean.1 m hm
  rw [declarationGaps, List.append_eq_nil_iff, List.flatMap_eq_nil_iff, List.map_eq_nil_iff,
    List.filter_eq_nil_iff] at hgaps
  constructor
  · intro d hd
    by_contra hunknown
    have hgap : .missingDependency m.name d ∈ r.dependencyGaps m d :=
      missingDependency_mem_dependencyGaps.mpr ⟨rfl, rfl, hunknown⟩
    rw [hgaps.1 d hd] at hgap
    cases hgap
  · intro name hname
    simpa using hgaps.2 name hname

/-- Without gaps, everything is resolved. -/
theorem resolved_of_clean (hr : r.WellFormed) (hclean : r.diagnose = []) :
    (resolveAll r.allAliases r.calculated).Perm (r.calculated.map (resolve r.allAliases)) := by
  have hresolution := resolution_resolveAll hr.calculatedNames r.allAliases
  have hnodup : (r.calculated.map (resolve r.allAliases)).Nodup := by
    refine List.Nodup.of_map ResolvedMetric.name ?_
    rw [List.map_map]
    exact hr.calculatedNames
  rw [List.perm_ext_iff_of_nodup hresolution.once.of_map hnodup]
  intro e
  rw [hresolution.derivable, List.mem_map]
  refine exists_congr fun m => and_congr_right fun hm => ?_
  have hderivable : Derivable r.allAliases r.calculated m.name := by
    by_contra hlost
    rcases (hr.reportsLost_iff hm).mpr hlost with ⟨d, hmissing⟩ | hunresolvable
    · rw [hclean] at hmissing
      cases hmissing
    · rw [ReportsUnresolvable, hclean] at hunresolvable
      cases hunresolvable
  rw [and_iff_right hderivable]
  exact eq_comm

/-! ### Names in place of placeholders -/

/-- The placeholder of another calculated metric stands behind a brace that is open in a word. -/
def Nests (r : Registry) (m : CalculatedMetric) : Prop :=
  ∃ d ∈ m.dependencies, d ∈ r.calculated.map CalculatedMetric.name ∧ Nested d m.formula

theorem WellFormed.isWord_known (hr : r.WellFormed) (h : name ∈ r.knownMetrics) : IsWord name.toList := by
  rw [mem_knownMetrics, has_allAliases, List.mem_map] at h
  rcases h with ⟨b, hb, rfl | rfl⟩ | ⟨m, hm, rfl⟩
  · exact isPart_of_isIdentifier (hr.base b hb).name
  · exact (hr.base b hb).isPart_lastYearField
  · exact isPart_of_isIdentifier (hr.calculated m hm).1

/-- A name with a reference refers to a column of a source: a text without braces that is no word. -/
theorem WellFormed.reference_of_has (hr : r.WellFormed) (h : r.allAliases.has name = true) :
    Unbraced (r.allAliases.reference name).text.toList ∧ ¬ IsWord (r.allAliases.reference name).text.toList := by
  obtain ⟨b, hb, ⟨-, period, hreference⟩ | ⟨hskipped, -⟩⟩ := Aliases.reference_cases h
  · have hb : b.WellFormed r := hr.base b (TableMetrics.mem_metrics_ofMetrics.mp hb)
    obtain ⟨t, ht, -⟩ := hb.field
    have htable : IsWord b.table.toList := isPart_of_isIdentifier (hr.isIdentifier_table ht)
    have hname : IsWord b.name.toList := isPart_of_isIdentifier hb.name
    have hsource : IsWord (Source.nameOf b.table period).toList := by
      cases period <;> simp +decide [Source.nameOf, currentSource, previousSource, htable]
    have hcolumn : IsWord (Source.metricColumn period b).toList := by
      cases period <;> simp +decide [Source.metricColumn, BaseMetric.previousColumn, hname]
    obtain ⟨hsourceOpening, hsourceClosing⟩ := unbraced_of_isPart hsource
    obtain ⟨hcolumnOpening, hcolumnClosing⟩ := unbraced_of_isPart hcolumn
    rw [allAliases, hreference, Reference.text, String.toList_append, String.toList_append]
    constructor
    · simp [Unbraced, hsourceOpening, hsourceClosing, hcolumnOpening, hcolumnClosing]
    · intro hword
      exact absurd (hword '.' (by simp)) (by decide)
  · cases hskipped

/-- A name that is known can be spliced in, and unless it is that of a calculated metric, what it refers to is
no word. -/
theorem WellFormed.spliceable_known (hr : r.WellFormed) (h : name ∈ r.knownMetrics) :
    Spliceable r.allAliases name ∧ (IsWord (r.allAliases.reference name).text.toList →
      name ∈ r.calculated.map CalculatedMetric.name) := by
  have hname := hr.isWord_known h
  by_cases hhas : r.allAliases.has name = true
  · obtain ⟨hunbraced, hcolumn⟩ := hr.reference_of_has hhas
    exact ⟨⟨hname, hunbraced⟩, fun hword => absurd hword hcolumn⟩
  · have hreference : r.allAliases.reference name = .output name := Aliases.reference_eq_output hhas
    rw [hreference]
    exact ⟨⟨hname, hreference ▸ unbraced_of_isPart hname⟩, fun _ => (mem_knownMetrics.mp h).resolve_left hhas⟩

/-! ### What is left -/

/-- Without a nest, what is left of a formula are the placeholders for what is not declared. -/
theorem WellFormed.holdsPlaceholder_iff (hr : r.WellFormed) (hknown : ∀ d ∈ m.dependencies, d ∈ r.knownMetrics)
    (hapart : ¬ r.Nests m) : HoldsPlaceholder (m.resolve r.allAliases).expr ↔ m.HasUndeclared := by
  refine exists_congr fun name => and_congr_right fun hname => ?_
  refine encloses_substitute_iff (fun d hd => (hr.spliceable_known (hknown d hd)).1) ?_
    (isPart_of_isIdentifier hname)
  intro d hd hword hnested
  exact hapart ⟨d, hd, (hr.spliceable_known (hknown d hd)).2 hword, hnested⟩

theorem WellFormed.holdsPlaceholder_of_hasUndeclared (hr : r.WellFormed)
    (hknown : ∀ d ∈ m.dependencies, d ∈ r.knownMetrics) (h : m.HasUndeclared) :
    HoldsPlaceholder (m.resolve r.allAliases).expr := by
  obtain ⟨name, hname, hencloses, hfree⟩ := h
  exact ⟨name, hname, encloses_substitute (fun d hd => hr.isWord_known (hknown d hd))
    (isPart_of_isIdentifier hname) hfree hencloses⟩

/-- In a formula without braces in braces, the diagnosis sees every placeholder. -/
theorem not_hasUndeclared_of_unnested (h : Unnested m.formula.toList)
    (hdeclared : ∀ name ∈ formulaPlaceholders m.formula, name ∈ m.dependencies) : ¬ m.HasUndeclared := by
  rintro ⟨name, hname, hencloses, hfree⟩
  refine hfree (hdeclared name (mem_formulaPlaceholders_iff.mpr ⟨hname, ?_⟩))
  exact h.opensPart_iff.mpr ⟨hencloses, unbraced_of_isIdentifier hname⟩

end Registry

open Registry Registry.Builtin

/-- A registry without gaps resolves all its calculated metrics. A placeholder is left where one is not
declared, which the diagnosis can miss, and otherwise only where one for a calculated metric is nested; so none
is left where no brace opens within another. -/
theorem Registry.leftover_of_clean {tables : List Table} {base : List BaseMetric}
    {calculated : List CalculatedMetric} {dimensions : List Dimension} {r : Registry}
    (hr : build tables base calculated dimensions = .ok r) (hclean : r.diagnose = []) :
    (resolveAll r.allAliases r.calculated).Perm (r.calculated.map (resolve r.allAliases)) ∧
    ∀ m ∈ r.calculated,
      (m.HasUndeclared → HoldsPlaceholder (m.resolve r.allAliases).expr) ∧
      (HoldsPlaceholder (m.resolve r.allAliases).expr → m.HasUndeclared ∨ r.Nests m) ∧
      (Unnested m.formula.toList → ¬ HoldsPlaceholder (m.resolve r.allAliases).expr) := by
  have hwell : r.WellFormed := wellFormed_of_build hr
  refine ⟨resolved_of_clean hwell hclean, fun m hm => ?_⟩
  obtain ⟨hknown, hdeclared⟩ := declared_of_clean hclean hm
  refine ⟨hwell.holdsPlaceholder_of_hasUndeclared hknown, fun hleft => ?_, fun hunnested hleft => ?_⟩
  · by_cases hnests : r.Nests m
    · exact .inr hnests
    · exact .inl ((hwell.holdsPlaceholder_iff hknown hnests).mp hleft)
  · have hapart : ¬ r.Nests m := fun ⟨d, _, _, hnested⟩ => not_nested_of_unnested hunnested hnested
    exact not_hasUndeclared_of_unnested hunnested hdeclared
      ((hwell.holdsPlaceholder_iff hknown hapart).mp hleft)

/-- The built-in formulas are unnested, and nothing is left of them. -/
theorem Registry.leftover_builtin :
    build Builtin.tables Builtin.base Builtin.calculated Builtin.dimensions = .ok builtin ∧
    builtin.diagnose = [] ∧
    (resolveAll builtin.allAliases builtin.calculated).Perm
      (builtin.calculated.map (resolve builtin.allAliases)) ∧
    ∀ m ∈ builtin.calculated, ¬ HoldsPlaceholder (m.resolve builtin.allAliases).expr := by
  have hclean : builtin.diagnose = [] := by decide +kernel
  have hunnested : ∀ m ∈ builtin.calculated, Unnested m.formula.toList := by decide +kernel
  obtain ⟨hresolved, hleft⟩ := leftover_of_clean build_builtin hclean
  exact ⟨build_builtin, hclean, hresolved, fun m hm => (hleft m hm).2.2 (hunnested m hm)⟩

/-- A metric that is not declared, behind a brace in a string, and a declared one in two pairs of braces. -/
def Registry.unfilled : Registry :=
  ⟨[⟨"sales", "date", [⟨"date", .date⟩, ⟨"amount", .float64⟩]⟩], [⟨"sales", "amount", .sum, "total"⟩],
    [⟨"label", [], "concat('\x7b', toString(\x7btotal\x7d))"⟩, ⟨"doubled", ["total"], "\x7btotal\x7d * 2"⟩,
      ⟨"nested", ["doubled"], "\x7b\x7bdoubled\x7d\x7d"⟩], []⟩

/-- It has no gaps, and both are left. -/
theorem Registry.leftover_unfilled :
    build unfilled.tables unfilled.base unfilled.calculated unfilled.dimensions = .ok unfilled ∧
    unfilled.diagnose = [] ∧
    (∃ e ∈ resolveAll unfilled.allAliases unfilled.calculated, e.name = "label" ∧ HoldsPlaceholder e.expr) ∧
    ∃ e ∈ resolveAll unfilled.allAliases unfilled.calculated, e.name = "nested" ∧ HoldsPlaceholder e.expr := by
  refine ⟨build_of_validate (by decide +kernel), by decide +kernel, ?_, ?_⟩
  · refine ⟨⟨"label", "concat('\x7b', toString(\x7btotal\x7d))"⟩, ?_, rfl, "total", ?_⟩ <;> decide +kernel
  · refine ⟨⟨"nested", "\x7bdoubled\x7d"⟩, ?_, rfl, "doubled", ?_⟩ <;> decide +kernel

end BalanceSheet
