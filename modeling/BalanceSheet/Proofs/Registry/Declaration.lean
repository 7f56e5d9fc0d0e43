import BalanceSheet.Proofs.Lists
import BalanceSheet.Proofs.Registry.Acceptance

/-!
Acceptance without an order. What a registry must satisfy speaks of the members of its lists and of names
that are given once, never of what was declared before what; so lists that are accepted are accepted in any
order.
-/

namespace BalanceSheet

/-- An identifier for an aggregate of a column of one of the tables. -/
structure BaseMetric.DeclaredOver (tables : List Table) (m : BaseMetric) : Prop where
  name : isIdentifier m.name = true
  field : ∃ t ∈ tables, t.name = m.table ∧ t.hasColumn m.field = true

/-- An identifier that is a bucket or a column of one of the tables, and whose keys have their names, if
any, in a table beside them. -/
structure Dimension.DeclaredOver (tables : List Table) (d : Dimension) : Prop where
  name : isIdentifier d.name = true
  column : d.bucket = none → ∃ t ∈ tables, t.hasColumn d.name = true
  nameColumn : ∀ c ∈ d.nameColumn,
    ∃ t ∈ tables, t.name = c.table ∧ t.hasColumn c.column = true ∧ t.hasColumn d.name = true

section

variable {tables tables' : List Table}

theorem BaseMetric.DeclaredOver.perm {m : BaseMetric} (h : m.DeclaredOver tables)
    (htables : tables.Perm tables') : m.DeclaredOver tables' := by
  obtain ⟨t, ht, hfield⟩ := h.field
  exact ⟨h.name, t, htables.mem_iff.mp ht, hfield⟩

theorem Dimension.DeclaredOver.perm {d : Dimension} (h : d.DeclaredOver tables)
    (htables : tables.Perm tables') : d.DeclaredOver tables' := by
  refine ⟨h.name, ?_, ?_⟩
  · intro hbucket
    obtain ⟨t, ht, hcolumn⟩ := h.column hbucket
    exact ⟨t, htables.mem_iff.mp ht, hcolumn⟩
  · intro c hc
    obtain ⟨t, ht, hcolumns⟩ := h.nameColumn c hc
    exact ⟨t, htables.mem_iff.mp ht, hcolumns⟩

end

namespace Registry

/-- Tables, metrics and dimensions are declared once and over each other. -/
structure Declared (r : Registry) : Prop where
  tables : ∀ t ∈ r.tables, t.WellFormed
  tableNames : (r.tables.map Table.name).Nodup
  base : ∀ m ∈ r.base, m.DeclaredOver r.tables
  fields : r.takenFields.Nodup
  unreserved : ∀ field ∈ r.takenFields, field ∉ reservedFields
  calculated : ∀ m ∈ r.calculated,
    isIdentifier m.name = true ∧ m.name ∉ r.takenFields ∧ m.name ∉ reservedFields
  calculatedNames : (r.calculated.map CalculatedMetric.name).Nodup
  dimensions : ∀ d ∈ r.dimensions, d.DeclaredOver r.tables
  dimensionNames : (r.dimensions.map Dimension.name).Nodup

/-- Where names are given once, the table of a name is the one that has it. -/
theorem table?_eq_some_iff {r : Registry} (h : (r.tables.map Table.name).Nodup) {name : String} {t : Table} :
    r.table? name = some t ↔ t ∈ r.tables ∧ t.name = name := by
  constructor
  · intro ht
    exact ⟨List.mem_of_find?_eq_some ht, by simpa using List.find?_some ht⟩
  · rintro ⟨ht, rfl⟩
    exact find?_key_eq_some h ht

theorem exists_table?_iff {r : Registry} (h : (r.tables.map Table.name).Nodup) {name : String}
    {P : Table → Prop} : (∃ t, r.table? name = some t ∧ P t) ↔ ∃ t ∈ r.tables, t.name = name ∧ P t := by
  simp only [table?_eq_some_iff h, and_assoc]

theorem wellFormed_iff_declared {r : Registry} : r.WellFormed ↔ r.Declared := by
  constructor
  · intro h
    refine ⟨h.tables, h.tableNames, ?_, h.fields, h.unreserved, h.calculated, h.calculatedNames, ?_,
      h.dimensionNames⟩
    · intro m hm
      exact ⟨(h.base m hm).name, (exists_table?_iff h.tableNames).mp (h.base m hm).field⟩
    · intro d hd
      obtain ⟨hname, hcolumn, hnames⟩ := h.dimensions d hd
      exact ⟨hname, hcolumn, fun c hc => (exists_table?_iff h.tableNames).mp (hnames c hc)⟩
  · intro h
    refine ⟨h.tables, h.tableNames, ?_, h.fields, h.unreserved, h.calculated, h.calculatedNames, ?_,
      h.dimensionNames⟩
    · intro m hm
      exact ⟨(h.base m hm).name, (exists_table?_iff h.tableNames).mpr (h.base m hm).field⟩
    · intro d hd
      obtain ⟨hname, hcolumn, hnames⟩ := h.dimensions d hd
      exact ⟨hname, hcolumn, fun c hc => (exists_table?_iff h.tableNames).mpr (hnames c hc)⟩

/-- A registry that is built has the lists that it is built from. -/
theorem build_ok_iff {tables : List Table} {base : List BaseMetric} {calculated : List CalculatedMetric}
    {dimensions : List Dimension} {r : Registry} :
    build tables base calculated dimensions = .ok r ↔
      r = ⟨tables, base, calculated, dimensions⟩ ∧ r.Declared := by
  rw [build, Except.check_then_eq_ok_iff, validate_ok_iff, wellFormed_iff_declared]
  constructor
  · rintro ⟨hdeclared, hr⟩
    cases hr
    exact ⟨rfl, hdeclared⟩
  · rintro ⟨rfl, hdeclared⟩
    exact ⟨hdeclared, rfl⟩

/-- The same declarations in another order. -/
theorem Declared.perm {r r' : Registry} (h : r.Declared) (htables : r.tables.Perm r'.tables)
    (hbase : r.base.Perm r'.base) (hcalculated : r.calculated.Perm r'.calculated)
    (hdimensions : r.dimensions.Perm r'.dimensions) : r'.Declared := by
  have hfields : r.takenFields.Perm r'.takenFields := hbase.flatMap_right _
  refine ⟨?_, (htables.map _).nodup_iff.mp h.tableNames, ?_, hfields.nodup_iff.mp h.fields, ?_, ?_,
    (hcalculated.map _).nodup_iff.mp h.calculatedNames, ?_, (hdimensions.map _).nodup_iff.mp h.dimensionNames⟩
  · intro t ht
    exact h.tables t (htables.mem_iff.mpr ht)
  · intro m hm
    exact (h.base m (hbase.mem_iff.mpr hm)).perm htables
  · intro field hfield
    exact h.unreserved field (hfields.mem_iff.mpr hfield)
  · intro m hm
    obtain ⟨hname, hfree, hunreserved⟩ := h.calculated m (hcalculated.mem_iff.mpr hm)
    exact ⟨hname, fun hfield => hfree (hfields.mem_iff.mpr hfield), hunreserved⟩
  · intro d hd
    exact (h.dimensions d (hdimensions.mem_iff.mpr hd)).perm htables

theorem exists_build_iff {tables : List Table} {base : List BaseMetric} {calculated : List CalculatedMetric}
    {dimensions : List Dimension} :
    (∃ r, build tables base calculated dimensions = .ok r) ↔
      (⟨tables, base, calculated, dimensions⟩ : Registry).Declared := by
  simp only [build_ok_iff]
  constructor
  · rintro ⟨r, rfl, hdeclared⟩
    exact hdeclared
  · intro hdeclared
    exact ⟨_, rfl, hdeclared⟩

/-- Lists are accepted exactly if they are declared once and over each other, and then in any order. -/
theorem accepted_iff_declared (tables : List Table) (base : List BaseMetric)
    (calculated : List CalculatedMetric) (dimensions : List Dimension) :
    ((∃ r, build tables base calculated dimensions = .ok r) ↔
      (⟨tables, base, calculated, dimensions⟩ : Registry).Declared) ∧
    ∀ tables' base' calculated' dimensions', tables.Perm tables' → base.Perm base' →
      calculated.Perm calculated' → dimensions.Perm dimensions' →
      ((∃ r, build tables base calculated dimensions = .ok r) ↔
        ∃ r, build tables' base' calculated' dimensions' = .ok r) := by
  refine ⟨exists_build_iff, ?_⟩
  intro tables' base' calculated' dimensions' htables hbase hcalculated hdimensions
  rw [exists_build_iff, exists_build_iff]
  constructor
  · intro hdeclared
    exact hdeclared.perm htables hbase hcalculated hdimensions
  · intro hdeclared
    exact hdeclared.perm htables.symm hbase.symm hcalculated.symm hdimensions.symm

/-- A metric whose name is another one's field for last year. -/
def Builtin.shadow : BaseMetric := ⟨"transactions", "gross_margin", .sum, "sales_last_year"⟩

/-- The balance sheet is accepted backwards too, and refused with a second owner of a field, whether that
one is declared last or first. -/
theorem accepted_builtin_reversed :
    (∃ r, build Builtin.tables.reverse Builtin.base.reverse Builtin.calculated.reverse
      Builtin.dimensions.reverse = .ok r) ∧
    (¬ ∃ r, build Builtin.tables (Builtin.base ++ [Builtin.shadow]) [] [] = .ok r) ∧
    ¬ ∃ r, build Builtin.tables (Builtin.base ++ [Builtin.shadow]).reverse [] [] = .ok r := by
  have hforwards := (accepted_iff_declared Builtin.tables Builtin.base Builtin.calculated
    Builtin.dimensions).2 _ _ _ _ (List.reverse_perm _).symm (List.reverse_perm _).symm
    (List.reverse_perm _).symm (List.reverse_perm _).symm
  have hshadowed := (accepted_iff_declared Builtin.tables (Builtin.base ++ [Builtin.shadow]) [] []).2
    _ _ _ _ (.refl _) (List.reverse_perm _).symm (.refl _) (.refl _)
  have hrefused : ¬ ∃ r, build Builtin.tables (Builtin.base ++ [Builtin.shadow]) [] [] = .ok r := by
    rintro ⟨r, hr⟩
    have hok : (build Builtin.tables (Builtin.base ++ [Builtin.shadow]) [] []).isOk = true := by rw [hr]; rfl
    exact absurd hok (by decide +kernel)
  exact ⟨hforwards.mp ⟨_, build_builtin⟩, hrefused, fun h => hrefused (hshadowed.mpr h)⟩

end Registry
end BalanceSheet
