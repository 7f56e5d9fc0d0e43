import BalanceSheet.Condition.Filter
import BalanceSheet.Proofs.Condition.Key
import BalanceSheet.Proofs.Registry.Names

/-!
Which columns a request may filter by, and which of them are dates. A name is offered if some table has a
column of it that holds no date; what the name means in the other tables is not looked at, and neither is the
field that stands for the date column of every table. So no condition of a request reaches a date exactly if
no column without dates shares its name with one.
-/

namespace BalanceSheet

/-- The name is that of the date column or of another column of dates. -/
def Table.HoldsDate (t : Table) (name : String) : Prop :=
  name = t.dateColumn ∨ ∃ c ∈ t.columns, c.name = name ∧ c.type = .date

instance (t : Table) (name : String) : Decidable (t.HoldsDate name) :=
  inferInstanceAs (Decidable (_ ∨ _))

namespace Registry

/-- The name is that of the date field or of dates in some table. -/
def NamesDate (r : Registry) (name : String) : Prop :=
  name = Condition.dateField ∨ ∃ t ∈ r.tables, t.HoldsDate name

instance (r : Registry) (name : String) : Decidable (r.NamesDate name) :=
  inferInstanceAs (Decidable (_ ∨ _))

/-- A column that holds no dates in its own table has a name that means no date anywhere. -/
def DatesApart (r : Registry) : Prop :=
  ∀ t ∈ r.tables, ∀ c ∈ t.columns, c.name ≠ t.dateColumn → c.type ≠ .date → ¬ r.NamesDate c.name

instance (r : Registry) : Decidable r.DatesApart :=
  inferInstanceAs (Decidable (∀ t ∈ r.tables, ∀ c ∈ t.columns, _ → _ → ¬ _))

theorem mem_filterableColumns_iff {r : Registry} {name : String} : name ∈ r.filterableColumns ↔
    ∃ t ∈ r.tables, ∃ c ∈ t.columns, c.name = name ∧ c.name ≠ t.dateColumn ∧ c.type ≠ .date := by
  simp only [filterableColumns, List.mem_eraseDups, List.mem_flatMap, List.mem_map, List.mem_filter,
    Bool.and_eq_true, decide_eq_true_eq]
  grind

theorem datesApart_iff {r : Registry} : r.DatesApart ↔ ∀ name ∈ r.filterableColumns, ¬ r.NamesDate name := by
  simp only [mem_filterableColumns_iff]
  constructor
  · rintro h name ⟨t, ht, c, hc, rfl, hdate, htype⟩
    exact h t ht c hc hdate htype
  · intro h t ht c hc hdate htype
    exact h c.name ⟨t, ht, c, hc, rfl, hdate, htype⟩

end Registry

namespace Text

/-- Characters of identifiers are not blank. -/
theorem not_isBlank_of_isPart {c : Char} (h : Identifier.isPart c = true) : isBlank c = false := by
  have hcases : c.isAlphanum = true ∨ c = '_' := by simpa [Identifier.isPart] using h
  rcases hcases with halphanum | rfl
  · exact not_isBlank_of_isAlphanum halphanum
  · decide

end Text

namespace Filter

/-- A condition restricts the field it is made for, whatever the operator. -/
theorem field_of_operand {field value : String} {operator : Option Operator} {c : Condition}
    (h : operand field operator value = .ok c) : c.field = field := by
  unfold operand at h
  dsimp only at h
  -- one case for each shape of operator and value: a failure, or a condition on `field`
  split at h
  all_goals try split at h
  all_goals cases h
  all_goals rfl

/-- A condition is made by taking the key apart and putting its operator with the value. -/
theorem condition_ok {allowed : List String} {key value : String} {c : Condition}
    (h : condition allowed key value = .ok c) : ∃ operator, splitKey key = .ok (c.field, operator) ∧
      c.field ∈ allowed ∧ operand c.field operator value = .ok c := by
  simp only [condition, Except.bind_eq_ok_iff, Except.guard_eq_ok_iff] at h
  obtain ⟨⟨field, operator⟩, hsplit, hallowed, hoperand⟩ := h
  obtain rfl := field_of_operand hoperand
  exact ⟨operator, hsplit, by simpa using hallowed, hoperand⟩

theorem field_mem_of_conditions {allowed : List String} {entries : List (String × String)}
    {cs : List Condition} (h : conditions allowed entries = .ok cs) : ∀ c ∈ cs, c.field ∈ allowed := by
  intro c hc
  obtain ⟨⟨key, value⟩, -, hcondition⟩ := forall₂_exists_left (Except.mapM_ok h) hc
  obtain ⟨operator, -, hallowed, -⟩ := condition_ok hcondition
  exact hallowed

/-- A name is a key of its own: it has no blanks around it and no operator. -/
theorem splitKey_of_isIdentifier {name : String} (h : isIdentifier name = true) :
    splitKey name = .ok (name, none) := by
  have hparts := Text.isPart_of_isIdentifier h
  have hplain : ∀ c ∈ name.toList, c ≠ '=' ∧ c ≠ '[' ∧ Text.isBlank c = false := by
    intro c hc
    have hpart := hparts c hc
    refine ⟨?_, ?_, Text.not_isBlank_of_isPart hpart⟩
    all_goals
      rintro rfl
      exact absurd hpart (by decide)
  have hne : name ≠ "" := by
    rintro rfl
    exact absurd h (by decide)
  exact Key.splitKey_text (k := ⟨name, none⟩) ⟨hne, hplain, nofun⟩

theorem conditions_of_mem {allowed : List String} {name : String} (hname : isIdentifier name = true)
    (hmem : name ∈ allowed) : conditions allowed [(name, "x")] = .ok [.eq name "x"] := by
  have hoperand : operand name none "x" = .ok (.eq name "x") := by
    have hmembers : members "x" = ["x"] := by decide +kernel
    simp [operand, hmembers]
  have hcondition : condition allowed name "x" = .ok (.eq name "x") := by
    simp only [condition, splitKey_of_isIdentifier hname]
    simp [bind, Except.bind, hmem, hoperand]
  simp [conditions, hcondition, bind, Except.bind, pure, Except.pure]

end Filter

/-- Conditions that no table takes for one on a date, and that stay as they are a year earlier. -/
structure Condition.Undated (r : Registry) (c : Condition) : Prop where
  unshifted : c.shifted = .ok c
  column : ∀ t ∈ r.tables, ∀ column ∈ Condition.column? t c.field,
    ¬ t.HoldsDate column.name ∧ column.type ≠ .date

theorem Condition.undated_of_not_namesDate {r : Registry} {c : Condition} (h : ¬ r.NamesDate c.field) :
    c.Undated r := by
  rw [Registry.NamesDate, not_or] at h
  obtain ⟨hfield, htables⟩ := h
  have hisDate : (c.field == dateField) = false := by simpa using hfield
  constructor
  · simp [shifted, isDate, hisDate]
  · intro t ht column hcolumn
    have hfound : t.column? c.field = some column := by simpa [column?, hisDate] using hcolumn
    have hname : column.name = c.field := by simpa using List.find?_some hfound
    have hundated : ¬ t.HoldsDate column.name := fun hholds => htables ⟨t, ht, hname ▸ hholds⟩
    exact ⟨hundated, fun htype => hundated (.inr ⟨column, List.mem_of_find?_eq_some hfound, rfl, htype⟩)⟩

theorem Condition.not_undated_of_namesDate {r : Registry} (hr : r.WellFormed) {c : Condition}
    (hmem : c.field ∈ r.filterableColumns) (h : r.NamesDate c.field) : ¬ c.Undated r := by
  intro hundated
  by_cases hfield : c.field = dateField
  · obtain ⟨t, ht, -⟩ := Registry.mem_filterableColumns_iff.mp hmem
    have hcolumn : column? t c.field = some ⟨t.dateColumn, .date⟩ := by simp [column?, hfield]
    exact (hundated.column t ht _ hcolumn).2 rfl
  · obtain ⟨t, ht, hholds⟩ := h.resolve_left hfield
    have hhas : t.hasColumn c.field = true := by
      rcases hholds with hdate | ⟨column, hcolumn, hname, -⟩
      · exact hdate ▸ (hr.tables t ht).dateColumn
      · exact Table.hasColumn_iff.mpr ⟨column, hcolumn, hname⟩
    obtain ⟨column, hfound⟩ := Option.isSome_iff_exists.mp hhas
    have hname : column.name = c.field := by simpa using List.find?_some hfound
    have hcolumn : column? t c.field = some column := by simpa [column?, hfield] using hfound
    exact (hundated.column t ht column hcolumn).1 (hname ▸ hholds)

/-- Filters are offered for the columns that hold no dates in some table. None of these names means a date
elsewhere, and no condition on them restricts a date, exactly if columns without dates share no name with
dates. -/
theorem Registry.filterable_undated_iff {tables : List Table} {base : List BaseMetric}
    {calculated : List CalculatedMetric} {dimensions : List Dimension} {r : Registry}
    (hr : Registry.build tables base calculated dimensions = .ok r) :
    (∀ name, name ∈ r.filterableColumns ↔
      ∃ t ∈ r.tables, ∃ c ∈ t.columns, c.name = name ∧ c.name ≠ t.dateColumn ∧ c.type ≠ .date) ∧
    ((∀ name ∈ r.filterableColumns, ¬ r.NamesDate name) ↔ r.DatesApart) ∧
    ((∀ entries cs, Filter.conditions r.filterableColumns entries = .ok cs → ∀ c ∈ cs, c.Undated r) ↔
      r.DatesApart) := by
  have hwell : r.WellFormed := Registry.wellFormed_of_build hr
  refine ⟨fun name => mem_filterableColumns_iff, datesApart_iff.symm, ?_⟩
  rw [datesApart_iff]
  constructor
  · intro h name hname hdate
    obtain ⟨t, ht, column, hcolumn, rfl, -, -⟩ := mem_filterableColumns_iff.mp hname
    have hidentifier := (hwell.tables t ht).columns column hcolumn
    have hundated := h _ _ (Filter.conditions_of_mem hidentifier hname) _ (List.mem_singleton_self _)
    exact Condition.not_undated_of_namesDate hwell hname hdate hundated
  · intro h entries cs hcs c hc
    exact Condition.undated_of_not_namesDate (h c.field (Filter.field_mem_of_conditions hcs c hc))

section

open Registry

/-- All tables of the built-in balance sheet have their dates in a column `date`, and no others. -/
theorem Registry.filterable_undated_builtin :
    build Builtin.tables Builtin.base Builtin.calculated Builtin.dimensions = .ok .builtin ∧
    builtin.DatesApart ∧ (∀ name ∈ builtin.filterableColumns, ¬ builtin.NamesDate name) ∧
    ∃ cs, Filter.conditions builtin.filterableColumns [("brand", "acme, zenith"), ("sales_price[gte]", "10")] =
      .ok cs ∧ cs.length = 2 ∧ ∀ c ∈ cs, c.Undated builtin := by
  obtain ⟨-, hnames, hconditions⟩ := filterable_undated_iff build_builtin
  have hapart : builtin.DatesApart := by decide +kernel
  refine ⟨build_builtin, hapart, hnames.mpr hapart, ?_⟩
  obtain ⟨cs, hcs, hlength⟩ := Except.exists_of_map (b := 2) (f := List.length)
    (e := Filter.conditions builtin.filterableColumns
      [("brand", "acme, zenith"), ("sales_price[gte]", "10")]) (by decide +kernel)
  exact ⟨cs, hcs, hlength, hconditions.mpr hapart _ cs hcs⟩

/-- Two tables, each with the name of the other's date column on a column of text. -/
def Registry.crossedDates : Registry where
  tables := [⟨"sales", "day", [⟨"day", .date⟩, ⟨"date", .string⟩, ⟨"amount", .float64⟩]⟩,
    ⟨"visits", "date", [⟨"date", .date⟩, ⟨"day", .string⟩]⟩]
  base := [⟨"sales", "amount", .sum, "total"⟩]
  calculated := []
  dimensions := []

/-- Filters are offered for the date field and for the date column of a table, and a condition on that
column stays the same a year earlier. -/
theorem Registry.filterable_crossedDates :
    build crossedDates.tables crossedDates.base crossedDates.calculated crossedDates.dimensions =
      .ok crossedDates ∧
    crossedDates.filterableColumns = ["date", "amount", "day"] ∧
    crossedDates.tables.map Table.dateColumn = ["day", "date"] ∧
    Filter.conditions crossedDates.filterableColumns [("day", "2024-01-15")] =
      .ok [.eq "day" "2024-01-15"] ∧
    (Condition.eq "day" "2024-01-15").shifted = .ok (.eq "day" "2024-01-15") ∧
    crossedDates.tables.map (Condition.column? · "day") = [some ⟨"day", .date⟩, some ⟨"day", .string⟩] := by
  refine ⟨build_of_validate (by decide +kernel), by decide +kernel, by decide +kernel, ?_, rfl,
    by decide +kernel⟩
  obtain ⟨cs, hcs, rfl⟩ := Except.exists_of_map (b := [.eq "day" "2024-01-15"]) (f := id)
    (e := Filter.conditions crossedDates.filterableColumns [("day", "2024-01-15")]) (by decide +kernel)
  exact hcs

end

end BalanceSheet
