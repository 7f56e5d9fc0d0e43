import BalanceSheet.Proofs.Condition.Outline
import BalanceSheet.Proofs.Formula.Resolution
import BalanceSheet.Proofs.Formula.Substitution
import BalanceSheet.Proofs.Registry.Acceptance
import BalanceSheet.Proofs.Registry.Selection
import BalanceSheet.Query.Source

/-!
The names that a well-formed registry puts into statements. Tables, columns, metrics and dimensions are
identifiers, so none has a brace, and neither has what is made of them: references, keys of groups,
clauses without their placeholders, output columns, and formulas whose braces belong to their dependencies.
-/

namespace BalanceSheet

open Text

namespace Table.WellFormed

variable {t : Table}

theorem isIdentifier_of_hasColumn (h : t.WellFormed) {name : String} (hname : t.hasColumn name = true) :
    isIdentifier name = true := by
  obtain ⟨c, hc, rfl⟩ := Table.hasColumn_iff.mp hname
  exact h.columns c hc

theorem isIdentifier_dateColumn (h : t.WellFormed) : isIdentifier t.dateColumn = true :=
  h.isIdentifier_of_hasColumn h.dateColumn

theorem isIdentifier_of_column? (h : t.WellFormed) {name : String} {c : Column}
    (hc : t.column? name = some c) : isIdentifier c.name = true :=
  h.columns c (List.mem_of_find?_eq_some hc)

end Table.WellFormed

namespace Registry.WellFormed

variable {r : Registry} {t : Table} {name : String}

theorem table (h : r.WellFormed) (ht : r.table? name = some t) : t.WellFormed :=
  h.tables t (List.mem_of_find?_eq_some ht)

theorem isIdentifier_table (h : r.WellFormed) (ht : r.table? name = some t) : isIdentifier name = true := by
  have hname : t.name = name := by simpa using List.find?_some ht
  exact hname ▸ (h.table ht).name

theorem dimension {d : Dimension} (h : r.WellFormed) (hd : r.dimension name = .ok d) : d.WellFormed r :=
  h.dimensions d (dimension_ok hd)

end Registry.WellFormed

namespace BaseMetric

/-- Names of the metric, its table and its column without an opening brace. -/
structure Plain (m : BaseMetric) : Prop where
  name : Text.Plain m.name
  table : Text.Plain m.table
  field : Text.Plain m.field

theorem WellFormed.plain {r : Registry} {m : BaseMetric} (hr : r.WellFormed) (h : m.WellFormed r) : m.Plain := by
  obtain ⟨t, ht, hfield⟩ := h.field
  exact ⟨plain_of_isIdentifier h.name, plain_of_isIdentifier (hr.isIdentifier_table ht),
    plain_of_isIdentifier ((hr.table ht).isIdentifier_of_hasColumn hfield)⟩

theorem Plain.expr {m : BaseMetric} (h : m.Plain) : Text.Plain m.expr := by
  have hfunction : Text.Plain m.aggregation.function := by
    cases m.aggregation <;> decide
  have hbracket : Text.Plain "(" ∧ Text.Plain ")" := by decide
  simp [BaseMetric.expr, Aggregation.expr, hfunction, h.field, hbracket]

/-- A name made longer by a suffix that is itself part of an identifier. -/
theorem WellFormed.isPart_lastYearField {r : Registry} {m : BaseMetric} (h : m.WellFormed r) :
    ∀ c ∈ m.lastYearField.toList, Identifier.isPart c = true := by
  have hsuffix : ∀ c ∈ "_last_year".toList, Identifier.isPart c = true := by decide
  rw [lastYearField, String.toList_append, List.forall_mem_append]
  exact ⟨isPart_of_isIdentifier h.name, hsuffix⟩

theorem Plain.fields {m : BaseMetric} (h : m.Plain) :
    Text.Plain m.previousColumn ∧ Text.Plain m.lastYearField ∧ Text.Plain m.changeField := by
  have hsuffixes : Text.Plain "_ly" ∧ Text.Plain "_last_year" ∧ Text.Plain "_vs_last_year" := by decide
  simp [previousColumn, lastYearField, changeField, h.name, hsuffixes]

theorem Plain.sources {m : BaseMetric} (h : m.Plain) :
    Text.Plain (currentSource m.table) ∧ Text.Plain (previousSource m.table) := by
  have hsuffixes : Text.Plain "_current" ∧ Text.Plain "_previous" := by decide
  simp [currentSource, previousSource, h.table, hsuffixes]

end BaseMetric

theorem Reference.plain_column {source name : String} (hsource : Plain source) (hname : Plain name) :
    Plain (Reference.column source name).text := by
  have hdot : Plain "." := by decide
  simp [text, hsource, hname, hdot]

theorem Dimension.plain_keyExpr {d : Dimension} {t : Table} (hname : isIdentifier d.name = true)
    (ht : t.WellFormed) {period : Period} {key : String} (h : d.keyExpr? t period = some key) : Plain key := by
  have hdate := plain_of_isIdentifier ht.isIdentifier_dateColumn
  have hcolumn := plain_of_isIdentifier hname
  have hfunction (bucket : Granularity) : Plain bucket.function := by cases bucket <;> decide
  have hwords : Plain "toString(" ∧ Plain "(" ∧ Plain "))" ∧ Plain "(addYears(" ∧ Plain ", 1)))" ∧
      Plain ")" := by
    decide
  cases hbucket : d.bucket with
  | some bucket =>
      cases period <;> simp only [keyExpr?, hbucket, Option.some.injEq] at h <;> subst h <;>
        simp [hdate, hfunction bucket, hwords]
  | none =>
      simp only [keyExpr?, hbucket] at h
      split at h
      · cases h
        simp [hcolumn, hwords]
      · cases h

end BalanceSheet
