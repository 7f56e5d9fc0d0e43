import BalanceSheet.Condition.Filter
import BalanceSheet.Proofs.Condition.Outline
import BalanceSheet.Proofs.Lists

/-!
What keeps a condition from becoming a clause. An operator takes some operands and not others, whatever the
column; a condition whose operator takes its operand makes a clause of every table, unless the table lacks the
column or the column cannot hold one of the values. Filters of a request make only conditions of this kind.
-/

namespace BalanceSheet

/-- Whether the operator can be put with the operand. -/
def Operator.takes : Operator → Operand → Bool
  | .isSet, _ | .isNotSet, _ => true
  | .isIn, operand | .notIn, operand => !operand.values.isEmpty
  | _, .single _ => true
  | _, _ => false

/-- Whether the operator looks for text in text. -/
def Operator.isPattern : Operator → Bool
  | .contains | .notContains | .startsWith | .endsWith => true
  | _ => false

/-- Every operator takes a single value. -/
theorem Operator.takes_single (op : Operator) (value : String) : op.takes (.single value) = true := by
  cases op <;> rfl

namespace Condition

/-- Exactly the operands that an operator takes have an outline on a column. -/
theorem isSome_outline (column : Column) (c : Condition) :
    (outline column c).isSome = c.operator.takes c.operand := by
  obtain ⟨field, operator, operand⟩ := c
  cases operand with
  | none => cases operator <;> rfl
  | single v => cases operator <;> rfl
  | multiple vs => cases vs <;> cases operator <;> rfl

/-- The type that the values of a condition on the column are to be of. Patterns are text whatever the column
holds. -/
def boundType (column : Column) (c : Condition) : ValueType :=
  if c.operator.isPattern then .string else column.type

/-- The outline has the values of the condition, all of one type. -/
theorem values_outline_eq {column : Column} {c : Condition} {o : Clause (ValueType × String)}
    (h : outline column c = some o) : o.values = c.boundValues.map fun v => (boundType column c, v) := by
  obtain ⟨field, operator, operand⟩ := c
  cases operand with
  | none => cases operator <;> simp [outline] at h <;> subst h <;> rfl
  | single v => cases operator <;> simp [outline] at h <;> subst h <;> rfl
  | multiple vs => cases vs <;> cases operator <;> simp [outline] at h <;> subst h <;> rfl

/-- The values of an outline are to be of the type of the column, or text. -/
theorem type_of_mem_outline {column : Column} {c : Condition} {o : Clause (ValueType × String)}
    (h : outline column c = some o) : ∀ v ∈ o.values, v.1 = column.type ∨ v.1 = .string := by
  rw [values_outline_eq h]
  intro v hv
  obtain ⟨_, -, rfl⟩ := List.mem_map.mp hv
  rw [boundType]
  split
  · exact .inr rfl
  · exact .inl rfl

/-! ### Conditions that make a clause -/

/-- The operator takes the operand, and the column can hold its values, unless they are patterns. -/
structure FitsColumn (column : Column) (c : Condition) : Prop where
  takes : c.operator.takes c.operand = true
  admits : ∀ v ∈ c.boundValues, (boundType column c).admits v = true

/-- The table has a column that the condition fits. -/
def Fits (t : Table) (c : Condition) : Prop :=
  ∃ column, column? t c.field = some column ∧ c.FitsColumn column

/-- A table that all conditions fit has all their columns. -/
theorem supported_of_fits {t : Table} {cs : List Condition} (h : ∀ c ∈ cs, c.Fits t) : supported cs t = true := by
  rw [supported, List.all_eq_true]
  intro c hc
  obtain ⟨column, hcolumn, -⟩ := h c hc
  rw [column?] at hcolumn
  split at hcolumn
  case isTrue hdate => simp [isDate, hdate]
  case isFalse => simp [Table.hasColumn, hcolumn]

theorem succeeds_bindValue {type : ValueType} {value : String} (h : type.admits value = true) (field : String) :
    (bindValue field type value).Succeeds := by
  rw [bindValue, if_pos h]
  exact Binding.succeeds_bind type value

theorem admits_of_run_bindValue {field value : String} {type : ValueType} {ps qs : Params} {p : Param}
    (h : (bindValue field type value).run ps = (.ok p, qs)) : type.admits value = true := by
  rw [bindValue] at h
  split at h
  case isTrue hadmits => exact hadmits
  case isFalse => exact (Binding.run_fail_ne_ok h).elim

/-- A condition that fits makes a clause, whatever was bound before. -/
theorem Fits.succeeds {t : Table} {c : Condition} (h : c.Fits t) : (clause t c).Succeeds := by
  obtain ⟨column, hcolumn, htakes, hadmits⟩ := h
  obtain ⟨o, ho⟩ := Option.isSome_iff_exists.mp ((isSome_outline column c).trans htakes)
  have hvalues : ∀ v ∈ o.values, (bindValue c.field v.1 v.2).Succeeds := by
    rw [values_outline_eq ho]
    intro v hv
    obtain ⟨value, hvalue, rfl⟩ := List.mem_map.mp hv
    exact succeeds_bindValue (hadmits value hvalue) c.field
  have hall := Binding.Succeeds.mapM hvalues
  simp only [clause, hcolumn, clauseOn_eq, ho]
  rw [← Clause.values_mapM] at hall
  exact hall.of_bind

/-- A condition that has made a clause once fits. -/
theorem fits_of_run {t : Table} {c : Condition} {cl : Clause Param} {ps qs : Params}
    (h : (clause t c).run ps = (.ok cl, qs)) : c.Fits t := by
  obtain ⟨⟨column, hcolumn, houtline⟩, -⟩ := run_clause_ok h
  simp only [clause, hcolumn, clauseOn_eq, houtline] at h
  have hvalues : ((cl.map Param.content).values.mapM fun v => bindValue c.field v.1 v.2).run ps =
      (.ok cl.values, qs) := by
    rw [← Clause.values_mapM, Binding.run_bind, h]
    rfl
  obtain ⟨hall, -⟩ := Binding.run_mapM_ok (P := fun v _ => v.1.admits v.2 = true) (g := fun p => [p])
    (fun v _ _ _ _ hp => ⟨admits_of_run_bindValue hp, (run_bindValue_ok hp).2⟩) hvalues
  refine ⟨column, hcolumn, ?_, ?_⟩
  · rw [← isSome_outline column c, houtline]
    rfl
  · rw [values_outline_eq houtline] at hall
    intro v hv
    obtain ⟨_, -, hadmits⟩ := forall₂_exists_right hall (List.mem_map_of_mem hv)
    exact hadmits

theorem fits_of_succeeds {t : Table} {c : Condition} (h : (clause t c).Succeeds) : c.Fits t := by
  obtain ⟨cl, qs, hrun⟩ := h .empty
  exact fits_of_run hrun

/-- Conditions that have made clauses once fit. -/
theorem fits_of_run_mapM {t : Table} {cs : List Condition} {cls : List (Clause Param)} {ps qs : Params}
    (h : (cs.mapM (clause t)).run ps = (.ok cls, qs)) : ∀ c ∈ cs, c.Fits t := by
  obtain ⟨hall, -⟩ := Binding.run_mapM_ok (P := fun c _ => c.Fits t) (g := Clause.values)
    (fun _ _ _ _ _ hcl => ⟨fits_of_run hcl, (run_clause_ok hcl).2⟩) h
  intro c hc
  obtain ⟨_, -, hfits⟩ := forall₂_exists_right hall hc
  exact hfits

/-- What a table can refuse a condition for: it lacks the column, or the column cannot hold a value. -/
inductive RefusedBy (table : Table) (c : Condition) : Failure → Prop where
  | lacks (h : column? table c.field = none) : RefusedBy table c (.unknownColumn table.name c.field)
  | misfit {column : Column} {value : String} (hcolumn : column? table c.field = some column)
      (hvalue : value ∈ c.operand.values) (h : column.type.admits value = false) :
      RefusedBy table c (column.type.misfit c.field value)

theorem mem_values_of_mem_boundValues {c : Condition} {v : String} (h : v ∈ c.boundValues) :
    v ∈ c.operand.values := by
  rw [boundValues] at h
  split at h
  case h_1 => cases h
  case h_2 => cases h
  case h_3 => exact h

/-- A condition whose operator takes its operand is refused for a missing column or an unfit value alone. -/
theorem failsWith_clause {c : Condition} (h : c.operator.takes c.operand = true) (table : Table) :
    (clause table c).FailsWith (RefusedBy table c) := by
  rw [clause]
  split
  case h_1 column hcolumn =>
    obtain ⟨o, ho⟩ := Option.isSome_iff_exists.mp ((isSome_outline column c).trans h)
    rw [clauseOn_eq, ho]
    refine Clause.failsWith_mapM fun v hv => failsWith_bindValue fun hadmits => ?_
    have hvalue : v.2 ∈ c.boundValues := values_outline ho ▸ List.mem_map_of_mem hv
    rcases type_of_mem_outline ho v hv with htype | htype
    · rw [htype] at hadmits ⊢
      exact .misfit hcolumn (mem_values_of_mem_boundValues hvalue) hadmits
    · rw [htype] at hadmits
      cases hadmits
  case h_2 hcolumn => exact Binding.failsWith_fail (.lacks hcolumn)

end Condition

/-- Whatever the operator of a filter is, its value is made into an operand that the operator of the condition
takes: a list has members. -/
theorem Filter.takes_of_operand {field value : String} {operator : Option Operator} {c : Condition}
    (h : operand field operator value = .ok c) : c.operator.takes c.operand = true := by
  have hlist {values : List String} (hne : values ≠ []) :
      Operator.isIn.takes (.multiple values) = true ∧ Operator.notIn.takes (.multiple values) = true := by
    simpa [Operator.takes, Operand.values] using hne
  simp only [operand] at h
  split at h
  case h_1 =>
    split at h
    case h_1 => cases h
    case h_2 =>
      cases h
      exact Operator.takes_single .eq _
    case h_3 hne _ =>
      cases h
      exact (hlist hne).1
  case h_2 =>
    split at h
    case h_1 => cases h
    case h_2 =>
      cases h
      exact Operator.takes_single .ne _
    case h_3 hne _ =>
      cases h
      exact (hlist hne).2
  case h_3 =>
    obtain ⟨hne, h⟩ := Except.refuse_eq_ok_iff.mp h
    cases h
    exact (hlist (by simpa using hne)).1
  case h_4 =>
    obtain ⟨hne, h⟩ := Except.refuse_eq_ok_iff.mp h
    cases h
    exact (hlist (by simpa using hne)).2
  case h_5 =>
    cases h
    rfl
  case h_6 =>
    cases h
    rfl
  case h_7 =>
    obtain ⟨-, h⟩ := Except.refuse_eq_ok_iff.mp h
    cases h
    exact Operator.takes_single (operator.getD .eq) _

end BalanceSheet
