import BalanceSheet.Proofs.Condition.Fitting
import BalanceSheet.Proofs.Condition.Placeholders

/-!
What making a clause leaves bound. Parameters that were there stay where they are. A condition that makes a clause has
one parameter more for each of its values, in order, and the clause shows their placeholders and no other. One that is
refused has those of the values before the first that its column cannot hold; there are such values only in a list, and
none where the column or the operand is refused as a whole.
-/

namespace BalanceSheet

open Text

theorem Clause.appends_mapM {α β : Type} {f : α → Binding β} {cl : Clause α}
    (hf : ∀ v ∈ cl.values, (f v).Appends) : (cl.mapM f).Appends := by
  intro ps
  obtain ⟨added, hadded, hnamed⟩ := Binding.Appends.mapM hf ps
  refine ⟨added, ?_, hnamed⟩
  rw [← hadded, ← values_mapM, Binding.run_bind]
  split
  case h_1 hrun => rw [hrun]; rfl
  case h_2 hrun => rw [hrun]

namespace Condition

/-- The type that the values of the condition are bound under: patterns as text, dates as such, and all others under
the type of their column. -/
inductive BindsAs (t : Table) (c : Condition) : ValueType → Prop
  | pattern (h : c.operator ∈ [.contains, .notContains, .startsWith, .endsWith]) : BindsAs t c .string
  | date (h : c.operator ∉ [.contains, .notContains, .startsWith, .endsWith]) (hdate : c.field = dateField) :
      BindsAs t c .date
  | column {column : Column} (h : c.operator ∉ [.contains, .notContains, .startsWith, .endsWith])
      (hdate : c.field ≠ dateField) (hcolumn : t.column? c.field = some column) : BindsAs t c column.type

/-- The parameters hold the values of the condition in order, and their placeholders are what the text has in
braces. -/
structure Adds (t : Table) (c : Condition) (text : String) (added : List Param) : Prop where
  values : added.map Param.value = c.boundValues
  types : ∀ p ∈ added, c.BindsAs t p.type
  placeholders : (braced text.toList).map (fun inside => '{' :: (inside ++ ['}'])) =
    added.map fun p => p.placeholder.toList
  openings : text.toList.count '{' = added.length

/-- What the condition is refused for, and the parameters that it has bound by then. -/
inductive Leaves (t : Table) (c : Condition) : Failure → List Param → Prop
  /-- The table lacks the column. -/
  | lacks (hdate : c.field ≠ dateField) (h : t.column? c.field = none) :
      Leaves t c (.unknownColumn t.name c.field) []
  /-- The operator does not take the operand. -/
  | unfit (h : c.operator.takes c.operand = false) : Leaves t c c.refusal []
  /-- The column cannot hold `v`, but the values before it. -/
  | misfit {type : ValueType} {before after : List String} {v : String} {added : List Param}
      (htype : c.BindsAs t type) (htakes : c.operator.takes c.operand = true)
      (hvalues : c.boundValues = before ++ v :: after) (hbefore : ∀ u ∈ before, type.admits u = true)
      (h : type.admits v = false)
      (hadded : added.map Param.content = before.map fun u => (type, u)) : Leaves t c (type.misfit c.field v) added

variable {t : Table} {c : Condition} {ps qs : Params}

theorem isPattern_iff {operator : Operator} :
    operator.isPattern = true ↔ operator ∈ [.contains, .notContains, .startsWith, .endsWith] := by
  cases operator <;> decide

theorem bindsAs_boundType {column : Column} (h : column? t c.field = some column) :
    c.BindsAs t (boundType column c) := by
  rw [boundType]
  split
  case isTrue hpattern => exact .pattern (isPattern_iff.mp hpattern)
  case isFalse hpattern =>
    rw [isPattern_iff] at hpattern
    rw [column?] at h
    split at h
    case isTrue hdate =>
      cases h
      exact .date hpattern (by simpa using hdate)
    case isFalse hdate => exact .column hpattern (by simpa using hdate) h

theorem appends_bindValue (field : String) (type : ValueType) (value : String) :
    (bindValue field type value).Appends := by
  rw [bindValue]
  split
  · exact Binding.appends_bind type value
  · exact Binding.appends_fail _

theorem appends_clause (t : Table) (c : Condition) : (clause t c).Appends := by
  rw [clause]
  split
  case h_1 column hcolumn =>
    rw [clauseOn_eq]
    split
    case h_1 o _ => exact Clause.appends_mapM fun v _ => appends_bindValue c.field v.1 v.2
    case h_2 => exact Binding.appends_fail _
  case h_2 => exact Binding.appends_fail _

/-- A value is refused before it is bound. -/
theorem run_bindValue_error {field value : String} {type : ValueType} {f : Failure}
    (h : (bindValue field type value).run ps = (.error f, qs)) :
    type.admits value = false ∧ f = type.misfit field value ∧ qs = ps := by
  rw [bindValue] at h
  split at h
  case isTrue => cases h
  case isFalse hadmits =>
    cases h
    exact ⟨by simpa using hadmits, rfl, rfl⟩

/-- Values are bound up to the first that is refused. -/
theorem run_bindValues_error {field : String} {type : ValueType} {values : List String} {f : Failure}
    (h : (values.mapM fun v => bindValue field type v).run ps = (.error f, qs)) :
    ∃ before v after added, values = before ++ v :: after ∧ (∀ u ∈ before, type.admits u = true) ∧
      type.admits v = false ∧ f = type.misfit field v ∧ qs.toList = ps.toList ++ added ∧
      added.map Param.content = before.map fun u => (type, u) := by
  obtain ⟨before, v, after, added, ps', hvalues, hbefore, hfails⟩ := Binding.run_mapM_error h
  obtain ⟨hadmits, hf, rfl⟩ := run_bindValue_error hfails
  obtain ⟨hall, hgrows⟩ := Binding.run_mapM_ok
    (P := fun u p => type.admits u = true ∧ p.content = (type, u)) (g := fun p => [p])
    (fun u _ _ _ _ hp => ⟨⟨admits_of_run_bindValue hp, (run_bindValue_ok (v := (type, u)) hp).1⟩,
      (run_bindValue_ok (v := (type, u)) hp).2⟩) hbefore
  refine ⟨before, v, after, added, hvalues, ?_, hadmits, hf, by simpa using hgrows.toList, ?_⟩
  · intro u hu
    obtain ⟨p, -, hadmits, -⟩ := forall₂_exists_right hall hu
    exact hadmits
  · rw [← List.forall₂_eq_eq_eq, List.forall₂_map_left_iff, List.forall₂_map_right_iff]
    exact hall.flip.imp fun _ _ h => h.2

/-- A clause that is made has bound the values of its condition. -/
theorem adds_of_run (hcolumns : ∀ column ∈ t.columns, isIdentifier column.name = true)
    (hdate : isIdentifier t.dateColumn = true) {cl : Clause Param} (h : (clause t c).run ps = (.ok cl, qs)) :
    c.Adds t cl.text cl.values ∧ qs.toList = ps.toList ++ cl.values := by
  obtain ⟨hmakes, hgrows⟩ := run_clause_ok h
  have hmakes' := hmakes
  obtain ⟨column, hcolumn, houtline⟩ := hmakes'
  have hplain : ∀ column ∈ column? t c.field, Plain column.name := by
    intro column hcolumn
    rw [Option.mem_def, column?] at hcolumn
    split at hcolumn
    case isTrue =>
      cases hcolumn
      exact plain_of_isIdentifier hdate
    case isFalse => exact plain_of_isIdentifier (hcolumns column (List.mem_of_find?_eq_some hcolumn))
  have hnames : ∀ p ∈ cl.values, Params.isName p.name.toList = true := by
    obtain ⟨added, hadded, hnamed⟩ := appends_clause t c ps
    rw [h, hgrows.toList, List.append_cancel_left_eq] at hadded
    intro p hp
    obtain ⟨k, hk⟩ := hnamed p (hadded ▸ hp)
    rw [hk]
    exact Params.isName_indexName k
  have hshows : Shows cl.text (cl.values.map Param.inside) := Clause.shows_text (hmakes.plain_words_of hplain) hnames
  have hcontents : cl.values.map Param.content = c.boundValues.map fun v => (boundType column c, v) := by
    rw [← Clause.values_map, values_outline_eq houtline]
  refine ⟨⟨hmakes.values, ?_, ?_, ?_⟩, hgrows.toList⟩
  · intro p hp
    have hcontent : p.content ∈ c.boundValues.map fun v => (boundType column c, v) :=
      hcontents ▸ List.mem_map_of_mem hp
    obtain ⟨v, -, heq⟩ := List.mem_map.mp hcontent
    have htype : boundType column c = p.type := congrArg Prod.fst heq
    exact htype ▸ bindsAs_boundType hcolumn
  · rw [Spells.braced_eq hshows, List.map_map]
    exact List.map_congr_left fun p _ => p.toList_placeholder.symm
  · rw [Spells.count_eq hshows, List.length_map]

/-- A condition that is refused has bound the values before the first that its column cannot hold. -/
theorem leaves_of_run {f : Failure} (h : (clause t c).run ps = (.error f, qs)) :
    ∃ added, c.Leaves t f added ∧ qs.toList = ps.toList ++ added := by
  rw [clause] at h
  split at h
  case h_1 column hcolumn =>
    rw [clauseOn_eq] at h
    split at h
    case h_1 o houtline =>
      have hvalues : (c.boundValues.mapM fun v => bindValue c.field (boundType column c) v).run ps =
          (.error f, qs) := by
        have hmapped := Clause.values_mapM (fun v => bindValue c.field v.1 v.2) o
        rw [values_outline_eq houtline, List.mapM_map] at hmapped
        show ((c.boundValues.mapM ((fun v => bindValue c.field v.1 v.2) ∘ fun v => (boundType column c, v))).run ps) = _
        rw [← hmapped, Binding.run_bind, h]
      obtain ⟨before, v, after, added, hsplit, hbefore, hadmits, rfl, hqs, hadded⟩ := run_bindValues_error hvalues
      have htakes : c.operator.takes c.operand = true := by
        rw [← isSome_outline column c, houtline]
        rfl
      exact ⟨added, .misfit (bindsAs_boundType hcolumn) htakes hsplit hbefore hadmits hadded, hqs⟩
    case h_2 houtline =>
      cases h
      refine ⟨[], .unfit ?_, (List.append_nil _).symm⟩
      rw [← isSome_outline column c, houtline]
      rfl
  case h_2 hcolumn =>
    cases h
    rw [column?] at hcolumn
    split at hcolumn
    case isTrue => cases hcolumn
    case isFalse hdate => exact ⟨[], .lacks (by simpa using hdate) hcolumn, (List.append_nil _).symm⟩

/-- Only a list can have values before the one that is refused. -/
theorem Leaves.exists_list {f : Failure} {added : List Param} (h : c.Leaves t f added) (hne : added ≠ []) :
    c.operator ∈ [.isIn, .notIn] ∧ ∃ vs, c.operand = .multiple vs := by
  cases h with
  | lacks | unfit => exact absurd rfl hne
  | @misfit type before after v _ _ htakes hvalues _ _ hadded =>
      have hbefore : before ≠ [] := by
        rintro rfl
        exact hne (List.map_eq_nil_iff.mp hadded)
      have hlength : 2 ≤ c.boundValues.length := by
        have := List.length_pos_iff.mpr hbefore
        rw [hvalues, List.length_append, List.length_cons]
        omega
      obtain ⟨field, operator, operand⟩ := c
      cases operand with
      | none => cases operator <;> simp [boundValues, Operand.values] at hlength
      | single u => cases operator <;> simp [boundValues, Operand.values] at hlength
      | multiple us => cases operator <;> simp_all [boundValues, Operator.takes]

/-- Making the clause leaves the parameters as they are and adds others behind them: those of a clause that is made,
or those that a refused condition has bound by then. Any are bound by then only where a list is compared. -/
def OnlyAdds (t : Table) (c : Condition) (ps : Params) : Prop :=
  ∃ added, ((clause t c).run ps).2.toList = ps.toList ++ added ∧
    (∀ cl, ((clause t c).run ps).1 = .ok cl → c.Adds t cl.text added) ∧
    ∀ f, ((clause t c).run ps).1 = .error f → c.Leaves t f added ∧
      (added ≠ [] → c.operator ∈ [.isIn, .notIn] ∧ ∃ vs, c.operand = .multiple vs)

/-- Conditions on tables whose columns are named by identifiers only add parameters, whatever was bound before. -/
theorem clause_onlyAdds {t : Table} (hcolumns : ∀ column ∈ t.columns, isIdentifier column.name = true)
    (hdate : isIdentifier t.dateColumn = true) (c : Condition) (ps : Params) : c.OnlyAdds t ps := by
  rcases hrun : (clause t c).run ps with ⟨f | cl, qs⟩
  · obtain ⟨added, hleaves, hqs⟩ := leaves_of_run hrun
    refine ⟨added, by rw [hrun, hqs], by simp [hrun], ?_⟩
    intro f' hf
    rw [hrun] at hf
    cases hf
    exact ⟨hleaves, hleaves.exists_list⟩
  · obtain ⟨hadds, hqs⟩ := adds_of_run hcolumns hdate hrun
    refine ⟨cl.values, by rw [hrun, hqs], ?_, by simp [hrun]⟩
    intro cl' hcl
    rw [hrun] at hcl
    cases hcl
    exact hadds

end Condition

/-- A table with a column of counts. -/
def Table.counted : Table := ⟨"counted", "day", [⟨"day", .date⟩, ⟨"units", .int64⟩]⟩

/-- A parameter that took the name of the next one. -/
def Params.ahead : Params := ⟨[⟨"p1", .string, "x"⟩]⟩

/-- The list is refused for its second item, when the first is bound under the next free name. -/
theorem Condition.clause_onlyAdds_counted :
    (∀ column ∈ Table.counted.columns, isIdentifier column.name = true) ∧
    isIdentifier Table.counted.dateColumn = true ∧
    ((clause .counted (.isIn "units" ["1", "two", "3"])).run .ahead).2.toList =
      [⟨"p1", .string, "x"⟩, ⟨"p2", .int64, "1"⟩] ∧
    (Condition.isIn "units" ["1", "two", "3"]).OnlyAdds .counted .ahead := by
  have hcolumns : ∀ column ∈ Table.counted.columns, isIdentifier column.name = true := by decide
  have hdate : isIdentifier Table.counted.dateColumn = true := by decide
  exact ⟨hcolumns, hdate, by decide +kernel, clause_onlyAdds hcolumns hdate _ _⟩

end BalanceSheet
