import BalanceSheet.Proofs.Condition.Outline
import BalanceSheet.Proofs.Condition.Window

/-!
Conditions that differ in their values only. They restrict the same columns by the same operators with as
many values, so their clauses have the same shape and ask for parameters of the same types; and moving
them to the previous window, whatever the day, leaves them alike.
-/

namespace BalanceSheet

/-- No value, one value, or as many values. -/
inductive Operand.Alike : Operand → Operand → Prop
  | none : Alike .none .none
  | single (v v' : String) : Alike (.single v) (.single v')
  | multiple {vs vs' : List String} (h : vs.length = vs'.length) : Alike (.multiple vs) (.multiple vs')

namespace Operand

theorem Alike.symm {o o' : Operand} (h : o.Alike o') : o'.Alike o := by
  cases h with
  | none => exact .none
  | single v v' => exact .single v' v
  | multiple h => exact .multiple h.symm

theorem Alike.trans {o o' o'' : Operand} (h : o.Alike o') (h' : o'.Alike o'') : o.Alike o'' := by
  cases h with
  | none => exact h'
  | single v v' =>
      cases h'
      exact .single ..
  | multiple h =>
      cases h' with
      | multiple h' => exact .multiple (h.trans h')

theorem Alike.refl (o : Operand) : o.Alike o := by
  cases o with
  | none => exact .none
  | single v => exact .single v v
  | multiple vs => exact .multiple rfl

theorem YearEarlier.alike {o o' : Operand} (h : o.YearEarlier o') : o.Alike o' := by
  cases h with
  | none => exact .none
  | single h => exact .single ..
  | multiple h => exact .multiple h.length_eq

end Operand

namespace Clause

/-- Clauses of one shape, over parameters of the same types. -/
def Alike (cl cl' : Clause Param) : Prop := cl.map Param.type = cl'.map Param.type

theorem Alike.types_eq {cl cl' : Clause Param} (h : cl.Alike cl') :
    cl.values.map Param.type = cl'.values.map Param.type := by
  rw [← values_map, ← values_map, h]

theorem Alike.text_eq {cl cl' : Clause Param} (h : cl.Alike cl')
    (hlabels : cl.values.map Param.label = cl'.values.map Param.label) : cl.text = cl'.text := by
  rw [Clause.text_eq, Clause.text_eq, Param.placeholder_eq, ← textWith_map, ← textWith_map,
    map_eq_of_shape h hlabels]

end Clause

namespace Condition

/-- The same field and operator, over values of the same number. -/
structure Alike (c c' : Condition) : Prop where
  field : c.field = c'.field
  operator : c.operator = c'.operator
  operand : c.operand.Alike c'.operand

namespace Alike

variable {c c' c'' : Condition}

theorem symm (h : c.Alike c') : c'.Alike c := ⟨h.field.symm, h.operator.symm, h.operand.symm⟩

theorem trans (h : c.Alike c') (h' : c'.Alike c'') : c.Alike c'' :=
  ⟨h.field.trans h'.field, h.operator.trans h'.operator, h.operand.trans h'.operand⟩

theorem isDate_eq (h : c.Alike c') : c.isDate = c'.isDate := by
  rw [isDate, isDate, h.field]

/-- The outlines have the same shape and types. -/
theorem outline_eq (h : c.Alike c') (column : Column) :
    (outline column c).map (Clause.map Prod.fst) = (outline column c').map (Clause.map Prod.fst) := by
  obtain ⟨field, operator, operand⟩ := c
  obtain ⟨field', operator', operand'⟩ := c'
  obtain ⟨rfl, rfl, hoperand⟩ := h
  cases hoperand with
  | none => rfl
  | single v v' => cases operator <;> rfl
  | @multiple vs vs' hlength =>
      have htypes (type : ValueType) :
          (vs.map fun v => (type, v)).map Prod.fst = (vs'.map fun v => (type, v)).map Prod.fst := by
        simp [Function.comp_def, List.map_const', hlength]
      cases vs <;> cases vs' <;> cases operator <;> simp_all [outline, Clause.map]

theorem clause (h : c.Alike c') {t : Table} {cl cl' : Clause Param} (hcl : c.Makes t cl)
    (hcl' : c'.Makes t cl') : cl.Alike cl' := by
  obtain ⟨column, hcolumn, houtline⟩ := hcl
  obtain ⟨column', hcolumn', houtline'⟩ := hcl'
  rw [← h.field, hcolumn] at hcolumn'
  cases hcolumn'
  have heq := h.outline_eq column
  rw [houtline, houtline'] at heq
  simpa [Clause.Alike, Function.comp_def, Param.content] using heq

end Alike

theorem Moved.alike {c c' : Condition} (h : c.Moved c') : c.Alike c' := by
  refine ⟨h.field.symm, h.operator.symm, ?_⟩
  cases hdate : c.isDate with
  | true => exact (h.dated hdate).alike
  | false => exact h.undated hdate ▸ .refl _

/-- Lists of conditions that are alike position by position. -/
abbrev AllAlike (cs cs' : List Condition) : Prop := List.Forall₂ Alike cs cs'

namespace AllAlike

variable {cs cs' : List Condition}

theorem supported_eq (h : AllAlike cs cs') (t : Table) : supported cs t = supported cs' t := by
  induction h with
  | nil => rfl
  | cons hc _ ih =>
      rw [supported, supported, List.all_cons, List.all_cons, hc.isDate_eq, hc.field]
      exact congrArg _ ih

theorem boundedAbove_eq (h : AllAlike cs cs') : boundedAbove cs = boundedAbove cs' := by
  induction h with
  | nil => rfl
  | cons hc _ ih =>
      rw [boundedAbove, boundedAbove, List.any_cons, List.any_cons, hc.isDate_eq, hc.operator]
      exact congrArg _ ih

theorem undated (h : AllAlike cs cs') :
    AllAlike (cs.filter fun c => !c.isDate) (cs'.filter fun c => !c.isDate) := by
  induction h with
  | nil => exact .nil
  | @cons c c' _ _ hc _ ih =>
      rw [List.filter_cons, List.filter_cons, hc.isDate_eq]
      split
      · exact .cons hc ih
      · exact ih

theorem clauses (h : AllAlike cs cs') {t : Table} {cls cls' : List (Clause Param)}
    (hcls : List.Forall₂ (Makes t) cs cls) (hcls' : List.Forall₂ (Makes t) cs' cls') :
    List.Forall₂ Clause.Alike cls cls' := by
  induction h generalizing cls cls' with
  | nil =>
      cases hcls
      cases hcls'
      exact .nil
  | cons hc _ ih =>
      cases hcls with
      | cons hcl hrest =>
          cases hcls' with
          | cons hcl' hrest' => exact .cons (hc.clause hcl hcl') (ih hrest hrest')

/-- The previous windows of alike conditions are alike, also as seen from different days. -/
theorem previousPeriod (h : AllAlike cs cs') {today today' : Date} {previous previous' : List Condition}
    (hprevious : Condition.previousPeriod cs today = .ok previous)
    (hprevious' : Condition.previousPeriod cs' today' = .ok previous') : AllAlike previous previous' := by
  obtain ⟨moved, rfl, hmoved⟩ := previousPeriod_ok hprevious
  obtain ⟨moved', rfl, hmoved'⟩ := previousPeriod_ok hprevious'
  have hfront : AllAlike moved moved' := by
    clear hprevious hprevious'
    induction h generalizing moved moved' with
    | nil =>
        cases hmoved
        cases hmoved'
        exact .nil
    | cons hc _ ih =>
        cases hmoved with
        | cons hm hrest =>
            cases hmoved' with
            | cons hm' hrest' =>
                exact .cons ((hm.alike.symm.trans hc).trans hm'.alike) (ih _ hrest _ hrest')
  refine List.rel_append hfront ?_
  rw [trailingCap, trailingCap, h.boundedAbove_eq]
  split
  · exact .nil
  · exact .cons ⟨rfl, rfl, .single ..⟩ .nil

end AllAlike
end Condition
end BalanceSheet
