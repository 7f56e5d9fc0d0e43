import BalanceSheet.Proofs.Binding.Run

/-!
What a condition asks of a column, before anything is bound. The outline of a condition is its clause
with typed values where the parameters will stand. Making the clause is binding the values of the outline
from left to right, so the clause is the outline again as soon as the names of its parameters are
forgotten, and the parameters grow by exactly those of the clause.
-/

namespace BalanceSheet

namespace Clause

variable {α β γ : Type}

/-- The clause over the results of a step for each value, taken in the order of the text. -/
def mapM (f : α → Binding β) : Clause α → Binding (Clause β)
  | isNull column => return isNull column
  | isNotNull column => return isNotNull column
  | compares column symbol v => return compares column symbol (← f v)
  | isAmong column symbol vs => return isAmong column symbol (← vs.mapM f)
  | contains target v => return contains target (← f v)
  | lacks target v => return lacks target (← f v)
  | startsWith target v => return startsWith target (← f v)
  | endsWith target v => return endsWith target (← f v)

@[simp] theorem values_map (f : α → β) (cl : Clause α) : (cl.map f).values = cl.values.map f := by
  cases cl <;> rfl

@[simp] theorem map_map (f : α → β) (g : β → γ) (cl : Clause α) :
    (cl.map f).map g = cl.map (g ∘ f) := by
  cases cl <;> simp [map]

/-- The text of a clause, given a text for each value. -/
def textWith (write : α → String) : Clause α → String
  | isNull column => s!"{column} IS NULL"
  | isNotNull column => s!"{column} IS NOT NULL"
  | compares column symbol v => s!"{column} {symbol} {write v}"
  | isAmong column symbol vs => column ++ " " ++ symbol ++ " (" ++ ", ".intercalate (vs.map write) ++ ")"
  | contains target v => s!"position({target}, {write v}) > 0"
  | lacks target v => s!"position({target}, {write v}) = 0"
  | startsWith target v => s!"startsWith({target}, {write v})"
  | endsWith target v => s!"endsWith({target}, {write v})"

theorem text_eq (cl : Clause Param) : cl.text = cl.textWith Param.placeholder := by
  cases cl <;> rfl

theorem textWith_map (f : α → β) (write : β → String) (cl : Clause α) :
    (cl.map f).textWith write = cl.textWith (write ∘ f) := by
  cases cl <;> simp [map, textWith]

/-- A clause is known by its shape and its values. -/
theorem map_eq_of_shape {δ : Type} {f : α → γ} {f' : β → γ} {g : α → δ} {g' : β → δ} {cl : Clause α}
    {cl' : Clause β} (hshape : cl.map g = cl'.map g') (hvalues : cl.values.map f = cl'.values.map f') :
    cl.map f = cl'.map f' := by
  cases cl <;> cases cl' <;> simp_all [map, values]

/-- A clause fails with what binding its values fails with. -/
theorem failsWith_mapM {P : Failure → Prop} {f : α → Binding β} {cl : Clause α}
    (hf : ∀ v ∈ cl.values, (f v).FailsWith P) : (cl.mapM f).FailsWith P := by
  have one (make : β → Clause β) (v : α) (hv : (f v).FailsWith P) :
      (do return make (← f v) : Binding (Clause β)).FailsWith P := hv.bind fun _ => Binding.failsWith_pure _
  cases cl with
  | isNull column => exact Binding.failsWith_pure _
  | isNotNull column => exact Binding.failsWith_pure _
  | isAmong column symbol vs => exact (Binding.FailsWith.mapM hf).bind fun _ => Binding.failsWith_pure _
  | compares column symbol v => exact one (.compares column symbol) v (hf v (List.mem_singleton_self v))
  | contains target v => exact one (.contains target) v (hf v (List.mem_singleton_self v))
  | lacks target v => exact one (.lacks target) v (hf v (List.mem_singleton_self v))
  | startsWith target v => exact one (.startsWith target) v (hf v (List.mem_singleton_self v))
  | endsWith target v => exact one (.endsWith target) v (hf v (List.mem_singleton_self v))

/-- Making a clause is taking its values one after the other. -/
theorem values_mapM (f : α → Binding β) (cl : Clause α) :
    (do return (← cl.mapM f).values : Binding (List β)) = cl.values.mapM f := by
  cases cl <;> simp [mapM, values]

/-- A clause made by binding is its outline without the names, and the parameters grow by its own. -/
theorem run_mapM_ok {f : ValueType × String → Binding Param}
    (hf : ∀ v ps qs p, (f v).run ps = (.ok p, qs) → p.content = v ∧ ps.Grows qs [p])
    {outline : Clause (ValueType × String)} {cl : Clause Param} {ps qs : Params}
    (h : (outline.mapM f).run ps = (.ok cl, qs)) :
    cl.map Param.content = outline ∧ ps.Grows qs cl.values := by
  have one (make : Param → Clause Param) (make' : ValueType × String → Clause (ValueType × String))
      (v : ValueType × String) (hmap : ∀ p, (make p).map Param.content = make' p.content)
      (hvalues : ∀ p, (make p).values = [p])
      (hrun : (do return make (← f v) : Binding (Clause Param)).run ps = (.ok cl, qs)) :
      cl.map Param.content = make' v ∧ ps.Grows qs cl.values := by
    obtain ⟨p, hp, rfl⟩ := Binding.run_map_ok hrun
    obtain ⟨hcontent, hgrows⟩ := hf v _ _ _ hp
    exact ⟨by rw [hmap, hcontent], by rwa [hvalues]⟩
  cases outline with
  | isNull column =>
      obtain ⟨rfl, rfl⟩ := Binding.run_pure_ok h
      exact ⟨rfl, .refl ps⟩
  | isNotNull column =>
      obtain ⟨rfl, rfl⟩ := Binding.run_pure_ok h
      exact ⟨rfl, .refl ps⟩
  | compares column symbol v =>
      exact one (compares column symbol) (compares column symbol) v (fun _ => rfl) (fun _ => rfl) h
  | isAmong column symbol vs =>
      obtain ⟨params, hrun, rfl⟩ := Binding.run_map_ok h
      obtain ⟨hall, hgrows⟩ := Binding.run_mapM_ok (P := fun v p => p.content = v)
        (g := fun p => [p]) (fun v _ ps qs p hp => hf v ps qs p hp) hrun
      have hcontents : params.map Param.content = vs := by
        rw [← List.forall₂_eq_eq_eq, List.forall₂_map_left_iff]
        exact hall.flip
      exact ⟨by simp [map, hcontents], by simpa [values] using hgrows⟩
  | contains target v => exact one (contains target) (contains target) v (fun _ => rfl) (fun _ => rfl) h
  | lacks target v => exact one (lacks target) (lacks target) v (fun _ => rfl) (fun _ => rfl) h
  | startsWith target v =>
      exact one (startsWith target) (startsWith target) v (fun _ => rfl) (fun _ => rfl) h
  | endsWith target v => exact one (endsWith target) (endsWith target) v (fun _ => rfl) (fun _ => rfl) h

end Clause

namespace Condition

/-- The values that a condition compares its column with: none where it only asks for their presence. -/
def boundValues (c : Condition) : List String :=
  match c.operator with
  | .isSet | .isNotSet => []
  | _ => c.operand.values

/-- The clause of a condition with typed values in place of parameters, if its operator takes its
operand. Patterns are text whatever the column holds. -/
def outline (column : Column) (c : Condition) : Option (Clause (ValueType × String)) :=
  let typed (v : String) := (column.type, v)
  let text (v : String) := (ValueType.string, v)
  match c.operator, c.operand with
  | .isSet, _ => some (.isNotNull column.name)
  | .isNotSet, _ => some (.isNull column.name)
  | .isIn, .multiple [] | .notIn, .multiple [] => none
  | .isIn, .multiple vs => some (.isAmong column.name "IN" (vs.map typed))
  | .notIn, .multiple vs => some (.isAmong column.name "NOT IN" (vs.map typed))
  | .isIn, .single v => some (.isAmong column.name "IN" [typed v])
  | .notIn, .single v => some (.isAmong column.name "NOT IN" [typed v])
  | .eq, .single v => some (.compares column.name "=" (typed v))
  | .ne, .single v => some (.compares column.name "!=" (typed v))
  | .gt, .single v => some (.compares column.name ">" (typed v))
  | .gte, .single v => some (.compares column.name ">=" (typed v))
  | .lt, .single v => some (.compares column.name "<" (typed v))
  | .lte, .single v => some (.compares column.name "<=" (typed v))
  | .contains, .single v => some (.contains (searched column) (text v))
  | .notContains, .single v => some (.lacks (searched column) (text v))
  | .startsWith, .single v => some (.startsWith (searched column) (text v))
  | .endsWith, .single v => some (.endsWith (searched column) (text v))
  | _, _ => none

/-- Why a condition without an outline is refused. -/
def refusal (c : Condition) : Failure :=
  match c.operator, c.operand with
  | .isIn, .multiple [] | .notIn, .multiple [] => .filter (.emptyList c.field)
  | operator, operand => .filter (.unfitOperand operator operand c.field)

/-- Text is never refused. -/
theorem bindText (field value : String) : Binding.bind .string value = bindValue field .string value := rfl

/-- Making a clause is binding the values of the outline, in the order of the text. -/
theorem clauseOn_eq (column : Column) (c : Condition) :
    clauseOn column c =
      match outline column c with
      | some o => o.mapM fun v => bindValue c.field v.1 v.2
      | none => Binding.fail c.refusal := by
  obtain ⟨field, operator, operand⟩ := c
  cases operand with
  | none => cases operator <;> rfl
  | single v => cases operator <;> simp [clauseOn, outline, Clause.mapM, bindText field]
  | multiple vs =>
      cases vs with
      | nil => cases operator <;> rfl
      | cons v vs =>
          cases operator <;> simp [clauseOn, outline, refusal, Clause.mapM, Function.comp_def]

theorem run_bindValue_ok {field : String} {v : ValueType × String} {ps qs : Params} {p : Param}
    (h : (bindValue field v.1 v.2).run ps = (.ok p, qs)) : p.content = v ∧ ps.Grows qs [p] := by
  rw [bindValue] at h
  split at h
  · exact Binding.run_bindParam_ok h
  · exact (Binding.run_fail_ne_ok h).elim

theorem failsWith_bindValue {P : Failure → Prop} {field value : String} {type : ValueType}
    (h : type.admits value = false → P (type.misfit field value)) : (bindValue field type value).FailsWith P := by
  rw [bindValue]
  split
  case isTrue => exact Binding.failsWith_bind type value
  case isFalse hadmits => exact Binding.failsWith_fail (h (by simpa using hadmits))

/-- `cl` is a clause of the condition for the table: its parameters hold the typed values. -/
def Makes (table : Table) (c : Condition) (cl : Clause Param) : Prop :=
  ∃ column, column? table c.field = some column ∧ outline column c = some (cl.map Param.content)

theorem run_clause_ok {table : Table} {c : Condition} {cl : Clause Param} {ps qs : Params}
    (h : (clause table c).run ps = (.ok cl, qs)) : c.Makes table cl ∧ ps.Grows qs cl.values := by
  rw [clause] at h
  split at h
  case h_1 column hcolumn =>
      rw [clauseOn_eq] at h
      split at h
      case h_1 o houtline =>
          obtain ⟨rfl, hgrows⟩ := Clause.run_mapM_ok (fun _ _ _ _ => run_bindValue_ok) h
          exact ⟨⟨column, hcolumn, houtline⟩, hgrows⟩
      case h_2 => exact (Binding.run_fail_ne_ok h).elim
  case h_2 => exact (Binding.run_fail_ne_ok h).elim

theorem run_clauses_ok {table : Table} {cs : List Condition} {cls : List (Clause Param)} {ps qs : Params}
    (h : (cs.mapM (clause table)).run ps = (.ok cls, qs)) :
    List.Forall₂ (Makes table) cs cls ∧ ps.Grows qs (cls.flatMap Clause.values) :=
  Binding.run_mapM_ok (fun _ _ _ _ _ => run_clause_ok) h

theorem values_outline {column : Column} {c : Condition} {o : Clause (ValueType × String)}
    (h : outline column c = some o) : o.values.map Prod.snd = c.boundValues := by
  obtain ⟨field, operator, operand⟩ := c
  cases operand with
  | none => cases operator <;> simp [outline] at h <;> subst h <;> rfl
  | single v => cases operator <;> simp [outline] at h <;> subst h <;> rfl
  | multiple vs =>
      cases vs <;> cases operator <;> simp [outline] at h <;> subst h <;>
        simp [boundValues, Operand.values, Clause.values, Function.comp_def]

/-- The parameters of a clause hold the values of its condition, in order. -/
theorem Makes.values {table : Table} {c : Condition} {cl : Clause Param} (h : c.Makes table cl) :
    cl.values.map Param.value = c.boundValues := by
  obtain ⟨column, -, houtline⟩ := h
  rw [← values_outline houtline, Clause.values_map, List.map_map]
  rfl

end Condition
end BalanceSheet
