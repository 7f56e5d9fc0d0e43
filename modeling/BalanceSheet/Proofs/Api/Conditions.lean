import BalanceSheet.Proofs.Command.RepeatedFilters
import BalanceSheet.Proofs.Condition.Bounds
import BalanceSheet.Proofs.Condition.Fitting
import BalanceSheet.Proofs.Registry.Filterable
import BalanceSheet.Registry.Builtin
import Mathlib.Data.List.TakeWhile

/-!
The conditions of a query for metrics. None of what a query gives is dropped: a bound that is not blank makes a
condition on the date, and every name that is not reserved makes one on the field that its key names, which is
among those that may be filtered by. Each of them can be put to every table, so that a table refuses one only
because it lacks the column or because the column cannot hold a value.
-/

namespace BalanceSheet

/-- A failure of the operator and the operand of a condition, whatever the values are. -/
def Failure.OfOperand : Failure → Prop
  | .filter (.unfitOperand _ _ _) | .filter (.emptyList _) => True
  | _ => False

/-- Neither a missing column nor an unfit value is a fault of the operator and its operand. -/
theorem Condition.RefusedBy.not_ofOperand {table : Table} {c : Condition} {f : Failure}
    (h : c.RefusedBy table f) : ¬ f.OfOperand := by
  cases h with
  | lacks => exact id
  | @misfit column value _ _ _ => cases htype : column.type <;> exact id

/-- The condition compares the date with the day that the text writes. -/
def DateBounds.Bounds (compare : String → String → Condition) (text : String) (c : Condition) : Prop :=
  ∃ d, Date.read text = .ok d ∧ c = compare Condition.dateField d.text

/-- A bound that is given makes one condition, and the lower one comes first. -/
theorem DateBounds.conditions_eq_ok {bounds : DateBounds} {cs : List Condition} (h : bounds.conditions = .ok cs) :
    ∃ first last, Option.Rel (Bounds .gte) bounds.first first ∧ Option.Rel (Bounds .lte) bounds.last last ∧
      cs = first.toList ++ last.toList := by
  have hbounds {compare : String → String → Condition} {text : Option String} {date : Option Date}
      (h : Option.Rel (fun text d => Date.read text = .ok d) text date) :
      Option.Rel (Bounds compare) text (date.map fun d => compare Condition.dateField d.text) := by
    cases h with
    | none => exact .none
    | some hread => exact .some ⟨_, hread, rfl⟩
  obtain ⟨first, last, hfirst, hlast, -, rfl⟩ := conditions_eq_ok_iff.mp h
  exact ⟨_, _, hbounds hfirst, hbounds hlast, rfl⟩

namespace Filter

/-- What stands in a key before the operator, without blanks at the ends of the key. -/
def fieldOf (key : String) : String := String.ofList ((Text.trim key).toList.takeWhile fun c => c ≠ '[')

theorem field_of_splitKey {key field : String} {operator : Option Operator}
    (h : splitKey key = .ok (field, operator)) : field = fieldOf key := by
  rw [fieldOf]
  rw [splitKey] at h
  split at h
  case h_1 hcut =>
    simp only [pure_bind, Except.refuse_eq_ok_iff] at h
    obtain ⟨-, h⟩ := h
    cases h
    have hplain := Text.ne_of_not_mem (Text.cut_eq_none_iff.mp hcut)
    rw [List.takeWhile_eq_self_iff.mpr hplain, String.ofList_toList]
  case h_2 before after hcut =>
    rw [Text.before_of_cut hcut]
    split at h
    case h_1 => cases h
    case h_2 word hword =>
      simp only at h
      split at h
      case h_1 => cases h
      case h_2 =>
        simp only [pure_bind, Except.refuse_eq_ok_iff] at h
        obtain ⟨-, h⟩ := h
        cases h
        rfl

/-- The condition is what the entry makes, on the field that its key names, which may be filtered by. -/
structure Makes (allowed : List String) (entry : String × String) (c : Condition) : Prop where
  made : condition allowed entry.1 entry.2 = .ok c
  field : c.field = fieldOf entry.1
  allowed : c.field ∈ allowed

theorem makes_of_condition {allowed : List String} {entry : String × String} {c : Condition}
    (h : condition allowed entry.1 entry.2 = .ok c) : Makes allowed entry c := by
  obtain ⟨operator, hsplit, hallowed, -⟩ := condition_ok h
  exact ⟨h, field_of_splitKey hsplit, hallowed⟩

theorem takes_of_condition {allowed : List String} {key value : String} {c : Condition}
    (h : condition allowed key value = .ok c) : c.operator.takes c.operand = true := by
  obtain ⟨operator, -, -, hoperand⟩ := condition_ok h
  exact takes_of_operand hoperand

end Filter

namespace Api.BalanceQuery

/-- The conditions of a query are its two bounds, if they are given, and then one for each of its filters. -/
theorem exists_of_conditions {q : BalanceQuery} {r : Registry} {cs : List Condition} (h : q.conditions r = .ok cs) :
    ∃ first last filters, Option.Rel (DateBounds.Bounds .gte) q.bounds.first first ∧
      Option.Rel (DateBounds.Bounds .lte) q.bounds.last last ∧
      List.Forall₂ (Filter.Makes r.filterableColumns) q.filters filters ∧
      cs = first.toList ++ last.toList ++ filters := by
  obtain ⟨dates, filters, hdates, hfilters, rfl⟩ := conditions_eq_ok h
  obtain ⟨first, last, hfirst, hlast, rfl⟩ := DateBounds.conditions_eq_ok hdates
  refine ⟨first, last, filters, hfirst, hlast, ?_, rfl⟩
  exact (Except.mapM_ok hfilters).imp fun _ _ => Filter.makes_of_condition

theorem takes_of_bounds {compare : String → String → Condition} {text : Option String} {bound : Option Condition}
    (h : Option.Rel (DateBounds.Bounds compare) text bound)
    (hcompare : ∀ field value, (compare field value).operand = .single value) :
    ∀ c ∈ bound, c.operator.takes c.operand = true := by
  cases h with
  | none => exact nofun
  | some hbound =>
      obtain ⟨d, -, rfl⟩ := hbound
      rintro c ⟨⟩
      rw [hcompare]
      exact Operator.takes_single _ _

/-- The operator of every condition of a query takes its operand. -/
theorem takes_of_conditions {q : BalanceQuery} {r : Registry} {cs : List Condition} (h : q.conditions r = .ok cs) :
    ∀ c ∈ cs, c.operator.takes c.operand = true := by
  obtain ⟨first, last, filters, hfirst, hlast, hfilters, rfl⟩ := exists_of_conditions h
  intro c hc
  simp only [List.mem_append, Option.mem_toList] at hc
  rcases hc with (hc | hc) | hc
  · exact takes_of_bounds hfirst (fun _ _ => rfl) c hc
  · exact takes_of_bounds hlast (fun _ _ => rfl) c hc
  · obtain ⟨entry, -, hmakes⟩ := forall₂_exists_left hfilters hc
    exact Filter.takes_of_condition hmakes.made

/-- A query whose names and values can be read makes its conditions of all of them: of the bounds that are not
blank, the lower one first, and then of every entry whose name is not reserved, in the order of the entries. A
table refuses such a condition only because it lacks the column or because the column cannot hold a value. -/
theorem yoyRequest_filters {raw : RawQuery} {q : BalanceQuery} {r : Registry} {request : YoyRequest}
    (hq : ofRaw raw = .ok q) (hrequest : q.yoyRequest r = .ok request) :
    (∃ first last filters, Option.Rel (DateBounds.Bounds .gte) (raw.value? "start_date") first ∧
      Option.Rel (DateBounds.Bounds .lte) (raw.value? "end_date") last ∧
      List.Forall₂ (Filter.Makes r.filterableColumns) (raw.others reservedKeys) filters ∧
      request.filters = first.toList ++ last.toList ++ filters) ∧
    ∀ table, ∀ c ∈ request.filters,
      (Condition.clause table c).FailsWith fun f => c.RefusedBy table f ∧ ¬ f.OfOperand := by
  have hconditions : q.conditions r = .ok request.filters := AsksUnder.conditions (.inl ⟨request, hrequest, rfl⟩)
  constructor
  · have hexists := exists_of_conditions hconditions
    rw [filters_of_ofRaw hq, bounds_of_ofRaw hq] at hexists
    exact hexists
  · intro table c hc ps f hf
    have hrefused := Condition.failsWith_clause (takes_of_conditions hconditions c hc) table ps f hf
    exact ⟨hrefused, hrefused.not_ofOperand⟩

/-- A blank bound makes no condition, and a price that is no number makes one that a table has to look at. -/
theorem yoyRequest_filters_blankBound :
    let raw : RawQuery := [("brand", "acme, zenith"), ("end_date", " "), ("sales_price[gte]", "ten"),
      ("start_date", "2024-01-15")]
    ∃ q request, ofRaw raw = .ok q ∧ q.yoyRequest Registry.builtin = .ok request ∧
      request.filters = [.gte "date" "2024-01-15", .isIn "brand" ["acme", "zenith"], .gte "sales_price" "ten"] ∧
      ∀ table, ∀ c ∈ request.filters,
        (Condition.clause table c).FailsWith fun f => c.RefusedBy table f ∧ ¬ f.OfOperand := by
  intro raw
  obtain ⟨q, hq, hyoy⟩ := Except.exists_of_map (e := ofRaw raw)
    (f := fun q => (q.yoyRequest Registry.builtin).toOption.map (·.filters))
    (b := some [.gte "date" "2024-01-15", .isIn "brand" ["acme", "zenith"], .gte "sales_price" "ten"])
    (by decide +kernel)
  obtain ⟨request, hrequest, hfilters⟩ := Except.exists_of_map hyoy
  exact ⟨q, request, hq, hrequest, hfilters, (yoyRequest_filters hq hrequest).2⟩

end Api.BalanceQuery
end BalanceSheet
