import BalanceSheet.Proofs.Calendar.Shift
import BalanceSheet.Proofs.Calendar.Text
import BalanceSheet.Proofs.Condition.Window
import BalanceSheet.Proofs.Lists

/-!
The days of a window beside those of the window a year earlier. A condition on the date bounds the days from one side
or lists them. As dates stay in order when they are moved, the day a year before each day of a window is a day of the
previous window; that one is always bounded from above, by the cap if by nothing else.
-/

namespace BalanceSheet

theorem Operator.isUpperBound_iff {operator : Operator} :
    operator.isUpperBound = true ↔ operator ∈ [.lt, .lte, .eq, .isIn] := by
  cases operator <;> decide

namespace Condition

/-- The condition, as one on the date, lets the day through. -/
inductive Admits : Condition → Date → Prop
  | gte {field v : String} {b x : Date} (hread : Date.read v = .ok b) (h : b ≤ x) : Admits (.gte field v) x
  | lte {field v : String} {b x : Date} (hread : Date.read v = .ok b) (h : x ≤ b) : Admits (.lte field v) x
  | eq {field v : String} {x : Date} (hread : Date.read v = .ok x) : Admits (.eq field v) x
  | isIn {field v : String} {vs : List String} {x : Date} (hmem : v ∈ vs) (hread : Date.read v = .ok x) :
      Admits (.isIn field vs) x

/-- Each date that the condition names has one a year earlier. -/
def NamesReach (c : Condition) : Prop := ∀ v ∈ c.operand.values, ∀ b, Date.read v = .ok b → b.Reaches (-1)

/-! ### One condition -/

theorem yearEarlier_of_read {v : String} {b : Date} (h : Date.read v = .ok b) :
    yearEarlier v = .ok (b.shiftYears (-1)).text := by
  rw [yearEarlier, h]
  rfl

/-- A condition with one date moves with the date. -/
theorem Moved.eq_of_single {field v : String} {operator : Operator} {c' : Condition} {b : Date}
    (h : Moved ⟨field, operator, .single v⟩ c') (hdate : field = dateField) (hread : Date.read v = .ok b) :
    c' = ⟨field, operator, .single (b.shiftYears (-1)).text⟩ := by
  obtain ⟨field', operator', operand'⟩ := c'
  obtain rfl : field' = field := h.field
  obtain rfl : operator' = operator := h.operator
  have hoperand : Operand.YearEarlier (.single v) operand' := h.dated (by simp [isDate, hdate])
  cases hoperand with
  | single hv =>
      rw [yearEarlier_of_read hread] at hv
      cases hv
      rfl

/-- A list of dates moves date by date. -/
theorem Moved.exists_of_isIn {field v : String} {vs : List String} {c' : Condition} {b : Date}
    (h : Moved (.isIn field vs) c') (hdate : field = dateField) (hmem : v ∈ vs) (hread : Date.read v = .ok b) :
    ∃ vs', c' = .isIn field vs' ∧ (b.shiftYears (-1)).text ∈ vs' := by
  obtain ⟨field', operator', operand'⟩ := c'
  obtain rfl : field' = field := h.field
  obtain rfl : operator' = .isIn := h.operator
  have hoperand : Operand.YearEarlier (.multiple vs) operand' := h.dated (by simp [isDate, isIn, hdate])
  cases hoperand with
  | @multiple _ vs' hvs =>
      obtain ⟨v', hv', hyear⟩ := forall₂_exists_right hvs hmem
      rw [yearEarlier_of_read hread] at hyear
      cases hyear
      exact ⟨vs', rfl, hv'⟩

/-- The condition for the previous window lets through the day a year before one that this one lets through. -/
theorem Moved.admits {c c' : Condition} (h : c.Moved c') (hdate : c.isDate = true) {x : Date} (hx : x.Reaches (-1))
    (hnames : c.NamesReach) (hadmits : c.Admits x) : c'.Admits (x.shiftYears (-1)) := by
  have hfield : c.field = dateField := by simpa [isDate] using hdate
  cases hadmits with
  | @gte _ v b _ hread hle =>
      have hb : b.Reaches (-1) := hnames v (List.mem_singleton_self v) b hread
      rw [h.eq_of_single hfield hread]
      exact .gte (Date.read_text _) (Date.shiftYears_le_shiftYears hb hx hle)
  | @lte _ v b _ hread hle =>
      have hb : b.Reaches (-1) := hnames v (List.mem_singleton_self v) b hread
      rw [h.eq_of_single hfield hread]
      exact .lte (Date.read_text _) (Date.shiftYears_le_shiftYears hx hb hle)
  | eq hread =>
      rw [h.eq_of_single hfield hread]
      exact .eq (Date.read_text _)
  | isIn hmem hread =>
      obtain ⟨vs', rfl, hmem'⟩ := h.exists_of_isIn hfield hmem hread
      exact .isIn hmem' (Date.read_text _)

theorem Moved.isDate_eq {c c' : Condition} (h : c.Moved c') : c'.isDate = c.isDate := by
  rw [isDate, isDate, h.field]

/-- Conditions that are not on the date stay as they are. -/
theorem filter_undated_of_moved {cs moved : List Condition} (h : List.Forall₂ Moved cs moved) :
    moved.filter (fun c => !c.isDate) = cs.filter fun c => !c.isDate := by
  induction h with
  | nil => rfl
  | @cons c c' _ _ hc _ ih =>
      rw [List.filter_cons, List.filter_cons, hc.isDate_eq, ih]
      cases hdate : c.isDate with
      | true => rfl
      | false => rw [hc.undated hdate]

/-! ### The window -/

theorem boundedAbove_eq_false_iff {cs : List Condition} :
    boundedAbove cs = false ↔ ∀ c ∈ cs, c.isDate = true → c.operator.isUpperBound = false := by
  simp [boundedAbove]

/-- A window that is open from above is capped, and no other. -/
theorem mem_trailingCap_iff {cs : List Condition} {today : Date} {c : Condition} :
    c ∈ trailingCap cs today ↔ c = cap today ∧ boundedAbove cs = false := by
  rw [trailingCap]
  cases boundedAbove cs <;> simp

theorem exists_upperBound {cs moved : List Condition} (h : List.Forall₂ Moved cs moved) (today : Date) :
    ∃ c ∈ moved ++ trailingCap cs today, c.isDate = true ∧ c.operator.isUpperBound = true := by
  cases hbounded : boundedAbove cs with
  | false => exact ⟨cap today, List.mem_append_right _ (mem_trailingCap_iff.mpr ⟨rfl, hbounded⟩), rfl, rfl⟩
  | true =>
      obtain ⟨c, hc, hupper⟩ := List.any_eq_true.mp hbounded
      obtain ⟨c', hc', hmove⟩ := forall₂_exists_right h hc
      rw [Bool.and_eq_true, ← hmove.isDate_eq, ← hmove.operator] at hupper
      exact ⟨c', List.mem_append_left _ hc', hupper⟩

theorem filter_undated_trailingCap (cs : List Condition) (today : Date) :
    (trailingCap cs today).filter (fun c => !c.isDate) = [] := by
  rw [trailingCap]
  split <;> rfl

/-- Where a day is in a window, the day a year earlier is in the previous window. What is not on the date is in both
and in the same order, and the previous window is bounded from above. -/
theorem previousPeriod_admits {cs previous : List Condition} {today : Date}
    (h : previousPeriod cs today = .ok previous) :
    (∀ x : Date, (∀ c ∈ cs, c.isDate = true → c.Admits x ∧ c.NamesReach) →
      ((∀ c ∈ cs, c.isDate = true → c.operator.isUpperBound = false) → x ≤ today) → x.Reaches (-1) →
      ∀ c ∈ previous, c.isDate = true → c.Admits (x.shiftYears (-1))) ∧
    previous.filter (fun c => !c.isDate) = cs.filter (fun c => !c.isDate) ∧
    ∃ c ∈ previous, c.isDate = true ∧ c.operator ∈ [.lt, .lte, .eq, .isIn] := by
  obtain ⟨moved, rfl, hmoved⟩ := previousPeriod_ok h
  refine ⟨?_, ?_, ?_⟩
  · intro x hx htoday hreaches c hc hdate
    rcases List.mem_append.mp hc with hc | hc
    · obtain ⟨c₀, hc₀, hmove⟩ := forall₂_exists_left hmoved hc
      have hdate₀ : c₀.isDate = true := by rwa [hmove.isDate_eq] at hdate
      obtain ⟨hadmits, hnames⟩ := hx c₀ hc₀ hdate₀
      exact hmove.admits hdate₀ hreaches hnames hadmits
    · obtain ⟨rfl, hopen⟩ := mem_trailingCap_iff.mp hc
      have hle : x ≤ today := htoday (boundedAbove_eq_false_iff.mp hopen)
      have htoday : today.Reaches (-1) := hreaches.of_le (by decide) hle
      exact .lte (Date.read_text _) (Date.shiftYears_le_shiftYears hreaches htoday hle)
  · rw [List.filter_append, filter_undated_trailingCap, List.append_nil, filter_undated_of_moved hmoved]
  · obtain ⟨c, hc, hdate, hupper⟩ := exists_upperBound hmoved today
    exact ⟨c, hc, hdate, Operator.isUpperBound_iff.mp hupper⟩

/-- From the 29th of February on, with no end. -/
theorem previousPeriod_admits_openEnd :
    let cs : List Condition := [.gte dateField "2024-02-29", .eq "brand" "Apple"]
    let today : Date := ⟨2024, 3, 15, by decide, by decide, by decide⟩
    let x : Date := ⟨2024, 3, 1, by decide, by decide, by decide⟩
    ∃ previous, previousPeriod cs today = .ok previous ∧
      previous = [.gte dateField "2023-02-28", .eq "brand" "Apple", .lte dateField "2023-03-15"] ∧
      (∀ c ∈ previous, c.isDate = true → c.Admits (x.shiftYears (-1))) ∧
      previous.filter (fun c => !c.isDate) = [.eq "brand" "Apple"] ∧
      ∃ c ∈ previous, c.isDate = true ∧ c.operator ∈ [.lt, .lte, .eq, .isIn] := by
  intro cs today x
  let leapDay : Date := ⟨2024, 2, 29, by decide, by decide, by decide⟩
  obtain ⟨previous, hprevious, hconditions⟩ := Except.exists_of_map (f := id) (e := previousPeriod cs today)
    (b := [.gte dateField "2023-02-28", .eq "brand" "Apple", .lte dateField "2023-03-15"]) (by decide +kernel)
  obtain ⟨hdays, hundated, hupper⟩ := previousPeriod_admits hprevious
  have hread : Date.read "2024-02-29" = .ok leapDay := by
    have htext : leapDay.text = "2024-02-29" := by decide +kernel
    rw [← htext, Date.read_text]
  refine ⟨previous, hprevious, hconditions, hdays x ?_ (fun _ => by decide) (by decide), hundated.trans ?_, hupper⟩
  · intro c hc hdate
    rcases List.mem_pair.mp hc with rfl | rfl
    · refine ⟨.gte hread (by decide), ?_⟩
      intro v hv b hb
      rw [List.mem_singleton.mp hv, hread] at hb
      cases hb
      decide
    · cases hdate
  · decide

end Condition
end BalanceSheet
