import BalanceSheet.Condition.Clause
import BalanceSheet.Proofs.Condition.Days

/-!
Bounds on the date, written in one way. However a date is given, its condition has the text of the date, and that
text is read as the date wherever a date is read. So conditions made again from the values of conditions are the
same, and every date that is written can be moved to another period and be bound to a column that holds dates.
-/

namespace BalanceSheet

/-- The value is the text of a date. -/
def Date.Writes (v : String) : Prop := ∃ d : Date, d.text = v

/-- The value is read wherever one is read as a date: to be moved to the previous period, and to be bound to a column
that holds dates. -/
structure Date.Rereads (v : String) : Prop where
  moves : ∃ v', Condition.yearEarlier v = .ok v'
  fits : ValueType.date.admits v = true

theorem Date.Writes.rereads {v : String} (h : Date.Writes v) : Date.Rereads v := by
  obtain ⟨d, rfl⟩ := h
  constructor
  · exact ⟨_, Condition.yearEarlier_of_read (Date.read_text d)⟩
  · rw [ValueType.admits, Date.parse?_text]
    rfl

namespace Condition

/-! ### Periods -/

/-- The conditions of a period with these ends, either of which may be open. -/
def within (first last : Option Date) : List Condition :=
  (first.map fun d => gte dateField d.text).toList ++ (last.map fun d => lte dateField d.text).toList

theorem writes_of_mem_within {first last : Option Date} {c : Condition} (hc : c ∈ within first last) :
    ∀ v ∈ c.operand.values, Date.Writes v := by
  simp only [within, List.mem_append, Option.mem_toList, Option.map_eq_some_iff] at hc
  rcases hc with ⟨d, -, rfl⟩ | ⟨d, -, rfl⟩
  all_goals
    intro v hv
    exact ⟨d, (List.mem_singleton.mp hv).symm⟩

/-! ### Previous periods -/

theorem writes_of_yearEarlier {v v' : String} (h : yearEarlier v = .ok v') : Date.Writes v' := by
  obtain ⟨d, -, h⟩ := Except.bind_eq_ok_iff.mp h
  cases h
  exact ⟨d.shiftYears (-1), rfl⟩

theorem writes_of_operandYearEarlier {o o' : Operand} (h : o.YearEarlier o') : ∀ v ∈ o'.values, Date.Writes v := by
  cases h with
  | none => nofun
  | single h =>
      intro v hv
      rw [List.mem_singleton.mp hv]
      exact writes_of_yearEarlier h
  | multiple h =>
      intro v hv
      obtain ⟨_, -, hv⟩ := forall₂_exists_left h hv
      exact writes_of_yearEarlier hv

/-- What a condition of the previous period says of the date is written anew. -/
theorem writes_of_previousPeriod {cs previous : List Condition} {today : Date}
    (h : previousPeriod cs today = .ok previous) {c : Condition} (hc : c ∈ previous) (hdate : c.isDate = true) :
    ∀ v ∈ c.operand.values, Date.Writes v := by
  obtain ⟨moved, rfl, hmoved⟩ := previousPeriod_ok h
  rcases List.mem_append.mp hc with hc | hc
  · obtain ⟨_, -, hmove⟩ := forall₂_exists_left hmoved hc
    exact writes_of_operandYearEarlier (hmove.dated (hmove.isDate_eq ▸ hdate))
  · obtain ⟨rfl, -⟩ := mem_trailingCap_iff.mp hc
    intro v hv
    exact ⟨today.shiftYears (-1), (List.mem_singleton.mp hv).symm⟩

end Condition

namespace DateBounds

/-- What conditions say of a period: the value of the first that bounds it from below, and of the first that bounds
it from above. -/
def ofConditions (cs : List Condition) : DateBounds where
  first := (cs.find? fun c => c.operator = .gte).bind fun c => c.operand.values.head?
  last := (cs.find? fun c => c.operator = .lte).bind fun c => c.operand.values.head?

theorem ofConditions_within (first last : Option Date) :
    ofConditions (Condition.within first last) = ⟨first.map Date.text, last.map Date.text⟩ := by
  cases first <;> cases last <;> rfl

/-- The date is that of the bound, if one is given. -/
def Reads (given : Option String) (date : Option Date) : Prop := Option.Rel (fun s d => Date.read s = .ok d) given date

theorem reads_text (date : Option Date) : Reads (date.map Date.text) date := by
  cases date with
  | none => exact .none
  | some d => exact .some (Date.read_text d)

/-- Bounds that are dates in order make the conditions of their period, and no others make any. -/
theorem conditions_eq_ok_iff {bounds : DateBounds} {cs : List Condition} : bounds.conditions = .ok cs ↔
    ∃ first last, Reads bounds.first first ∧ Reads bounds.last last ∧ (∀ a ∈ first, ∀ b ∈ last, a ≤ b) ∧
      Condition.within first last = cs := by
  constructor
  · intro h
    obtain ⟨first, hfirst, h⟩ := Except.bind_eq_ok_iff.mp h
    obtain ⟨last, hlast, h⟩ := Except.bind_eq_ok_iff.mp h
    refine ⟨first, last, Except.option_mapM_ok hfirst, Except.option_mapM_ok hlast, ?_⟩
    cases first with
    | none => cases last <;> cases h <;> exact ⟨fun _ ha => (Option.not_mem_none _ ha).elim, rfl⟩
    | some a =>
        cases last with
        | none =>
            cases h
            exact ⟨fun _ _ _ hb => (Option.not_mem_none _ hb).elim, rfl⟩
        | some b =>
            obtain ⟨hle, h⟩ := Except.guard_eq_ok_iff.mp h
            cases h
            refine ⟨?_, rfl⟩
            rintro _ ⟨⟩ _ ⟨⟩
            exact hle
  · rintro ⟨first, last, hfirst, hlast, horder, rfl⟩
    rw [conditions, Except.option_mapM_of_rel hfirst, Except.option_mapM_of_rel hlast]
    cases first with
    | none => cases last <;> rfl
    | some a =>
        cases last with
        | none => rfl
        | some b => exact if_pos (horder a rfl b rfl)

/-- Conditions on the date come in one form: the lower bound first, each bound once and as the text of its date, and
in order. Made again from their own values they are the same. Whatever date is written, here or for the previous
period, is read as a date again. -/
theorem conditions_stable :
    (∀ (bounds : DateBounds) (cs : List Condition), bounds.conditions = .ok cs →
      (∃ first last, Reads bounds.first first ∧ Reads bounds.last last ∧ (∀ a ∈ first, ∀ b ∈ last, a ≤ b) ∧
        cs = (first.map fun d => .gte Condition.dateField d.text).toList ++
          (last.map fun d => .lte Condition.dateField d.text).toList) ∧
      (ofConditions cs).conditions = .ok cs ∧ ∀ c ∈ cs, ∀ v ∈ c.operand.values, Date.Rereads v) ∧
    (∀ d : Date, Date.read d.text = .ok d) ∧
    ∀ cs today previous, Condition.previousPeriod cs today = .ok previous →
      ∀ c ∈ previous, c.isDate = true → ∀ v ∈ c.operand.values, Date.Rereads v := by
  refine ⟨?_, Date.read_text, ?_⟩
  · intro bounds cs h
    obtain ⟨first, last, hfirst, hlast, horder, rfl⟩ := conditions_eq_ok_iff.mp h
    refine ⟨⟨first, last, hfirst, hlast, horder, rfl⟩, ?_, ?_⟩
    · rw [ofConditions_within]
      exact conditions_eq_ok_iff.mpr ⟨first, last, reads_text first, reads_text last, horder, rfl⟩
    · exact fun c hc v hv => (Condition.writes_of_mem_within hc v hv).rereads
  · exact fun cs today previous h c hc hdate v hv => (Condition.writes_of_previousPeriod h hc hdate v hv).rereads

/-- Dates given with blanks and signs and with fewer digits than they are written with. -/
theorem conditions_stable_signed :
    let cs : List Condition := [.gte "date" "-0001-02-03", .lte "date" "+12024-01-01"]
    conditions ⟨some " -1- 2-3", some "+12024-1-01 "⟩ = .ok cs ∧ (ofConditions cs).conditions = .ok cs ∧
      Date.Rereads "-0001-02-03" ∧ Date.Rereads "-0002-02-03" := by
  intro cs
  obtain ⟨_, hcs, rfl⟩ := Except.exists_of_map (e := conditions ⟨some " -1- 2-3", some "+12024-1-01 "⟩) (f := id)
    (b := cs) (by decide +kernel)
  obtain ⟨_, hprevious, rfl⟩ := Except.exists_of_map
    (e := Condition.previousPeriod cs ⟨2024, 3, 15, by decide, by decide, by decide⟩) (f := id)
    (b := [.gte "date" "-0002-02-03", .lte "date" "+12023-01-01"]) (by decide +kernel)
  obtain ⟨hconditions, -, hmoved⟩ := conditions_stable
  obtain ⟨-, hagain, hwritten⟩ := hconditions _ _ hcs
  exact ⟨hcs, hagain, hwritten (.gte "date" "-0001-02-03") (by decide) _ (by decide),
    hmoved _ _ _ hprevious (.gte "date" "-0002-02-03") (by decide) rfl _ (by decide)⟩

end DateBounds
end BalanceSheet
