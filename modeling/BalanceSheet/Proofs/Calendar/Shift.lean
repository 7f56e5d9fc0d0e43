import BalanceSheet.Calendar.Date

/-!
Dates some years later or earlier. The year moves, the month stays, and so does the day unless the month is too short
for it there. Only the 29th of February can meet a month that is, so a shift is undone by the shift back from every
other day, and it keeps dates in order.
-/

namespace BalanceSheet

namespace Calendar

theorem monthLength_ge (year : Int) (month : Nat) : 28 ≤ monthLength year month := by
  rw [monthLength]
  split
  · split <;> decide
  · split <;> decide

theorem monthLength_february (year : Int) : monthLength year 2 = if isLeap year then 29 else 28 := rfl

/-- Only February has a length that depends on the year. -/
theorem monthLength_congr {month : Nat} (h : month ≠ 2) (year year' : Int) :
    monthLength year month = monthLength year' month := by
  rw [monthLength, monthLength, if_neg h, if_neg h]

end Calendar

namespace Date

open Calendar

theorem eq_of_parts {d e : Date} (hyear : d.year = e.year) (hmonth : d.month = e.month) (hday : d.day = e.day) :
    d = e := by
  cases d
  cases e
  simp_all

theorem ofParts?_eq_some_iff {year : Int} {month day : Nat} {d : Date} :
    ofParts? year month day = some d ↔ d.year = year ∧ d.month = month ∧ d.day = day := by
  constructor
  · intro h
    simp only [ofParts?] at h
    split at h
    case isFalse => cases h
    case isTrue =>
      split at h
      case isFalse => cases h
      case isTrue =>
        split at h
        case isFalse => cases h
        case isTrue =>
          cases h
          exact ⟨rfl, rfl, rfl⟩
  · rintro ⟨rfl, rfl, rfl⟩
    exact ofParts?_parts d

theorem exists_ofParts? {year : Int} {month day : Nat} (hyear : firstYear ≤ year ∧ year ≤ lastYear)
    (hmonth : 1 ≤ month ∧ month ≤ 12) (hday : 1 ≤ day ∧ day ≤ monthLength year month) :
    ∃ d, ofParts? year month day = some d := ⟨_, ofParts?_parts ⟨year, month, day, hyear, hmonth, hday⟩⟩

/-! ### Order -/

theorem le_iff {d e : Date} :
    d ≤ e ↔ d.year < e.year ∨ d.year = e.year ∧ (d.month < e.month ∨ d.month = e.month ∧ d.day ≤ e.day) := Iff.rfl

theorem le_refl (d : Date) : d ≤ d := by
  rw [le_iff]
  omega

/-! ### Shifts -/

/-- The year `n` years later is one that dates can have. -/
def Reaches (d : Date) (n : Int) : Prop := firstYear ≤ d.year + n ∧ d.year + n ≤ lastYear

instance (d : Date) (n : Int) : Decidable (d.Reaches n) := inferInstanceAs (Decidable (_ ∧ _))

/-- The day is added to some years only. -/
def IsLeapDay (d : Date) : Prop := d.month = 2 ∧ d.day = 29

instance (d : Date) : Decidable d.IsLeapDay := inferInstanceAs (Decidable (_ ∧ _))

theorem day_le_of_february {d : Date} (h : d.month = 2) : d.day ≤ 29 := by
  have hday := d.day_range.2
  rw [h, monthLength_february] at hday
  split at hday <;> omega

/-- A month is long enough for a day that it has in another year, but for the 29th of February. -/
theorem day_le_monthLength_iff (d : Date) (year : Int) :
    d.day ≤ monthLength year d.month ↔ ¬ (d.IsLeapDay ∧ isLeap year = false) := by
  by_cases hmonth : d.month = 2
  · have hday := day_le_of_february hmonth
    rw [IsLeapDay, hmonth, monthLength_february]
    cases isLeap year <;> simp <;> omega
  · have hplain : ¬ (d.IsLeapDay ∧ isLeap year = false) := fun h => hmonth h.1.1
    rw [monthLength_congr hmonth year d.year]
    exact iff_of_true d.day_range.2 hplain

variable {d e : Date} {n : Int}

/-- Where a month is too short for the day, its last day is the 28th. -/
theorem monthLength_of_lt {year : Int} (h : monthLength year d.month < d.day) : monthLength year d.month = 28 := by
  have hshort : ¬ d.day ≤ monthLength year d.month := Nat.not_le_of_lt h
  have hleap : d.IsLeapDay ∧ isLeap year = false :=
    Decidable.not_not.mp fun hnot => hshort ((day_le_monthLength_iff d year).mpr hnot)
  rw [hleap.1.1, monthLength_february, hleap.2]
  rfl

theorem parts_shiftYears (h : d.Reaches n) :
    (d.shiftYears n).year = d.year + n ∧ (d.shiftYears n).month = d.month ∧
      (d.shiftYears n).day = min d.day (monthLength (d.year + n) d.month) := by
  by_cases hday : d.day ≤ monthLength (d.year + n) d.month
  · obtain ⟨moved, hmoved⟩ := exists_ofParts? h d.month_range ⟨d.day_range.1, hday⟩
    have hshift : d.shiftYears n = moved := by
      rw [shiftYears, hmoved]
      rfl
    rw [hshift, Nat.min_eq_left hday]
    exact ofParts?_eq_some_iff.mp hmoved
  · -- the month ends on the 28th, which is tried next
    have hlast : monthLength (d.year + n) d.month = 28 := monthLength_of_lt (Nat.lt_of_not_le hday)
    obtain ⟨moved, hmoved⟩ := exists_ofParts? h d.month_range ⟨by decide, Nat.le_of_eq hlast.symm⟩
    have hnone : ofParts? (d.year + n) d.month d.day = none := by
      rw [Option.eq_none_iff_forall_ne_some]
      intro f hf
      obtain ⟨hyear, hmonth, hfday⟩ := ofParts?_eq_some_iff.mp hf
      have hrange := f.day_range.2
      rw [hyear, hmonth, hfday] at hrange
      exact hday hrange
    have hshift : d.shiftYears n = moved := by
      rw [shiftYears, hnone, hmoved]
      rfl
    have hmin : min d.day 28 = 28 := by omega
    rw [hshift, hlast, hmin]
    exact ofParts?_eq_some_iff.mp hmoved

/-- A later date has more years before it. -/
theorem Reaches.of_le (h : d.Reaches n) (hn : n ≤ 0) (hle : d ≤ e) : e.Reaches n := by
  have hrange := e.year_range
  rw [le_iff] at hle
  obtain ⟨hfirst, hlast⟩ := h
  exact ⟨by omega, by omega⟩

theorem Reaches.shiftYears_neg (h : d.Reaches n) : (d.shiftYears n).Reaches (-n) := by
  obtain ⟨hyear, -, -⟩ := parts_shiftYears h
  have hrange := d.year_range
  rw [Reaches, hyear]
  omega

theorem shiftYears_le_shiftYears (hd : d.Reaches n) (he : e.Reaches n) (h : d ≤ e) :
    d.shiftYears n ≤ e.shiftYears n := by
  obtain ⟨hyear, hmonth, hday⟩ := parts_shiftYears hd
  obtain ⟨hyear', hmonth', hday'⟩ := parts_shiftYears he
  rw [le_iff] at h ⊢
  rw [hyear, hmonth, hday, hyear', hmonth', hday']
  rcases h with hlt | ⟨heq, hlt | ⟨hmeq, hle⟩⟩
  · exact .inl (by omega)
  · exact .inr ⟨by omega, .inl hlt⟩
  · -- the same month of the same year has the same last day
    rw [heq, hmeq]
    exact .inr ⟨rfl, .inr ⟨rfl, by omega⟩⟩

theorem shiftYears_neg_eq_iff (h : d.Reaches n) :
    (d.shiftYears n).shiftYears (-n) = d ↔ ¬ (d.IsLeapDay ∧ isLeap (d.year + n) = false) := by
  obtain ⟨hyear, hmonth, hday⟩ := parts_shiftYears h
  obtain ⟨hyear', hmonth', hday'⟩ := parts_shiftYears h.shiftYears_neg
  have hback : (d.shiftYears n).year + -n = d.year := by omega
  have hrange := d.day_range.2
  rw [hback, hmonth, hday] at hday'
  rw [← day_le_monthLength_iff]
  constructor
  · intro heq
    rw [heq] at hday'
    omega
  · intro hle
    exact eq_of_parts (by omega) (by omega) (by omega)

/-- A shift moves the year, keeps the month and takes the day, or the last one of the month if that comes first; it
keeps dates in order, and the shift back undoes it but where the 29th of February was lost. -/
theorem shiftYears_clamps (h : d.Reaches n) :
    ((d.shiftYears n).year = d.year + n ∧ (d.shiftYears n).month = d.month ∧
      (d.shiftYears n).day = min d.day (monthLength (d.year + n) d.month)) ∧
    (∀ e : Date, e.Reaches n → d ≤ e → d.shiftYears n ≤ e.shiftYears n) ∧
    ((d.shiftYears n).shiftYears (-n) = d ↔ ¬ (d.month = 2 ∧ d.day = 29 ∧ isLeap (d.year + n) = false)) := by
  refine ⟨parts_shiftYears h, fun e he => shiftYears_le_shiftYears h he, ?_⟩
  rw [shiftYears_neg_eq_iff h, IsLeapDay, and_assoc]

/-- The 29th of February, a year earlier and back. -/
theorem shiftYears_clamps_leapDay :
    let d : Date := ⟨2024, 2, 29, by decide, by decide, by decide⟩
    let e : Date := ⟨2024, 3, 1, by decide, by decide, by decide⟩
    d.Reaches (-1) ∧ (d.shiftYears (-1)).day = 28 ∧ (d.shiftYears (-1)).year = 2023 ∧
      (d.shiftYears (-1)) ≤ e.shiftYears (-1) ∧ (d.shiftYears (-1)).shiftYears 1 ≠ d := by
  intro d e
  have hreaches : d.Reaches (-1) := by decide
  obtain ⟨⟨hyear, -, hday⟩, horder, hback⟩ := shiftYears_clamps hreaches
  refine ⟨hreaches, hday.trans (by decide), hyear, horder e (by decide) (by decide), ?_⟩
  exact fun heq => hback.mp heq ⟨rfl, rfl, by decide⟩

end Date
end BalanceSheet
