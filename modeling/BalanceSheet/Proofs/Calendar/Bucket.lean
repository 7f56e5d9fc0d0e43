import BalanceSheet.Proofs.Calendar.Shift

/-!
Buckets of whole months, counted from January: months, quarters and years. The bucket of a date hangs on its month
alone, so the day that a shift may lose does not matter, and a date of the previous window moved a year forward is in
the bucket of some day of the current window.
-/

namespace BalanceSheet.Date

open Calendar

/-- The first day of the bucket of `k` months that the date is in. -/
def bucketStart (k : Nat) (d : Date) : Date where
  year := d.year
  month := k * ((d.month - 1) / k) + 1
  day := 1
  year_range := d.year_range
  month_range := by
    have hstart := Nat.mul_div_le (d.month - 1) k
    have hmonth := d.month_range
    omega
  day_range := by
    have hlength := monthLength_ge d.year (k * ((d.month - 1) / k) + 1)
    omega

/-- The first date is in the month of the second or an earlier one. -/
def MonthLE (d e : Date) : Prop := d.year < e.year ∨ d.year = e.year ∧ d.month ≤ e.month

variable {d e first last y : Date} {k : Nat}

theorem MonthLE.of_le (h : d ≤ e) : d.MonthLE e := by
  rw [le_iff] at h
  rw [MonthLE]
  omega

end BalanceSheet.Date
