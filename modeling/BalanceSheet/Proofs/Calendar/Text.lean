import BalanceSheet.Condition.Filter
import BalanceSheet.Proofs.Text.Basic

/-!
Dates written and read back. Each of the three numbers is read as far as its digits go, and the sign between them is
no digit; the year has a sign of its own exactly where it has more digits than a reader takes without one. So the text
of a date is read as that date, and as it has no blanks it may stand where blanks around a date are dropped.
-/

namespace BalanceSheet

theorem Calendar.monthLength_le (year : Int) (month : Nat) : monthLength year month ≤ 31 := by
  rw [monthLength]
  split
  · split <;> decide
  · split <;> decide

namespace Date

/-! ### Numbers -/

theorem isDigit_padded {width n : Nat} {c : Char} (h : c ∈ padded width n) : c.isDigit = true := by
  simp only [padded, List.mem_append, List.mem_replicate] at h
  rcases h with ⟨-, rfl⟩ | h
  · rfl
  · exact Text.isDigit_of_mem_toDigits h

theorem padded_ne_nil (width n : Nat) : padded width n ≠ [] :=
  List.append_ne_nil_of_right_ne_nil _ Nat.toDigits_ne_nil

/-- A number that needs no more digits is written with as many as asked for. -/
theorem length_padded {width n : Nat} (hwidth : 0 < width) (h : n < Nat.pow 10 width) :
    (padded width n).length = width := by
  have hdigits : (Nat.toDigits 10 n).length ≤ width := (Nat.length_toDigits_le_iff (by decide) hwidth).mpr h
  simp only [padded, List.length_append, List.length_replicate]
  omega

/-- Zeros in front do not count. -/
theorem ofDigits_padded (width n : Nat) : Decimal.ofDigits (padded width n) = n := by
  have hzeros (k : Nat) (ds : List Char) : Decimal.ofDigits (List.replicate k '0' ++ ds) = Decimal.ofDigits ds := by
    induction k with
    | zero => rfl
    | succ k ih => exact ih
  have hdigits : Decimal.ofDigits (Nat.toDigits 10 n) = n := Nat.ofDigitChars_toDigits (by decide) (by decide)
  rw [padded, hzeros, hdigits]

/-- Digits are read up to a sign that is none. -/
theorem leadingDigits?_append {most : Nat} {ds rest : List Char} (hdigits : ∀ c ∈ ds, c.isDigit = true)
    (hne : ds ≠ []) (hlength : ds.length ≤ most) (hrest : ∀ c ∈ rest.head?, c.isDigit = false) :
    leadingDigits? most (ds ++ rest) = some (Decimal.ofDigits ds, rest) := by
  have hstop : (rest.take (most - ds.length)).takeWhile Char.isDigit = [] := by
    cases rest with
    | nil => simp
    | cons c rest =>
        have hc : c.isDigit = false := hrest c rfl
        cases most - ds.length <;> simp [hc]
  have htaken : ((ds ++ rest).take most).takeWhile Char.isDigit = ds := by
    rw [List.take_append, List.take_of_length_le hlength, List.takeWhile_append_of_pos hdigits, hstop,
      List.append_nil]
  have hempty : ds.isEmpty = false := by simpa using hne
  rw [leadingDigits?, htaken]
  simp [hempty]

theorem leadingDigits?_padded {most width n : Nat} {rest : List Char} (hlength : (padded width n).length ≤ most)
    (hrest : ∀ c ∈ rest.head?, c.isDigit = false) :
    leadingDigits? most (padded width n ++ rest) = some (n, rest) := by
  rw [leadingDigits?_append (fun _ => isDigit_padded) (padded_ne_nil width n) hlength hrest, ofDigits_padded]

/-! ### Dates -/

section

variable {width n : Nat} {rest : List Char} (hrest : ∀ c ∈ rest.head?, c.isDigit = false)

include hrest

theorem leadingYear?_minus : leadingYear? ('-' :: (padded width n ++ rest)) = some (-(n : Int), rest) := by
  rw [leadingYear?, leadingDigits?_padded (by simp) hrest]
  rfl

theorem leadingYear?_plus : leadingYear? ('+' :: (padded width n ++ rest)) = some ((n : Int), rest) := by
  rw [leadingYear?, leadingDigits?_padded (by simp) hrest]
  rfl

/-- A year that starts with a digit has no sign. -/
theorem leadingYear?_padded (hlength : (padded width n).length ≤ 4) :
    leadingYear? (padded width n ++ rest) = some ((n : Int), rest) := by
  have hread := leadingDigits?_padded hlength hrest
  have hdigit : ∀ c ∈ (padded width n).head?, c.isDigit = true := fun _ hc => isDigit_padded (List.mem_of_mem_head? hc)
  cases hdigits : padded width n with
  | nil => exact absurd hdigits (padded_ne_nil width n)
  | cons c cs =>
      rw [hdigits] at hread hdigit
      have hc : c.isDigit = true := hdigit c rfl
      rw [List.cons_append, leadingYear?, ← List.cons_append, hread]
      · rfl
      · rintro _ ⟨⟩
        cases hc
      · rintro _ ⟨⟩
        cases hc

theorem leadingYear?_yearDigits (year : Int) : leadingYear? (yearDigits year ++ rest) = some (year, rest) := by
  rw [yearDigits]
  split
  case isTrue hneg =>
    have hyear : -(year.natAbs : Int) = year := by omega
    rw [List.cons_append, leadingYear?_minus hrest, hyear]
  case isFalse hpos =>
    have hyear : (year.natAbs : Int) = year := by omega
    split
    case isTrue hshort =>
      have hfour : (padded 4 year.natAbs).length ≤ 4 :=
        Nat.le_of_eq (length_padded (by decide) (show year.natAbs < 10000 by omega))
      rw [leadingYear?_padded hrest hfour, hyear]
    case isFalse => rw [List.cons_append, leadingYear?_plus hrest, hyear]

end

theorem isDigit_or_sign_of_mem {d : Date} {c : Char} (h : c ∈ d.toChars) : c.isDigit = true ∨ c = '-' ∨ c = '+' := by
  have hyear : ∀ c ∈ yearDigits d.year, c.isDigit = true ∨ c = '-' ∨ c = '+' := by
    intro c hc
    rw [yearDigits] at hc
    split at hc
    · exact (List.mem_cons.mp hc).symm.imp isDigit_padded .inl
    · split at hc
      · exact .inl (isDigit_padded hc)
      · exact (List.mem_cons.mp hc).symm.imp isDigit_padded .inr
  simp only [toChars, List.mem_append, List.mem_cons] at h
  rcases h with (h | rfl | h) | rfl | h
  · exact hyear c h
  · exact .inr (.inl rfl)
  · exact .inl (isDigit_padded h)
  · exact .inr (.inl rfl)
  · exact .inl (isDigit_padded h)

theorem not_isBlank_of_isDigit {c : Char} (h : c.isDigit = true) : Text.isBlank c = false := by
  apply Text.not_isBlank_of_isAlphanum
  delta Char.isAlphanum
  simp [h]

theorem not_isBlank_toChars {d : Date} {c : Char} (h : c ∈ d.toChars) : Text.isBlank c = false := by
  rcases isDigit_or_sign_of_mem h with hdigit | rfl | rfl
  · exact not_isBlank_of_isDigit hdigit
  · decide
  · decide

/-- Behind a hyphen a number follows at once. -/
theorem afterHyphen?_padded (width n : Nat) (rest : List Char) :
    afterHyphen? ('-' :: (padded width n ++ rest)) = some (padded width n ++ rest) := by
  have hstart : Text.trimStart (padded width n ++ rest) = padded width n ++ rest := by
    cases hdigits : padded width n with
    | nil => exact absurd hdigits (padded_ne_nil width n)
    | cons c cs =>
        have hc : Text.isBlank c = false := not_isBlank_of_isDigit (isDigit_padded (hdigits ▸ List.mem_cons_self))
        exact List.dropWhile_cons_of_neg (by simp [hc])
  rw [afterHyphen?, hstart]

theorem toChars_eq (d : Date) :
    d.toChars = yearDigits d.year ++ '-' :: (padded 2 d.month ++ '-' :: (padded 2 d.day ++ [])) := by
  simp [toChars]

/-- The text of a date is read as the date. -/
theorem parse?_text (d : Date) : parse? d.text = some d := by
  have hstart : Text.trimStart d.toChars = d.toChars := Text.dropWhile_eq_self fun _ => not_isBlank_toChars
  have hhyphen (cs : List Char) : ∀ c ∈ ('-' :: cs).head?, c.isDigit = false := by
    rintro c ⟨⟩
    rfl
  have hmonth : d.month < 10 ^ 2 := Nat.lt_of_le_of_lt d.month_range.2 (by decide)
  have hday : d.day < 10 ^ 2 :=
    Nat.lt_of_le_of_lt (Nat.le_trans d.day_range.2 (Calendar.monthLength_le d.year d.month)) (by decide)
  have hread {n : Nat} (hn : n < 10 ^ 2) (rest : List Char) (hrest : ∀ c ∈ rest.head?, c.isDigit = false) :
      leadingDigits? 2 (padded 2 n ++ rest) = some (n, rest) :=
    leadingDigits?_padded (Nat.le_of_eq (length_padded (by decide) hn)) hrest
  rw [parse?, text, String.toList_ofList, ofChars?, hstart, toChars_eq, leadingYear?_yearDigits (hhyphen _)]
  simp only [bind, Option.bind, afterHyphen?_padded, hread hmonth _ (hhyphen _), hread hday [] nofun]
  exact ofParts?_parts d

theorem read_text (d : Date) : read d.text = .ok d := by
  have htrim : Text.trim d.text = d.text :=
    Text.trim_eq_self fun _ hc => not_isBlank_toChars (by rwa [text, String.toList_ofList] at hc)
  rw [read, htrim, parse?_text]

end Date
end BalanceSheet
