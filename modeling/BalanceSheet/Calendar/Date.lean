import BalanceSheet.Decimal
import BalanceSheet.Text.Basic

/-!
Dates: what they are, how they are moved by years, and how they are written and read.
-/

namespace BalanceSheet

/-! ### Dates of the calendar

The Gregorian calendar is continued to both sides of its first use as far as a range of years
goes. A date is ordered by year, then month, then day, and is written with at least four digits for the
year, with a sign before a year that is negative or has more.
-/

namespace Calendar

def firstYear : Int := -262143

def lastYear : Int := 262142

def isLeap (year : Int) : Bool := year % 4 = 0 && (year % 100 ≠ 0 || year % 400 = 0)

def monthLength (year : Int) (month : Nat) : Nat :=
  if month = 2 then (if isLeap year then 29 else 28)
  else if month = 4 || month = 6 || month = 9 || month = 11 then 30
  else 31

end Calendar

structure Date where
  year : Int
  month : Nat
  day : Nat
  year_range : Calendar.firstYear ≤ year ∧ year ≤ Calendar.lastYear
  month_range : 1 ≤ month ∧ month ≤ 12
  day_range : 1 ≤ day ∧ day ≤ Calendar.monthLength year month
  deriving DecidableEq

namespace Date

open Calendar

/-- The date with these parts, if there is one. -/
def ofParts? (year : Int) (month day : Nat) : Option Date :=
  if hy : firstYear ≤ year ∧ year ≤ lastYear then
    if hm : 1 ≤ month ∧ month ≤ 12 then
      if hd : 1 ≤ day ∧ day ≤ monthLength year month then some ⟨year, month, day, hy, hm, hd⟩ else none
    else none
  else none

theorem ofParts?_parts (d : Date) : ofParts? d.year d.month d.day = some d := by
  simp [ofParts?, d.year_range, d.month_range, d.day_range]

instance : LE Date where
  le a b := a.year < b.year ∨ a.year = b.year ∧ (a.month < b.month ∨ a.month = b.month ∧ a.day ≤ b.day)

instance : DecidableLE Date := fun _ _ => inferInstanceAs (Decidable (_ ∨ _ ∧ (_ ∨ _ ∧ _)))

/-- The decimal digits of `n`, with zeros in front up to `width`. -/
def padded (width n : Nat) : List Char :=
  let ds := Nat.toDigits 10 n
  List.replicate (width - ds.length) '0' ++ ds

def yearDigits (year : Int) : List Char :=
  if year < 0 then '-' :: padded 4 year.natAbs
  else if year ≤ 9999 then padded 4 year.natAbs
  else '+' :: padded 4 year.natAbs

/-- The date as year, month and day with hyphens between. -/
def toChars (d : Date) : List Char :=
  yearDigits d.year ++ '-' :: padded 2 d.month ++ '-' :: padded 2 d.day

def text (d : Date) : String := String.ofList d.toChars

/-- The same day of the year `n` years later. The 29th of February falls on the 28th where the year has
no 29th, and a date whose year would leave the range stays where it is. -/
def shiftYears (d : Date) (n : Int) : Date :=
  ((ofParts? (d.year + n) d.month d.day).or (ofParts? (d.year + n) d.month 28)).getD d

end Date

/-! ### Dates read from text

A date is read as year, month and day with hyphens between. A year with a sign may have any number
of digits and one without a sign at most four; month and day have one or two. Blanks may stand before
each of the three numbers and nowhere else.
-/

namespace Date

/-- Up to `most` leading digits, at least one, and the text after them. -/
def leadingDigits? (most : Nat) (cs : List Char) : Option (Nat × List Char) :=
  let ds := (cs.take most).takeWhile Char.isDigit
  if ds.isEmpty then none else some (Decimal.ofDigits ds, cs.drop ds.length)

def leadingYear? (cs : List Char) : Option (Int × List Char) :=
  match cs with
  | '-' :: rest => (leadingDigits? rest.length rest).map fun (n, after) => (-(n : Int), after)
  | '+' :: rest => (leadingDigits? rest.length rest).map fun (n, after) => ((n : Int), after)
  | _ => (leadingDigits? 4 cs).map fun (n, after) => ((n : Int), after)

def afterHyphen? : List Char → Option (List Char)
  | '-' :: rest => some (Text.trimStart rest)
  | _ => none

def ofChars? (cs : List Char) : Option Date := do
  let (year, afterYear) ← leadingYear? (Text.trimStart cs)
  let (month, afterMonth) ← leadingDigits? 2 (← afterHyphen? afterYear)
  let (day, rest) ← leadingDigits? 2 (← afterHyphen? afterMonth)
  if rest.isEmpty then ofParts? year month day else none

def parse? (s : String) : Option Date := ofChars? s.toList

end Date

end BalanceSheet
