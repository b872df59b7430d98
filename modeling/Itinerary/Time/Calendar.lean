import Itinerary.Decimal.Binary

/-!
# The proleptic Gregorian calendar

Days are counted from 1 January 1970. The year is taken to start in March, so that the leap day is
its last day and the lengths of the months follow one linear rule; 400 years have 146097 days.

`toDay_ofDay` says that the date of a day leads back to that day, so different days have different
dates.
-/

namespace Itinerary.Time

/-- A date of the proleptic Gregorian calendar. -/
structure Date where
  year : Int
  month : Nat
  day : Nat
  deriving DecidableEq, Repr

namespace Date

/-- The year of a 400-year cycle that holds the given day of the cycle: whole centuries, whole
four-year blocks of the rest, whole years of what is left. The last century and the last year of a
block are a day longer than the others. -/
def yearOfCycle (day : Int) : Int :=
  let century := min 3 (day / 36524)
  let ofCentury := day - 36524 * century
  let block := ofCentury / 1461
  let ofBlock := ofCentury - 1461 * block
  100 * century + 4 * block + min 3 (ofBlock / 365)

/-- The day of the cycle on which one of its years starts. -/
def yearStart (year : Int) : Int := 365 * year + year / 4 - year / 100

/-- Every day of the cycle lies in its year. -/
theorem yearOfCycle_bounds {day : Int} (h0 : 0 ≤ day) (h1 : day < 146097) :
    0 ≤ yearOfCycle day ∧ yearOfCycle day < 400 ∧ 0 ≤ day - yearStart (yearOfCycle day)
      ∧ day - yearStart (yearOfCycle day) ≤ 365 := by
  simp only [yearOfCycle, yearStart]
  generalize hc : min 3 (day / 36524) = c
  have hc0 : 0 ≤ c ∧ c ≤ 3 := by omega
  have hr : 0 ≤ day - 36524 * c ∧ day - 36524 * c ≤ 36524 := by omega
  have hr' : c < 3 → day - 36524 * c < 36524 := by omega
  generalize hof : day - 36524 * c = r at *
  generalize hq : r / 1461 = q
  have hq0 : 0 ≤ q ∧ q ≤ 24 := by omega
  have hs : 0 ≤ r - 1461 * q ∧ r - 1461 * q ≤ 1460 := by omega
  generalize hos : r - 1461 * q = t at *
  generalize hy : min 3 (t / 365) = y
  have hy0 : 0 ≤ y ∧ y ≤ 3 := by omega
  have h4 : (100 * c + 4 * q + y) / 4 = 25 * c + q := by omega
  have h100 : (100 * c + 4 * q + y) / 100 = c := by omega
  rw [h4, h100]
  omega

/-- The date of a day. -/
def ofDay (n : Int) : Date :=
  let shifted := n + 719468
  let cycle := shifted / 146097
  let dayOfCycle := shifted % 146097
  let year := yearOfCycle dayOfCycle
  let dayOfYear := dayOfCycle - yearStart year
  let monthFromMarch := (5 * dayOfYear + 2) / 153
  let day := dayOfYear - (153 * monthFromMarch + 2) / 5 + 1
  let month := if monthFromMarch < 10 then monthFromMarch + 3 else monthFromMarch - 9
  ⟨cycle * 400 + year + (if monthFromMarch < 10 then 0 else 1), month.toNat, day.toNat⟩

/-- The day of a date. -/
def toDay (d : Date) : Int :=
  let marchYear := if 2 < d.month then d.year else d.year - 1
  let cycle := marchYear / 400
  let year := marchYear % 400
  let monthFromMarch : Int := if 2 < d.month then (d.month : Int) - 3 else (d.month : Int) + 9
  let dayOfYear := (153 * monthFromMarch + 2) / 5 + d.day - 1
  cycle * 146097 + yearStart year + dayOfYear - 719468

/-- The day of the date of a day: cycles of 400 years are taken off, then the year and the month,
and then all are put back. -/
theorem toDay_ofDay (n : Int) : (ofDay n).toDay = n := by
  have hpos : 0 ≤ (n + 719468) % 146097 := Int.emod_nonneg _ (by decide)
  have hlt : (n + 719468) % 146097 < 146097 := Int.emod_lt_of_pos _ (by decide)
  have hdiv := Int.mul_ediv_add_emod (n + 719468) 146097
  generalize hd : (n + 719468) % 146097 = d at *
  generalize hc : (n + 719468) / 146097 = c at *
  obtain ⟨hy0, hy1, hr0, hr1⟩ := yearOfCycle_bounds hpos hlt
  simp only [ofDay, hd, hc]
  generalize yearOfCycle d = y at *
  generalize hr : d - yearStart y = r at *
  have hm0 : 0 ≤ (5 * r + 2) / 153 := by omega
  have hm1 : (5 * r + 2) / 153 < 12 := by omega
  have hday : 0 ≤ r - (153 * ((5 * r + 2) / 153) + 2) / 5 := by omega
  simp only [toDay]
  generalize hm : (5 * r + 2) / 153 = m at *
  -- The year is counted from March, so January and February belong to the year that follows.
  by_cases h : m < 10
  · have hmonth : 2 < (m + 3).toNat := by omega
    simp only [h, if_true, hmonth]
    have h1 : (c * 400 + y + 0) / 400 = c := by omega
    have h2 : (c * 400 + y + 0) % 400 = y := by omega
    rw [h1, h2]
    omega
  · have hmonth : ¬ 2 < (m - 9).toNat := by omega
    simp only [h, if_false, hmonth]
    have h1 : (c * 400 + y + 1 - 1) / 400 = c := by omega
    have h2 : (c * 400 + y + 1 - 1) % 400 = y := by omega
    rw [h1, h2]
    omega

/-- Different days have different dates. -/
theorem ofDay_injective {m n : Int} (h : ofDay m = ofDay n) : m = n := by
  rw [← toDay_ofDay m, ← toDay_ofDay n, h]

/-- Whether February has 29 days. -/
def isLeap (year : Int) : Bool :=
  year % 4 = 0 && (year % 100 ≠ 0 || year % 400 = 0)

/-- How many days a month has. -/
def daysIn (year : Int) (month : Nat) : Nat :=
  if month = 2 then (if isLeap year then 29 else 28)
  else if month = 4 ∨ month = 6 ∨ month = 9 ∨ month = 11 then 30
  else 31

/-- A year as it is written: four digits from 0 to 9999, a sign and at least four digits beyond. -/
def yearChars (year : Int) : List Char :=
  if 0 ≤ year ∧ year ≤ 9999 then Decimal.padded 4 year.natAbs
  else (if year < 0 then '-' else '+') :: Decimal.padded 4 year.natAbs

/-- Year, month and day with hyphens between them. -/
def chars (d : Date) : List Char :=
  yearChars d.year ++ '-' :: Decimal.padded 2 d.month ++ '-' :: Decimal.padded 2 d.day

end Date

/-- The first and the last millisecond of the years that the calendar covers. -/
def calendarStart : Int := -8334601228800000
def calendarEnd : Int := 8210266876799999

end Itinerary.Time
