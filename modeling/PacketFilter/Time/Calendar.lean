/-
This file holds the proleptic Gregorian calendar: the dates of every year, before and after its
introduction, with a year 0, numbered by days from 1 January 1970. Days are integers, so the
correspondence between dates and days has no ends; the range of years that times may lie in is
stated apart from it.
-/

namespace PacketFilter

/-- A day of the calendar. Months and days are counted from one. -/
structure Date where
  year : Int
  month : Nat
  day : Nat
  deriving DecidableEq

namespace Calendar

/-! ### Years and months -/

/-- Whether a year has 366 days. -/
def isLeapYear (year : Int) : Bool :=
  year % 4 = 0 && (year % 100 ≠ 0 || year % 400 = 0)

/-- The days of each month of a year. -/
def monthLengths (year : Int) : List Nat :=
  [31, if isLeapYear year then 29 else 28, 31, 30, 31, 30, 31, 31, 30, 31, 30, 31]

/-- How many more leap years there are before a year than before the year 1. -/
def leapYearsBefore (year : Int) : Int :=
  (year - 1) / 4 - (year - 1) / 100 + (year - 1) / 400

/-- The number of the first day of a year. -/
def firstDayOfYear (year : Int) : Int :=
  365 * (year - 1970) + (leapYearsBefore year - leapYearsBefore 1970)

/-- A year begins as many days after the one before it as that one has. -/
theorem firstDayOfYear_succ (year : Int) :
    firstDayOfYear (year + 1) = firstDayOfYear year + if isLeapYear year then 366 else 365 := by
  by_cases leap : isLeapYear year = true
  · rw [if_pos leap]
    simp only [isLeapYear, Bool.and_eq_true, Bool.or_eq_true, decide_eq_true_eq] at leap
    simp only [firstDayOfYear, leapYearsBefore]
    omega
  · rw [if_neg leap]
    simp only [isLeapYear, Bool.and_eq_true, Bool.or_eq_true, decide_eq_true_eq] at leap
    simp only [firstDayOfYear, leapYearsBefore]
    omega

theorem sum_monthLengths (year : Int) :
    (monthLengths year).foldr (· + ·) 0 = if isLeapYear year then 366 else 365 := by
  by_cases leap : isLeapYear year = true <;> simp [monthLengths, leap]

/-! ### From dates to days -/

/-- Whether the month has such a day. -/
def isDate (date : Date) : Bool :=
  1 ≤ date.month && date.month ≤ 12 && 1 ≤ date.day
    && date.day ≤ (monthLengths date.year).getD (date.month - 1) 0

/-- The number of a day, counted from 1 January 1970. -/
def dayNumber (date : Date) : Int :=
  let daysBefore : Nat := ((monthLengths date.year).take (date.month - 1)).foldr (· + ·) 0
  firstDayOfYear date.year + daysBefore + (date.day - 1 : Nat)

/-! ### From days to dates -/

/-- The year of a day. Four hundred years have 146097 days; an estimate by that average is at
most one year off. -/
def yearOfDay (number : Int) : Int :=
  let estimate := 1970 + 400 * number / 146097
  if number < firstDayOfYear estimate then estimate - 1
  else if firstDayOfYear (estimate + 1) ≤ number then estimate + 1
  else estimate

theorem firstDayOfYear_yearOfDay_le (number : Int) :
    firstDayOfYear (yearOfDay number) ≤ number := by
  unfold yearOfDay
  simp only []
  split
  · simp only [firstDayOfYear, leapYearsBefore] at *
    omega
  · split
    · assumption
    · omega

theorem lt_firstDayOfYear_yearOfDay_succ (number : Int) :
    number < firstDayOfYear (yearOfDay number + 1) := by
  unfold yearOfDay
  simp only []
  split
  · rwa [Int.sub_add_cancel]
  · split
    · simp only [firstDayOfYear, leapYearsBefore] at *
      omega
    · omega

/-- The month and the day of the month, counted from the given month on, that lie some days
after the beginning of that month. -/
def monthAndDay (month : Nat) : List Nat → Nat → Nat × Nat
  | [], days => (month, days + 1)
  | length :: lengths, days =>
    if days < length then (month, days + 1) else monthAndDay (month + 1) lengths (days - length)

/-- The date of a day. -/
def dateOfDay (number : Int) : Date :=
  let year := yearOfDay number
  let (month, day) := monthAndDay 1 (monthLengths year) (number - firstDayOfYear year).toNat
  ⟨year, month, day⟩

/-- The day of the week of a day, counted from Sunday as zero. The first of January 1970 was a
Thursday. -/
def weekday (number : Int) : Nat :=
  ((number + 4) % 7).toNat

/-! ### The years that times may lie in -/

/-- The first year in which a time may lie. -/
def leastYear : Int := -262143

/-- The last year in which a time may lie. -/
def greatestYear : Int := 262142

/-- Whether times may lie in the year. -/
def isCovered (year : Int) : Bool :=
  leastYear ≤ year && year ≤ greatestYear

end Calendar

end PacketFilter
