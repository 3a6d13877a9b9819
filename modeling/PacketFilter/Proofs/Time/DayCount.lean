/-
This file counts the days of the calendar one by one from 1 January 1970, forward and backward, by
nothing but the lengths of the months. The number of a date is the one that it gets in this count,
and a date is the one of its number.
-/

import Mathlib.Data.Int.Init
import PacketFilter.Proofs.Time.Calendar

namespace PacketFilter.Calendar

/-! ### Counting day by day -/

/-- The day after a day: the next one of its month, or the first one of the next month or year. -/
def nextDay (date : Date) : Date :=
  if date.day < (monthLengths date.year).getD (date.month - 1) 0 then
    { date with day := date.day + 1 }
  else if date.month < 12 then ⟨date.year, date.month + 1, 1⟩
  else ⟨date.year + 1, 1, 1⟩

/-- The number of a day in the count from 1 January 1970: one more than that of the day before it,
and one less than that of the day after it. -/
inductive CountsAs : Int → Date → Prop
  | epoch : CountsAs 0 ⟨1970, 1, 1⟩
  | next {number : Int} {date : Date} (counted : CountsAs number date) :
      CountsAs (number + 1) (nextDay date)
  | previous {number : Int} {date : Date} (isDay : isDate date = true)
      (counted : CountsAs number (nextDay date)) : CountsAs (number - 1) date

/-! ### Adding up months -/

theorem sum_take_succ (lengths : List Nat) (index : Nat) :
    (lengths.take (index + 1)).foldr (· + ·) 0 =
      (lengths.take index).foldr (· + ·) 0 + lengths.getD index 0 := by
  induction lengths generalizing index with
  | nil => simp
  | cons length rest inductionHypothesis =>
    cases index with
    | zero => simp
    | succ index =>
      rw [List.take_succ_cons, List.take_succ_cons, List.foldr_cons, List.foldr_cons,
        List.getD_cons_succ, inductionHypothesis, Nat.add_assoc]

theorem sum_take_le (lengths : List Nat) (index : Nat) :
    (lengths.take index).foldr (· + ·) 0 ≤ lengths.foldr (· + ·) 0 := by
  induction lengths generalizing index with
  | nil => exact Nat.le_of_eq (congrArg _ List.take_nil)
  | cons length rest inductionHypothesis =>
    cases index with
    | zero => exact Nat.zero_le _
    | succ index => exact Nat.add_le_add_left (inductionHypothesis index) length

/-- The months up to December make up the year. -/
theorem sum_take_december (year : Int) :
    (monthLengths year).foldr (· + ·) 0 =
      ((monthLengths year).take 11).foldr (· + ·) 0 + (monthLengths year).getD 11 0 := by
  rw [← sum_take_succ, List.take_of_length_le (Nat.le_of_eq (length_monthLengths year))]

/-! ### The next day -/

theorem le_year_nextDay (date : Date) : date.year ≤ (nextDay date).year := by
  unfold nextDay
  split
  · exact Int.le_refl _
  · split
    · exact Int.le_refl _
    · exact Int.le_add_one (Int.le_refl _)

section

variable {date : Date} (isDay : isDate date = true)

include isDay

theorem isDate_nextDay : isDate (nextDay date) = true := by
  obtain ⟨firstMonth, lastMonth, -, -⟩ := isDate_iff.mp isDay
  have hasFirst (year : Int) {index : Nat} (inYear : index < 12) :
      1 ≤ (monthLengths year).getD index 0 :=
    Nat.le_trans (by decide) (le_getD_monthLengths year inYear)
  unfold nextDay
  split
  · rename_i inMonth
    exact isDate_iff.mpr ⟨firstMonth, lastMonth, Nat.succ_pos _, inMonth⟩
  · split
    · rename_i inYear
      exact isDate_iff.mpr ⟨Nat.succ_pos _, inYear, Nat.le_refl 1, hasFirst date.year inYear⟩
    · exact isDate_iff.mpr ⟨Nat.le_refl 1, Nat.le_add_left 1 11, Nat.le_refl 1,
        hasFirst (date.year + 1) (Nat.succ_pos 11)⟩

/-- The next day has the next number. -/
theorem dayNumber_nextDay : dayNumber (nextDay date) = dayNumber date + 1 := by
  obtain ⟨firstMonth, lastMonth, firstDay, lastDay⟩ := isDate_iff.mp isDay
  unfold nextDay
  split
  · simp only [dayNumber]
    omega
  · rename_i monthEnds
    split
    · have months := sum_take_succ (monthLengths date.year) (date.month - 1)
      rw [Nat.sub_add_cancel firstMonth] at months
      simp only [dayNumber, Nat.add_sub_cancel]
      omega
    · -- The last day of December: the months of the year are over, and so is the year.
      have december : date.month - 1 = 11 := by omega
      have year := firstDayOfYear_succ_eq_sum date.year
      rw [sum_take_december] at year
      rw [december] at lastDay monthEnds
      simp only [dayNumber, december, Nat.sub_self, List.take_zero, List.foldr_nil]
      omega

end

/-! ### The date of a number -/

/-- Counting on through months, the days of the ones before a month and some days of that month lead
to a day of that month. -/
theorem monthAndDay_sum_take (month : Nat) (lengths : List Nat) {index days : Nat}
    (inMonth : days < lengths.getD index 0) :
    monthAndDay month lengths ((lengths.take index).foldr (· + ·) 0 + days) =
      (month + index, days + 1) := by
  induction lengths generalizing month index with
  | nil => exact absurd inMonth (Nat.not_lt_zero days)
  | cons length rest inductionHypothesis =>
    unfold monthAndDay
    cases index with
    | zero =>
      rw [List.getD_cons_zero] at inMonth
      rw [List.take_zero, List.foldr_nil, Nat.zero_add, if_pos inMonth]
      rfl
    | succ index =>
      rw [List.getD_cons_succ] at inMonth
      rw [List.take_succ_cons, List.foldr_cons, if_neg (by omega), Nat.add_assoc,
        Nat.add_sub_cancel_left, inductionHypothesis (month + 1) inMonth, Nat.add_assoc,
        Nat.add_comm 1]

section

variable {date : Date} (isDay : isDate date = true)

include isDay

/-- A date lies in its year. -/
theorem yearOfDay_dayNumber : yearOfDay (dayNumber date) = date.year := by
  obtain ⟨firstMonth, -, firstDay, lastDay⟩ := isDate_iff.mp isDay
  have months := sum_take_succ (monthLengths date.year) (date.month - 1)
  have atMost := sum_take_le (monthLengths date.year) (date.month - 1 + 1)
  refine yearOfDay_eq_iff.mpr ⟨?_, ?_⟩
  · simp only [dayNumber]
    omega
  · rw [firstDayOfYear_succ_eq_sum]
    simp only [dayNumber]
    omega

/-- A date is the one that its number has. -/
theorem dateOfDay_dayNumber : dateOfDay (dayNumber date) = date := by
  obtain ⟨firstMonth, -, firstDay, lastDay⟩ := isDate_iff.mp isDay
  have into : daysIntoYear (dayNumber date) =
      ((monthLengths date.year).take (date.month - 1)).foldr (· + ·) 0 + (date.day - 1) := by
    rw [daysIntoYear, yearOfDay_dayNumber isDay]
    simp only [dayNumber]
    omega
  have inMonth : date.day - 1 < (monthLengths date.year).getD (date.month - 1) 0 := by omega
  rw [dateOfDay_eq, yearOfDay_dayNumber isDay, into, monthAndDay_sum_take 1 _ inMonth,
    Nat.add_sub_cancel' firstMonth, Nat.sub_add_cancel firstDay]

end

theorem nextDay_dateOfDay (number : Int) : nextDay (dateOfDay number) = dateOfDay (number + 1) := by
  have isDay := isDate_dateOfDay number
  rw [← dateOfDay_dayNumber (isDate_nextDay isDay), dayNumber_nextDay isDay, dayNumber_dateOfDay]

/-! ### The count -/

/-- The count reaches the date of every number. -/
theorem countsAs_dateOfDay (number : Int) : CountsAs number (dateOfDay number) := by
  induction number using Int.induction_on with
  | zero => exact .epoch
  | succ number counted =>
    rw [← nextDay_dateOfDay]
    exact .next counted
  | pred number counted =>
    refine .previous (isDate_dateOfDay _) ?_
    rwa [nextDay_dateOfDay, Int.sub_add_cancel]

/-- The days that are counted are those of the calendar, and their numbers are those of the
calendar. -/
theorem countsAs_iff {number : Int} {date : Date} :
    CountsAs number date ↔ isDate date = true ∧ number = dayNumber date := by
  constructor
  · intro counted
    induction counted with
    | epoch => decide
    | next _ inductionHypothesis =>
      obtain ⟨isDay, rfl⟩ := inductionHypothesis
      exact ⟨isDate_nextDay isDay, (dayNumber_nextDay isDay).symm⟩
    | previous isDay _ inductionHypothesis =>
      obtain ⟨-, rfl⟩ := inductionHypothesis
      exact ⟨isDay, by rw [dayNumber_nextDay isDay, Int.add_sub_cancel]⟩
  · rintro ⟨isDay, rfl⟩
    have counted := countsAs_dateOfDay (dayNumber date)
    rwa [dateOfDay_dayNumber isDay] at counted

end PacketFilter.Calendar
