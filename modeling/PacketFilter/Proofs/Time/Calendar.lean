/-
This file shows that the calendar numbers its days without gaps: every day has a date, which is
one of the calendar's, and the number of that date is the number of the day. It also says which
days a year has.
-/

import PacketFilter.Time.Calendar

namespace PacketFilter.Calendar

/-! ### Years -/

theorem firstDayOfYear_lt {year other : Int} (lt : year < other) :
    firstDayOfYear year < firstDayOfYear other := by
  unfold firstDayOfYear leapYearsBefore
  omega

theorem firstDayOfYear_le {year other : Int} (le : year ≤ other) :
    firstDayOfYear year ≤ firstDayOfYear other := by
  rcases Int.lt_or_eq_of_le le with lt | rfl
  · exact Int.le_of_lt (firstDayOfYear_lt lt)
  · exact Int.le_refl _

/-- The days of a year are the ones from its first day on and before the first one of the next. -/
theorem yearOfDay_eq_iff {number year : Int} :
    yearOfDay number = year ↔
      firstDayOfYear year ≤ number ∧ number < firstDayOfYear (year + 1) := by
  have begun := firstDayOfYear_yearOfDay_le number
  have ended := lt_firstDayOfYear_yearOfDay_succ number
  constructor
  · rintro rfl
    exact ⟨begun, ended⟩
  · rintro ⟨first, last⟩
    rcases Int.lt_trichotomy (yearOfDay number) year with earlier | same | later
    · have := firstDayOfYear_le (show yearOfDay number + 1 ≤ year by omega)
      omega
    · exact same
    · have := firstDayOfYear_le (show year + 1 ≤ yearOfDay number by omega)
      omega

/-- A year begins when all the months of the one before it are over. -/
theorem firstDayOfYear_succ_eq_sum (year : Int) :
    firstDayOfYear (year + 1) =
      firstDayOfYear year + ((monthLengths year).foldr (· + ·) 0 : Nat) := by
  rw [firstDayOfYear_succ, sum_monthLengths]
  split <;> rfl

/-- The years that times may lie in, by their numbers. -/
theorem isCovered_iff {year : Int} :
    isCovered year = true ↔ -262143 ≤ year ∧ year ≤ 262142 := by
  rw [isCovered, Bool.and_eq_true, decide_eq_true_eq, decide_eq_true_eq]
  rfl

/-! ### Months -/

/-- Counting on through months, some days lead to a day of one of them, or of a month behind them
all: as many days after the beginning as the months before that one have, and as the day is from the
first of its month. -/
theorem monthAndDay_spec (month : Nat) (lengths : List Nat) (days : Nat) :
    ∃ index ≤ lengths.length, (monthAndDay month lengths days).1 = month + index ∧
      1 ≤ (monthAndDay month lengths days).2 ∧
      (index < lengths.length → (monthAndDay month lengths days).2 ≤ lengths.getD index 0) ∧
      (lengths.take index).foldr (· + ·) 0 + ((monthAndDay month lengths days).2 - 1) = days := by
  induction lengths generalizing month days with
  | nil =>
    exact ⟨0, Nat.le_refl 0, rfl, Nat.le_add_left 1 days,
      fun before => absurd before (Nat.lt_irrefl 0), Nat.zero_add days⟩
  | cons length rest inductionHypothesis =>
    unfold monthAndDay
    by_cases here : days < length
    · rw [if_pos here]
      exact ⟨0, by simp, by simp, by simp, fun _ => here, by simp⟩
    · rw [if_neg here]
      obtain ⟨index, within, isMonth, atLeast, atMost, sum⟩ :=
        inductionHypothesis (month + 1) (days - length)
      refine ⟨index + 1, Nat.succ_le_succ within, ?_, atLeast, ?_, ?_⟩
      · rw [isMonth]
        omega
      · rw [List.getD_cons_succ]
        exact fun before => atMost (Nat.lt_of_succ_lt_succ before)
      · rw [List.take_succ_cons, List.foldr_cons]
        omega

theorem length_monthLengths (year : Int) : (monthLengths year).length = 12 := rfl

/-- No month is longer than thirty-one days. -/
theorem getD_monthLengths_le (year : Int) (index : Nat) :
    (monthLengths year).getD index 0 ≤ 31 := by
  have each : ∀ length ∈ monthLengths year, length ≤ 31 := by
    unfold monthLengths
    split <;> decide
  rw [List.getD_eq_getElem?_getD]
  cases found : (monthLengths year)[index]? with
  | none => exact Nat.zero_le 31
  | some length => exact each length (List.mem_of_getElem? found)

/-- A month has four weeks. -/
theorem le_getD_monthLengths (year : Int) {index : Nat} (inYear : index < 12) :
    28 ≤ (monthLengths year).getD index 0 := by
  revert index
  unfold monthLengths
  cases isLeapYear year <;> decide

/-! ### Days -/

theorem isDate_iff {date : Date} :
    isDate date = true ↔ 1 ≤ date.month ∧ date.month ≤ 12 ∧ 1 ≤ date.day ∧
      date.day ≤ (monthLengths date.year).getD (date.month - 1) 0 := by
  simp only [isDate, Bool.and_eq_true, decide_eq_true_eq, and_assoc]

/-- How many days of its year lie before a day. -/
def daysIntoYear (number : Int) : Nat :=
  (number - firstDayOfYear (yearOfDay number)).toNat

theorem daysIntoYear_lt (number : Int) :
    daysIntoYear number < (monthLengths (yearOfDay number)).foldr (· + ·) 0 := by
  have begun := firstDayOfYear_yearOfDay_le number
  have ended := lt_firstDayOfYear_yearOfDay_succ number
  rw [firstDayOfYear_succ_eq_sum] at ended
  unfold daysIntoYear
  omega

theorem dateOfDay_eq (number : Int) :
    dateOfDay number =
      ⟨yearOfDay number, (monthAndDay 1 (monthLengths (yearOfDay number)) (daysIntoYear number)).1,
        (monthAndDay 1 (monthLengths (yearOfDay number)) (daysIntoYear number)).2⟩ := rfl

/-- Every day has a date of the calendar, and the date has the number of the day. -/
theorem dateOfDay_spec (number : Int) :
    isDate (dateOfDay number) = true ∧ dayNumber (dateOfDay number) = number := by
  obtain ⟨index, within, isMonth, atLeast, atMost, sum⟩ :=
    monthAndDay_spec 1 (monthLengths (yearOfDay number)) (daysIntoYear number)
  rw [length_monthLengths] at within atMost
  have inYear : index < 12 := by
    refine Nat.lt_of_le_of_ne within fun isEnd => ?_
    rw [isEnd, List.take_of_length_le (Nat.le_of_eq (length_monthLengths _))] at sum
    have := daysIntoYear_lt number
    omega
  have before : 1 + index - 1 = index := by omega
  rw [dateOfDay_eq, isMonth]
  constructor
  · have lastMonth : 1 + index ≤ 12 := by omega
    refine isDate_iff.mpr ⟨Nat.le_add_right 1 index, lastMonth, atLeast, ?_⟩
    simpa only [before] using atMost inYear
  · have begun := firstDayOfYear_yearOfDay_le number
    have into : (daysIntoYear number : Int) = number - firstDayOfYear (yearOfDay number) :=
      Int.toNat_of_nonneg (by omega)
    simp only [dayNumber, before]
    omega

@[simp] theorem isDate_dateOfDay (number : Int) : isDate (dateOfDay number) = true :=
  (dateOfDay_spec number).1

@[simp] theorem dayNumber_dateOfDay (number : Int) : dayNumber (dateOfDay number) = number :=
  (dateOfDay_spec number).2

@[simp] theorem year_dateOfDay (number : Int) : (dateOfDay number).year = yearOfDay number := rfl

end PacketFilter.Calendar
