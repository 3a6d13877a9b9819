/-
This file shows where in the year the clocks change. Whatever rule names the day of a change, it
lies in the month that the rule says, so from February to November it is a month away from the
turn of the year; that leaves room for every offset a zone may have and for the hours that are
skipped or repeated. Two such changes that are some days apart are therefore regular, if their
months tell which of them comes first. If the months do not, local times are read by summer time
when it is over.
-/

import PacketFilter.Proofs.Time.Seasons
import PacketFilter.Time.ZoneText

namespace PacketFilter

/-! ### Months -/

namespace Calendar

/-- The months from February to November have January before them and December after them. -/
theorem sum_take_monthLengths (year : Int) {month : Nat} (toNovember : month < 12)
    (fromFebruary : 2 ≤ month) :
    31 ≤ ((monthLengths year).take (month - 1)).foldr (· + ·) 0 ∧
      ((monthLengths year).take (month - 1)).foldr (· + ·) 0
          + (monthLengths year).getD (month - 1) 0 + 31 ≤
        (monthLengths year).foldr (· + ·) 0 := by
  revert month
  unfold monthLengths
  cases isLeapYear year <;> decide

/-- Each month between two others puts four weeks between them. -/
theorem sum_take_add_le (year : Int) {later : Nat} (inYear : later < 12) {earlier : Nat}
    (before : earlier < later) :
    ((monthLengths year).take earlier).foldr (· + ·) 0 + (monthLengths year).getD earlier 0
        + 28 * (later - earlier - 1) ≤
      ((monthLengths year).take later).foldr (· + ·) 0 := by
  revert later earlier
  unfold monthLengths
  cases isLeapYear year <;> decide

/-- No month is longer in a common year. -/
theorem getD_monthLengths_common_le (year : Int) {index : Nat} (inYear : index < 12) :
    (monthLengths 1970).getD index 0 ≤ (monthLengths year).getD index 0 := by
  revert index
  unfold monthLengths
  cases isLeapYear year <;> decide

/-- A day from February to November is a month away from either end of its year. -/
theorem dayNumber_inYear {date : Date} (isDay : isDate date = true) (fromFebruary : 2 ≤ date.month)
    (toNovember : date.month ≤ 11) :
    firstDayOfYear date.year + 31 ≤ dayNumber date ∧
      dayNumber date + 31 < firstDayOfYear (date.year + 1) := by
  obtain ⟨-, -, firstDay, lastDay⟩ := isDate_iff.mp isDay
  obtain ⟨january, december⟩ := sum_take_monthLengths date.year
    (show date.month < 12 by omega) fromFebruary
  have length := firstDayOfYear_succ_eq_sum date.year
  simp only [dayNumber]
  omega

/-- Of two days of one year, the one of the earlier month comes first, and for each month between
theirs it does so by four weeks more. -/
theorem dayNumber_add_lt {first last : Date} (firstIsDay : isDate first = true)
    (lastIsDay : isDate last = true) (sameYear : first.year = last.year)
    (before : first.month < last.month) :
    dayNumber first + 28 * (last.month - first.month - 1 : Nat) < dayNumber last := by
  obtain ⟨firstMonth, -, firstDay, firstLast⟩ := isDate_iff.mp firstIsDay
  obtain ⟨-, lastMonth, -, -⟩ := isDate_iff.mp lastIsDay
  have months := sum_take_add_le last.year (show last.month - 1 < 12 by omega)
    (show first.month - 1 < last.month - 1 by omega)
  rw [sameYear] at firstLast
  simp only [dayNumber, sameYear]
  omega

end Calendar

/-! ### Days of every year -/

namespace YearlyDay

@[simp] theorem year_date (rule : YearlyDay) (year : Int) : (rule.date year).year = year := by
  cases rule <;> rfl

/-- Counting on through months that are no longer than those of a year leads to a day of that year,
unless it leads behind November. -/
theorem isDate_dateAfter {year other : Int} (days : Nat)
    (shorter : ∀ index < 12, (Calendar.monthLengths other).getD index 0 ≤
      (Calendar.monthLengths year).getD index 0)
    (toNovember : (dateAfter year (Calendar.monthLengths other) days).month ≤ 11) :
    Calendar.isDate (dateAfter year (Calendar.monthLengths other) days) = true := by
  obtain ⟨index, -, isMonth, firstDay, lastDay, -⟩ :=
    Calendar.monthAndDay_spec 1 ((Calendar.monthLengths other).take 11) days
  have month : (dateAfter year (Calendar.monthLengths other) days).month = 1 + index := isMonth
  have inRow : index < 11 := by omega
  have inMonth := lastDay inRow
  rw [List.getD_eq_getElem?_getD, List.getElem?_take_of_lt inRow, ← List.getD_eq_getElem?_getD]
    at inMonth
  refine Calendar.isDate_iff.mpr ⟨by omega, by omega, firstDay, ?_⟩
  rw [month, Nat.add_sub_cancel_left]
  exact Nat.le_trans inMonth (shorter index (by omega))

/-- The date that a rule names is one of the calendar, but for an overflow of December. -/
theorem isDate_date {rule : YearlyDay} (valid : rule.isValid = true) {year : Int}
    (toNovember : (rule.date year).month ≤ 11) : Calendar.isDate (rule.date year) = true := by
  cases rule with
  | inWeek month week weekday =>
    simp only [isValid, Bool.and_eq_true, decide_eq_true_eq] at valid
    obtain ⟨⟨⟨⟨firstMonth, lastMonth⟩, firstWeek⟩, lastWeek⟩, -⟩ := valid
    have long := Calendar.le_getD_monthLengths year (show month - 1 < 12 by omega)
    refine Calendar.isDate_iff.mpr ⟨firstMonth, lastMonth, Nat.le_add_left 1 _, ?_⟩
    simp only [date]
    split
    · omega
    · omega
  | inCommonYear number =>
    exact isDate_dateAfter _ (fun _ => Calendar.getD_monthLengths_common_le year) toNovember
  | inYear number => exact isDate_dateAfter _ (fun _ _ => Nat.le_refl _) toNovember

/-- Only a day of the year comes to 29 February, and only in a leap year. -/
example : (inCommonYear 60).date 2024 = ⟨2024, 3, 1⟩ ∧ (inYear 59).date 2024 = ⟨2024, 2, 29⟩ ∧
    (inYear 59).date 2023 = ⟨2023, 3, 1⟩ ∧ (inYear 365).date 2023 = ⟨2023, 12, 32⟩ := by
  decide

end YearlyDay

namespace YearlyChange

/-- A day that there is, and a time on it or in the hour after it. -/
structure IsValid (change : YearlyChange) : Prop where
  rule : change.rule.isValid = true
  timeOfDay_nonneg : 0 ≤ change.timeOfDay
  timeOfDay_lt : change.timeOfDay < 90000

/-- A change that falls from February to November in every year. -/
structure IsInner (change : YearlyChange) : Prop extends IsValid change where
  fromFebruary (year : Int) : 2 ≤ change.month year
  toNovember (year : Int) : change.month year ≤ 11

variable {change : YearlyChange}

theorem IsInner.isDate (inner : change.IsInner) (year : Int) :
    Calendar.isDate (change.rule.date year) = true :=
  YearlyDay.isDate_date inner.rule (inner.toNovember year)

/-- Times within thirty days of a change lie in the year of the change. -/
theorem IsInner.yearOf_of_near (inner : change.IsInner) {year seconds : Int}
    (after : change.seconds year - 2592000 ≤ seconds)
    (before : seconds ≤ change.seconds year + 2592000) : Zone.yearOf seconds = year := by
  obtain ⟨first, last⟩ := Calendar.dayNumber_inYear (inner.isDate year) (inner.fromFebruary year)
    (inner.toNovember year)
  rw [YearlyDay.year_date] at first last
  have nonneg := inner.timeOfDay_nonneg
  have lt := inner.timeOfDay_lt
  rw [YearlyChange.seconds, YearlyChange.day] at after before
  rw [Zone.yearOf_eq_iff]
  omega

section Weeks

variable {month week weekday : Nat} {timeOfDay : Int}

/-- The month of a day in a week of a month does not depend on the year. -/
theorem isInner_inWeek (valid : (YearlyDay.inWeek month week weekday).isValid = true)
    (fromFebruary : 2 ≤ month) (toNovember : month ≤ 11) (nonneg : 0 ≤ timeOfDay)
    (lt : timeOfDay < 90000) : IsInner ⟨.inWeek month week weekday, timeOfDay⟩ where
  rule := valid
  fromFebruary _ := fromFebruary
  toNovember _ := toNovember
  timeOfDay_nonneg := nonneg
  timeOfDay_lt := lt

/-- A month has four weeks, seven days apart. -/
theorem day_inWeek_add {later : Nat} {otherTime : Int} (isMonth : month ≤ 12) (first : 1 ≤ week)
    (before : week ≤ later) (last : later ≤ 4) (year : Int) :
    day ⟨.inWeek month week weekday, timeOfDay⟩ year + 7 * (later - week : Nat) =
      day ⟨.inWeek month later weekday, otherTime⟩ year := by
  have long := Calendar.le_getD_monthLengths year (show month - 1 < 12 by omega)
  simp only [day, YearlyDay.date]
  rw [if_pos (by omega), if_pos (by omega)]
  simp only [Calendar.dayNumber]
  omega

end Weeks

section Two

variable {first last : YearlyChange} (firstInner : first.IsInner) (lastInner : last.IsInner)
  (year : Int)

include firstInner lastInner

/-- Changes in months that have a month between them are four weeks apart. -/
theorem IsInner.day_add_lt (apart : first.month year + 1 < last.month year) :
    first.day year + 28 < last.day year := by
  have months := Calendar.dayNumber_add_lt (firstInner.isDate year) (lastInner.isDate year)
    (by simp only [YearlyDay.year_date]) (Nat.lt_of_succ_lt apart)
  simp only [month] at apart
  simp only [day]
  omega

/-- A change that comes first is not in a later month. -/
theorem IsInner.month_le (before : first.day year ≤ last.day year) :
    first.month year ≤ last.month year := by
  refine Nat.not_lt.mp fun later => ?_
  have months := Calendar.dayNumber_add_lt (lastInner.isDate year) (firstInner.isDate year)
    (by simp only [YearlyDay.year_date]) later
  simp only [day] at before
  omega

end Two

end YearlyChange

/-! ### Changes in the text of a zone -/

namespace Zone

/-- Clock times are at most an hour longer than a day. -/
theorem readClock?_lt {letters rest : List Char} {seconds : Nat}
    (read : readClock? letters = some (seconds, rest)) : seconds < 90000 := by
  simp only [readClock?, Option.bind_eq_bind, Option.bind_eq_some_iff] at read
  obtain ⟨⟨hours, _⟩, -, ⟨minutes, _⟩, -, ⟨seconds, _⟩, -, read⟩ := read
  split at read
  · cases read
    omega
  · cases read

theorem isValid_of_readChange? {letters rest : List Char} {change : YearlyChange}
    (read : readChange? letters = some (change, rest)) : change.IsValid := by
  simp only [readChange?, Option.bind_eq_bind, Option.bind_eq_some_iff] at read
  obtain ⟨_, -, ⟨rule, behind⟩, isRule, read⟩ := read
  have valid : rule.isValid = true := (Option.filter_eq_some_iff.mp isRule).2
  split at read
  · obtain ⟨⟨timeOfDay, _⟩, isTime, isChange⟩ := Option.map_eq_some_iff.mp read
    have lt := readClock?_lt isTime
    cases isChange
    exact ⟨valid, Int.natCast_nonneg _, Int.ofNat_lt.mpr lt⟩
  · cases read
    exact ⟨valid, show (0 : Int) ≤ 7200 by decide, show (7200 : Int) < 90000 by decide⟩

/-- The changes of a zone that a text names are valid. -/
theorem isValid_of_ofText? {text : String} {standard summer : Int} {starts ends : YearlyChange}
    (named : ofText? text = some (.daylight standard summer starts ends)) :
    starts.IsValid ∧ ends.IsValid := by
  simp only [ofText?, Option.bind_eq_bind, Option.bind_eq_some_iff] at named
  obtain ⟨_, -, ⟨_, _⟩, -, named⟩ := named
  split at named
  · cases named
  · simp only [Option.bind_eq_some_iff] at named
    obtain ⟨_, -, ⟨_, _⟩, -, ⟨_, _⟩, isStart, ⟨_, _⟩, isEnd, named⟩ := named
    split at named
    · cases named
      exact ⟨isValid_of_readChange? isStart, isValid_of_readChange? isEnd⟩
    · cases named

example : ofText? "AAA5BBB,59/1,J60/0:30" =
    some (.daylight (-18000) (-14400) ⟨.inYear 59, 3600⟩ ⟨.inCommonYear 60, 1800⟩) := rfl

/-! ### Two changes -/

/-- Two changes from February to November, in the same order in every year, between offsets that
differ by at most a day; offsets of more than a day, which no place has, are allowed up to
twenty-five hours. Changes that are a week apart, by their dates or as instants, have five days
between their dates. -/
structure IsSpaced (standard summer : Int) (starts ends : YearlyChange) : Prop where
  gains : standard < summer
  gain_le : summer - standard ≤ 86400
  le_standard : -90000 ≤ standard
  summer_le : summer ≤ 90000
  start_inner : starts.IsInner
  stop_inner : ends.IsInner
  ordered : (∀ year, starts.day year + 5 ≤ ends.day year) ∨
    (∀ year, ends.day year + 5 ≤ starts.day year)

/-- Such changes of which the months tell the order: a summer that begins before it ends does so in
an earlier month. If it ends before it begins, it does not end in a later month anyway. -/
structure IsSeasonal (standard summer : Int) (starts ends : YearlyChange) : Prop extends
    IsSpaced standard summer starts ends where
  month_lt (year : Int) : starts.day year < ends.day year → starts.month year < ends.month year

/-- Seasonal changes keep clear of each other and of the turn of the year. -/
theorem IsSeasonal.isRegular {standard summer : Int} {starts ends : YearlyChange}
    (seasonal : IsSeasonal standard summer starts ends) :
    IsRegular standard summer starts ends := by
  obtain ⟨⟨gains, gain_le, le_standard, summer_le, start_inner, stop_inner, ordered⟩, month_lt⟩ :=
    seasonal
  have startTime := start_inner.timeOfDay_nonneg
  have startTime_lt := start_inner.timeOfDay_lt
  have stopTime := stop_inner.timeOfDay_nonneg
  have stopTime_lt := stop_inner.timeOfDay_lt
  refine
    { gains
      start_inYear := fun year => start_inner.yearOf_of_near (by omega) (by omega)
      skipped_inYear := fun year => start_inner.yearOf_of_near (by omega) (by omega)
      startInstant_inYear := fun year => start_inner.yearOf_of_near (by omega) (by omega)
      stop_inYear := fun year => stop_inner.yearOf_of_near (by omega) (by omega)
      repeated_inYear := fun year => stop_inner.yearOf_of_near (by omega) (by omega)
      firstInstant_inYear := fun year => stop_inner.yearOf_of_near (by omega) (by omega)
      lastInstant_inYear := fun year => stop_inner.yearOf_of_near (by omega) (by omega)
      ordered := ?_ }
  rcases ordered with northern | southern
  · refine .inl fun year => ?_
    have apart := northern year
    refine ⟨month_lt year (by omega), ?_⟩
    simp only [YearlyChange.seconds]
    omega
  · refine .inr fun year => ?_
    have apart := southern year
    refine ⟨stop_inner.month_le start_inner year (by omega), ?_⟩
    simp only [YearlyChange.seconds]
    omega

/-! ### Two changes of one month -/

section OneMonth

variable {standard summer year instant : Int} {starts ends : YearlyChange}
  (spaced : IsSpaced standard summer starts ends)
  (before : starts.day year < ends.day year)

include spaced before

theorem IsSpaced.skipped_lt_stop :
    starts.seconds year + (summer - standard) < ends.seconds year := by
  have gain_le := spaced.gain_le
  have startTime_lt := spaced.start_inner.timeOfDay_lt
  have stopTime := spaced.stop_inner.timeOfDay_nonneg
  have apart : starts.day year + 5 ≤ ends.day year := by
    rcases spaced.ordered with northern | southern
    · exact northern year
    · have := southern year
      omega
  simp only [YearlyChange.seconds]
  omega

/-- When summer time is over, the clocks show standard time up to the end of the year. -/
theorem IsSpaced.offsetAt_of_ended (ended : ends.seconds year < instant + standard)
    (inYear : yearOf instant = year) :
    offsetAt (.daylight standard summer starts ends) instant = standard := by
  have lasts := spaced.skipped_lt_stop before
  obtain ⟨gains, gain_le, le_standard, summer_le, start_inner, stop_inner, -⟩ := spaced
  have startInstant (near : Int) : yearOf (starts.seconds near - standard) = near :=
    start_inner.yearOf_of_near (by omega) (by omega)
  have stopInstant (near : Int) : yearOf (ends.seconds near - summer) = near :=
    stop_inner.yearOf_of_near (by omega) (by omega)
  have outside (near : Int) (begun : starts.seconds near - standard ≤ instant) :
      ends.seconds near - summer ≤ instant := by
    have notLater := yearOf_le begun
    rw [startInstant, inYear] at notLater
    rcases Int.lt_or_eq_of_le notLater with earlier | rfl
    · refine Int.le_of_lt (lt_of_yearOf_lt ?_)
      rwa [stopInstant, inYear]
    · omega
  have inOrder : starts.seconds (yearOf instant) - standard ≤
      ends.seconds (yearOf instant) - summer := by
    rw [inYear]
    omega
  unfold offsetAt
  simp only []
  rw [if_pos inOrder, isBetween_eq_false outside, if_neg Bool.false_ne_true]

/-- Unless summer time begins in an earlier month, they are read by summer time. -/
theorem IsSpaced.localOffsets_of_ended (months : ends.month year ≤ starts.month year)
    (ended : ends.seconds year < instant + standard)
    (inYear : yearOf (instant + standard) = year) :
    localOffsets (.daylight standard summer starts ends) (instant + standard) = [summer] := by
  have gains := spaced.gains
  have lasts := spaced.skipped_lt_stop before
  simp only [localOffsets, inYear, if_pos gains, if_neg (Nat.not_lt.mpr months), offsetsBackFirst]
  rw [if_neg (by omega), if_neg (by omega), if_neg (by omega), if_neg (by omega)]

end OneMonth

end Zone

end PacketFilter
