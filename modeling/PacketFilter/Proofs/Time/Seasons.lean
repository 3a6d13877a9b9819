/-
This file puts the two ways in which a zone with summer time is asked, for the offset at an
instant and for the offsets of a local time, into one form. Summer time and standard time take
turns without end; in the north summer time ends in the year in which it begins, in the south in
the year after. Once that is taken apart from the rest, both hemispheres are alike: `Seasons` says
what the two lookups answer between one beginning of summer time and the next, and what follows
from it does not ask for the year.
-/

import PacketFilter.Proofs.Time.Calendar
import PacketFilter.Time.Zone

namespace PacketFilter.Zone

/-! ### Years -/

/-- The seconds of a year are the ones from its first day on and before the first day of the
next. -/
theorem yearOf_eq_iff {seconds year : Int} :
    yearOf seconds = year ↔
      86400 * Calendar.firstDayOfYear year ≤ seconds ∧
        seconds < 86400 * Calendar.firstDayOfYear (year + 1) := by
  rw [yearOf, Calendar.yearOfDay_eq_iff]
  omega

/-- Times of an earlier year are earlier. -/
theorem lt_of_yearOf_lt {first last : Int} (lt : yearOf first < yearOf last) : first < last := by
  have ended := (yearOf_eq_iff.mp (show yearOf first = yearOf first from rfl)).2
  have begun := (yearOf_eq_iff.mp (show yearOf last = yearOf last from rfl)).1
  have := Calendar.firstDayOfYear_le (show yearOf first + 1 ≤ yearOf last by omega)
  omega

theorem yearOf_le {first last : Int} (le : first ≤ last) : yearOf first ≤ yearOf last :=
  Int.not_lt.mp fun lt => Int.not_le.mpr (lt_of_yearOf_lt lt) le

/-- What lies between two times of a year lies in that year. -/
theorem yearOf_of_between {first last seconds year : Int} (begins : yearOf first = year)
    (ends : yearOf last = year) (after : first ≤ seconds) (before : seconds ≤ last) :
    yearOf seconds = year :=
  Int.le_antisymm (ends ▸ yearOf_le before) (begins ▸ yearOf_le after)

/-! ### Changes that keep clear of each other and of the turn of the year -/

/-- Two yearly changes of the clocks that can be told apart. Whatever is shown when the clocks
change, by either of them and by universal time, belongs to the year of the change. They come in the
same order in every year, and their months tell in which; and if summer time begins first, it lasts
for longer than the times that are left out and repeated. -/
structure IsRegular (standard summer : Int) (starts ends : YearlyChange) : Prop where
  gains : standard < summer
  start_inYear (year : Int) : yearOf (starts.seconds year) = year
  skipped_inYear (year : Int) : yearOf (starts.seconds year + (summer - standard)) = year
  startInstant_inYear (year : Int) : yearOf (starts.seconds year - standard) = year
  stop_inYear (year : Int) : yearOf (ends.seconds year) = year
  repeated_inYear (year : Int) : yearOf (ends.seconds year - (summer - standard)) = year
  firstInstant_inYear (year : Int) :
    yearOf (ends.seconds year - summer - (summer - standard)) = year
  lastInstant_inYear (year : Int) : yearOf (ends.seconds year - standard) = year
  ordered :
    (∀ year, starts.month year < ends.month year ∧
      starts.seconds year + (summer - standard) < ends.seconds year - (summer - standard)) ∨
    (∀ year, ends.month year ≤ starts.month year ∧ ends.seconds year ≤ starts.seconds year)

/-- The turns of summer time and standard time: summer time begins in every year and ends some
years later, and the lookups answer accordingly. What the clock shows when summer time begins is
read as standard time if it is read at all. -/
structure Seasons (standard summer : Int) (starts ends : YearlyChange) (lag : Int) : Prop where
  gains : standard < summer
  summer_lasts (year : Int) :
    starts.seconds year + (summer - standard) < ends.seconds (year + lag) - (summer - standard)
  winter_lasts (year : Int) : ends.seconds (year + lag) ≤ starts.seconds (year + 1)
  covers (instant : Int) : ∃ year,
    starts.seconds year - standard ≤ instant ∧ instant < starts.seconds (year + 1) - standard
  instants_inYear {year instant : Int} :
    ends.seconds (year + lag) - summer - (summer - standard) ≤ instant →
      instant ≤ ends.seconds (year + lag) - standard → yearOf instant = year + lag
  offsetAt_summer {year instant : Int} : starts.seconds year - standard ≤ instant →
    instant < ends.seconds (year + lag) - summer →
      offsetAt (.daylight standard summer starts ends) instant = summer
  offsetAt_winter {year instant : Int} : ends.seconds (year + lag) - summer ≤ instant →
    instant < starts.seconds (year + 1) - standard →
      offsetAt (.daylight standard summer starts ends) instant = standard
  localOffsets_start {year : Int} : ends.seconds (year + lag) < starts.seconds (year + 1) →
    localOffsets (.daylight standard summer starts ends) (starts.seconds (year + 1)) = [standard] ∨
      localOffsets (.daylight standard summer starts ends) (starts.seconds (year + 1)) = []
  localOffsets_skipped {year seconds : Int} : starts.seconds year < seconds →
    seconds < starts.seconds year + (summer - standard) →
      localOffsets (.daylight standard summer starts ends) seconds = []
  localOffsets_summer {year seconds : Int} : starts.seconds year + (summer - standard) ≤ seconds →
    seconds < ends.seconds (year + lag) - (summer - standard) →
      localOffsets (.daylight standard summer starts ends) seconds = [summer]
  localOffsets_repeated {year seconds : Int} :
    ends.seconds (year + lag) - (summer - standard) ≤ seconds →
      seconds ≤ ends.seconds (year + lag) →
        localOffsets (.daylight standard summer starts ends) seconds = [standard, summer]
  localOffsets_winter {year seconds : Int} : ends.seconds (year + lag) < seconds →
    seconds < starts.seconds (year + 1) →
      localOffsets (.daylight standard summer starts ends) seconds = [standard]

section Lookups

variable {first last : Int → Int} {instant : Int}

theorem isBetween_of_le_of_lt (year : Int) (firstInYear : yearOf (first year) = year)
    (lastInYear : yearOf (last year) = year) (after : first year ≤ instant)
    (before : instant < last year) : isBetween first last instant = true := by
  have inYear := yearOf_of_between firstInYear lastInYear after (Int.le_of_lt before)
  simp [isBetween, inYear, after, before]

theorem isBetween_eq_false (outside : ∀ near, first near ≤ instant → last near ≤ instant) :
    isBetween first last instant = false := by
  simp only [isBetween, List.any_cons, List.any_nil, Bool.or_false, Bool.or_eq_false_iff,
    Bool.and_eq_false_iff, decide_eq_false_iff_not, Int.not_le, Int.not_lt]
  have each (near : Int) : instant < first near ∨ last near ≤ instant :=
    (Int.lt_or_le instant (first near)).imp_right (outside near)
  exact ⟨each _, each _, each _⟩

end Lookups

namespace IsRegular

variable {standard summer : Int} {starts ends : YearlyChange}

theorem setBack_inYear (regular : IsRegular standard summer starts ends) (year : Int) :
    yearOf (ends.seconds year - summer) = year := by
  have := regular.gains
  exact yearOf_of_between (regular.firstInstant_inYear year) (regular.lastInstant_inYear year)
    (by omega) (by omega)

/-- Of two years, summer time begins earlier in the earlier one. -/
theorem start_lt (regular : IsRegular standard summer starts ends) {year other : Int}
    (lt : year < other) : starts.seconds year < starts.seconds other :=
  lt_of_yearOf_lt (by rwa [regular.start_inYear, regular.start_inYear])

theorem stop_lt (regular : IsRegular standard summer starts ends) {year other : Int}
    (lt : year < other) : ends.seconds year < ends.seconds other :=
  lt_of_yearOf_lt (by rwa [regular.stop_inYear, regular.stop_inYear])

/-- Every instant lies between two beginnings of summer time. -/
theorem covers (regular : IsRegular standard summer starts ends) (instant : Int) : ∃ year,
    starts.seconds year - standard ≤ instant ∧
      instant < starts.seconds (year + 1) - standard := by
  have later : instant < starts.seconds (yearOf instant + 1) - standard :=
    lt_of_yearOf_lt (by rw [regular.startInstant_inYear]; omega)
  by_cases begun : starts.seconds (yearOf instant) - standard ≤ instant
  · exact ⟨yearOf instant, begun, later⟩
  · have earlier : starts.seconds (yearOf instant - 1) - standard < instant :=
      lt_of_yearOf_lt (by rw [regular.startInstant_inYear]; omega)
    refine ⟨yearOf instant - 1, Int.le_of_lt earlier, ?_⟩
    rw [Int.sub_add_cancel]
    omega

/-! ### The north -/

section North

variable (regular : IsRegular standard summer starts ends)
  (northern : ∀ year, starts.month year < ends.month year ∧
    starts.seconds year + (summer - standard) < ends.seconds year - (summer - standard))

include regular northern

theorem localOffsets_eq_of_north {seconds year : Int} (inYear : yearOf seconds = year) :
    localOffsets (.daylight standard summer starts ends) seconds =
      if seconds ≤ starts.seconds year then [standard]
      else if seconds < starts.seconds year + (summer - standard) then []
      else if seconds < ends.seconds year - (summer - standard) then [summer]
      else if seconds ≤ ends.seconds year then [standard, summer]
      else [standard] := by
  subst inYear
  exact (if_pos regular.gains).trans (if_pos (northern (yearOf seconds)).1)

theorem offsetAt_eq_of_north (instant : Int) :
    offsetAt (.daylight standard summer starts ends) instant =
      if isBetween (fun year => starts.seconds year - standard)
        (fun year => ends.seconds year - summer) instant then summer else standard := by
  have gains := regular.gains
  have apart := (northern (yearOf instant)).2
  exact if_pos (show starts.seconds (yearOf instant) - standard ≤
    ends.seconds (yearOf instant) - summer by omega)

/-- In the north, summer time ends in the year in which it begins. -/
theorem seasons_of_north : Seasons standard summer starts ends 0 where
  gains := regular.gains
  summer_lasts year := by
    rw [Int.add_zero]
    exact (northern year).2
  winter_lasts year := by
    rw [Int.add_zero]
    refine Int.le_of_lt (lt_of_yearOf_lt ?_)
    rw [regular.stop_inYear, regular.start_inYear]
    omega
  covers := regular.covers
  instants_inYear {year instant} after before := by
    rw [Int.add_zero] at *
    exact yearOf_of_between (regular.firstInstant_inYear year) (regular.lastInstant_inYear year)
      after before
  offsetAt_summer {year instant} after before := by
    rw [Int.add_zero] at before
    have between : isBetween (fun year => starts.seconds year - standard)
        (fun year => ends.seconds year - summer) instant = true :=
      isBetween_of_le_of_lt year (regular.startInstant_inYear year) (regular.setBack_inYear year)
        after before
    rw [offsetAt_eq_of_north regular northern, if_pos between]
  offsetAt_winter {year instant} after before := by
    rw [Int.add_zero] at after
    have outside (near : Int) (begun : starts.seconds near - standard ≤ instant) :
        ends.seconds near - summer ≤ instant := by
      rcases Int.lt_trichotomy near year with earlier | rfl | later
      · have := regular.stop_lt earlier
        omega
      · exact after
      · rcases Int.lt_or_eq_of_le (show year + 1 ≤ near from later) with lt | rfl
        · have := regular.start_lt lt
          omega
        · omega
    rw [offsetAt_eq_of_north regular northern, isBetween_eq_false outside,
      if_neg Bool.false_ne_true]
  localOffsets_start {year} _ := by
    rw [localOffsets_eq_of_north regular northern (regular.start_inYear (year + 1)),
      if_pos (Int.le_refl _)]
    exact .inl rfl
  localOffsets_skipped {year seconds} after before := by
    have inYear := yearOf_of_between (regular.start_inYear year) (regular.skipped_inYear year)
      (Int.le_of_lt after) (Int.le_of_lt before)
    rw [localOffsets_eq_of_north regular northern inYear, if_neg (by omega), if_pos before]
  localOffsets_summer {year seconds} after before := by
    rw [Int.add_zero] at before
    have inYear := yearOf_of_between (regular.skipped_inYear year) (regular.repeated_inYear year)
      after (Int.le_of_lt before)
    have gains := regular.gains
    rw [localOffsets_eq_of_north regular northern inYear, if_neg (by omega), if_neg (by omega),
      if_pos before]
  localOffsets_repeated {year seconds} after before := by
    rw [Int.add_zero] at *
    have inYear := yearOf_of_between (regular.repeated_inYear year) (regular.stop_inYear year)
      after before
    have gains := regular.gains
    have apart := (northern year).2
    rw [localOffsets_eq_of_north regular northern inYear, if_neg (by omega), if_neg (by omega),
      if_neg (by omega), if_pos before]
  localOffsets_winter {year seconds} after before := by
    rw [Int.add_zero] at after
    have gains := regular.gains
    have apart := (northern year).2
    have notBefore : year ≤ yearOf seconds :=
      regular.stop_inYear year ▸ yearOf_le (Int.le_of_lt after)
    have notAfter : yearOf seconds ≤ year + 1 :=
      regular.start_inYear (year + 1) ▸ yearOf_le (Int.le_of_lt before)
    -- the winter lasts into the year after
    rcases Int.lt_or_eq_of_le notAfter with sameYear | nextYear
    · rw [localOffsets_eq_of_north regular northern (show yearOf seconds = year by omega),
        if_neg (by omega), if_neg (by omega), if_neg (by omega), if_neg (by omega)]
    · rw [localOffsets_eq_of_north regular northern nextYear, if_pos (Int.le_of_lt before)]

end North

/-! ### The south -/

section South

variable (regular : IsRegular standard summer starts ends)
  (southern : ∀ year, ends.month year ≤ starts.month year ∧
    ends.seconds year ≤ starts.seconds year)

include regular southern

theorem localOffsets_eq_of_south {seconds year : Int} (inYear : yearOf seconds = year) :
    localOffsets (.daylight standard summer starts ends) seconds =
      if seconds < ends.seconds year - (summer - standard) then [summer]
      else if seconds ≤ ends.seconds year then [standard, summer]
      else if seconds < starts.seconds year then [standard]
      else if seconds < starts.seconds year + (summer - standard) then []
      else [summer] := by
  subst inYear
  exact (if_pos regular.gains).trans (if_neg (Nat.not_lt.mpr (southern (yearOf seconds)).1))

theorem offsetAt_eq_of_south (instant : Int) :
    offsetAt (.daylight standard summer starts ends) instant =
      if isBetween (fun year => ends.seconds year - summer)
        (fun year => starts.seconds year - standard) instant then standard else summer := by
  have gains := regular.gains
  have apart := (southern (yearOf instant)).2
  exact if_neg (show ¬starts.seconds (yearOf instant) - standard ≤
    ends.seconds (yearOf instant) - summer by omega)

/-- In the south, summer time ends in the year after the one in which it begins. -/
theorem seasons_of_south : Seasons standard summer starts ends 1 where
  gains := regular.gains
  summer_lasts year := by
    refine lt_of_yearOf_lt ?_
    rw [regular.skipped_inYear, regular.repeated_inYear]
    omega
  winter_lasts year := (southern (year + 1)).2
  covers := regular.covers
  instants_inYear {year instant} after before :=
    yearOf_of_between (regular.firstInstant_inYear (year + 1))
      (regular.lastInstant_inYear (year + 1)) after before
  offsetAt_summer {year instant} after before := by
    have outside (near : Int) (ended : ends.seconds near - summer ≤ instant) :
        starts.seconds near - standard ≤ instant := by
      rcases Int.lt_trichotomy near year with earlier | rfl | later
      · have := regular.start_lt earlier
        omega
      · exact after
      · rcases Int.lt_or_eq_of_le (show year + 1 ≤ near from later) with lt | rfl
        · have := regular.stop_lt lt
          omega
        · omega
    rw [offsetAt_eq_of_south regular southern, isBetween_eq_false outside,
      if_neg Bool.false_ne_true]
  offsetAt_winter {year instant} after before := by
    have between : isBetween (fun year => ends.seconds year - summer)
        (fun year => starts.seconds year - standard) instant = true :=
      isBetween_of_le_of_lt (year + 1) (regular.setBack_inYear (year + 1))
        (regular.startInstant_inYear (year + 1)) after before
    rw [offsetAt_eq_of_south regular southern, if_pos between]
  localOffsets_start {year} after := by
    have gains := regular.gains
    rw [localOffsets_eq_of_south regular southern (regular.start_inYear (year + 1)),
      if_neg (by omega), if_neg (by omega), if_neg (by omega), if_pos (by omega)]
    exact .inr rfl
  localOffsets_skipped {year seconds} after before := by
    have inYear := yearOf_of_between (regular.start_inYear year) (regular.skipped_inYear year)
      (Int.le_of_lt after) (Int.le_of_lt before)
    have gains := regular.gains
    have apart := (southern year).2
    rw [localOffsets_eq_of_south regular southern inYear, if_neg (by omega), if_neg (by omega),
      if_neg (by omega), if_pos before]
  localOffsets_summer {year seconds} after before := by
    have gains := regular.gains
    have apart := (southern year).2
    have notBefore : year ≤ yearOf seconds := regular.skipped_inYear year ▸ yearOf_le after
    have notAfter : yearOf seconds ≤ year + 1 :=
      regular.repeated_inYear (year + 1) ▸ yearOf_le (Int.le_of_lt before)
    -- the summer lasts into the year after
    rcases Int.lt_or_eq_of_le notAfter with sameYear | nextYear
    · rw [localOffsets_eq_of_south regular southern (show yearOf seconds = year by omega),
        if_neg (by omega), if_neg (by omega), if_neg (by omega), if_neg (by omega)]
    · rw [localOffsets_eq_of_south regular southern nextYear, if_pos before]
  localOffsets_repeated {year seconds} after before := by
    have inYear := yearOf_of_between (regular.repeated_inYear (year + 1))
      (regular.stop_inYear (year + 1)) after before
    rw [localOffsets_eq_of_south regular southern inYear, if_neg (by omega), if_pos before]
  localOffsets_winter {year seconds} after before := by
    have inYear := yearOf_of_between (regular.stop_inYear (year + 1))
      (regular.start_inYear (year + 1)) (Int.le_of_lt after) (Int.le_of_lt before)
    have gains := regular.gains
    rw [localOffsets_eq_of_south regular southern inYear, if_neg (by omega), if_neg (by omega),
      if_pos before]

end South

/-- Regular changes make the two times of the year take turns. -/
theorem exists_seasons (regular : IsRegular standard summer starts ends) :
    ∃ lag, Seasons standard summer starts ends lag := by
  rcases regular.ordered with northern | southern
  · exact ⟨0, regular.seasons_of_north northern⟩
  · exact ⟨1, regular.seasons_of_south southern⟩

end IsRegular

end PacketFilter.Zone
