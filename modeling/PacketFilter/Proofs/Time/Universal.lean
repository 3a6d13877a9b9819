/-
This file says which absolute times are read in universal time and which instants they denote: a
literal is read if the calendar has its day and the clock its time of day, and denotes the seconds
on that day after those of all the days before it. Second 60 of a minute is the first one of the
next minute, which may lie in the next hour, day, month or year.
-/

import PacketFilter.Proofs.Time.AbsoluteForm
import PacketFilter.Proofs.Time.DayCount
import PacketFilter.Proofs.Time.Policy

namespace PacketFilter

/-! ### The next minute -/

namespace WallClock

/-- The first second of the next minute. -/
def nextMinute (clock : WallClock) : WallClock :=
  if clock.minute < 59 then { clock with minute := clock.minute + 1, second := 0 }
  else if clock.hour < 23 then { clock with hour := clock.hour + 1, minute := 0, second := 0 }
  else ⟨Calendar.nextDay clock.date, 0, 0, 0⟩

variable {clock : WallClock}

/-- The next minute is one of the calendar, in the same year or a later one, and begins sixty
seconds after the minute of the clock did. -/
theorem nextMinute_spec (isDay : Calendar.isDate clock.date = true) (isTime : clock.IsTimeOfDay) :
    Calendar.isDate clock.nextMinute.date = true ∧ clock.nextMinute.IsTimeOfDay ∧
      clock.date.year ≤ clock.nextMinute.date.year ∧
      clock.nextMinute.seconds = clock.seconds - clock.second + 60 := by
  have := isTime.hour
  have := isTime.minute
  unfold nextMinute
  split
  · rename_i minutesLeft
    refine ⟨isDay, ⟨isTime.hour, Nat.succ_le_of_lt minutesLeft, Nat.zero_le _⟩, Int.le_refl _, ?_⟩
    simp only [seconds]
    omega
  · split
    · rename_i hoursLeft
      refine ⟨isDay, ⟨Nat.succ_le_of_lt hoursLeft, Nat.zero_le _, Nat.zero_le _⟩, Int.le_refl _, ?_⟩
      simp only [seconds]
      omega
    · refine ⟨Calendar.isDate_nextDay isDay, ⟨Nat.zero_le _, Nat.zero_le _, Nat.zero_le _⟩,
        Calendar.le_year_nextDay clock.date, ?_⟩
      simp only [seconds, Calendar.dayNumber_nextDay isDay]
      omega

/-- The second for which a clock is looked up lies on the day of its date. -/
theorem lookupSeconds_div (isTime : clock.IsTimeOfDay) :
    clock.lookupSeconds / 86400 = Calendar.dayNumber clock.date := by
  have := isTime.hour
  have := isTime.minute
  have := isTime.second
  unfold lookupSeconds seconds
  omega

end WallClock

namespace AbsoluteForm

variable {form : AbsoluteForm}

/-! ### Looking up an instant -/

/-- In universal time the instant of a clock is the one of its lookup, and it is covered if the year
of the date is. -/
theorem isCoveredInstant_lookupSeconds (isInstant : form.IsInstant) :
    Zone.isCoveredInstant form.clock.lookupSeconds = true := by
  rw [Zone.isCoveredInstant, Zone.yearOf, WallClock.lookupSeconds_div isInstant.timeOfDay,
    Calendar.yearOfDay_dayNumber isInstant.isDate]
  exact Calendar.isCovered_iff.mpr isInstant.year

/-- Every policy takes that instant. -/
theorem choose_utc (isInstant : form.IsInstant) (policy : LocalTimePolicy) (text : String) :
    policy.choose text (Zone.utc.instantsOf form.clock.lookupSeconds) =
      .ok form.clock.lookupSeconds := by
  have chosen := policy.choose_fixed text 0 (isCoveredInstant_lookupSeconds isInstant)
  rwa [Zone.offsetAt, Int.add_zero] at chosen

/-- What a form denotes is its seconds by the clock and its nanoseconds behind the point. -/
def time (form : AbsoluteForm) : NanoTime :=
  ⟨Int64.ofInt form.clock.seconds, Int32.ofNat form.nanoseconds⟩

theorem readAbsolute_text (spelled : form.IsSpelled) (isInstant : form.IsInstant)
    (policy : LocalTimePolicy) :
    NanoTime.readAbsolute .utc policy form.text = .ok form.time := by
  rw [NanoTime.readAbsolute_of_parts (readAbsoluteParts?_text spelled isInstant),
    choose_utc isInstant]
  show Except.ok (NanoTime.mk (Int64.ofInt (form.clock.lookupSeconds + _)) _) = _
  rw [WallClock.lookupSeconds, Int.sub_add_cancel]
  rfl

/-- The numbers of the time are in range. -/
theorem toInt_time (isInstant : form.IsInstant) :
    form.time.seconds.toInt = form.clock.seconds ∧
      form.time.nanoseconds.toInt = form.nanoseconds := by
  constructor
  · have atMost := NanoTime.second_div_le_of_isValid (isInstant_iff.mp isInstant).1
    have inRange :=
      NanoTime.toInt_ofInt_of_covered (isCoveredInstant_lookupSeconds isInstant) atMost
    rwa [WallClock.lookupSeconds, Int.sub_add_cancel] at inRange
  · have small : form.nanoseconds < 1000000000 :=
      NanoTime.optionalNanoseconds_lt fun digits fraction => (isInstant.fraction digits fraction).2
    exact Int32.toInt_ofNat_of_lt (Nat.lt_trans small (by decide))

theorem isInstant_of_readAbsolute_eq_ok (spelled : form.IsSpelled) {policy : LocalTimePolicy}
    {time : NanoTime} (read : NanoTime.readAbsolute .utc policy form.text = .ok time) :
    form.IsInstant := by
  cases parts : NanoTime.readAbsoluteParts? form.text with
  | none => cases (NanoTime.readAbsolute_of_unread parts policy).symm.trans read
  | some parts => exact isInstant_of_readAbsoluteParts? spelled ‹_›

/-! ### Second 60 -/

section

variable {next : AbsoluteForm} (isInstant : form.IsInstant)
  (minute : next.clock = form.clock.nextMinute) (fraction : next.fraction? = form.fraction?)

include isInstant minute fraction

/-- The minute after an instant can be denoted as well, unless the covered years are over. -/
theorem isInstant_of_nextMinute (year : next.clock.date.year ≤ 262142) : next.IsInstant := by
  obtain ⟨isDay, timeOfDay, later, -⟩ :=
    WallClock.nextMinute_spec isInstant.isDate isInstant.timeOfDay
  rw [← minute] at isDay timeOfDay later
  exact ⟨isDay, ⟨Int.le_trans isInstant.year.1 later, year⟩, timeOfDay,
    fraction ▸ isInstant.fraction⟩

/-- Second 60 is the first one of the next minute. -/
theorem time_nextMinute (leap : form.clock.second = 60) : next.time = form.time := by
  obtain ⟨-, -, -, seconds⟩ := WallClock.nextMinute_spec isInstant.isDate isInstant.timeOfDay
  rw [leap] at seconds
  have same : next.clock.seconds = form.clock.seconds := by
    rw [minute, seconds]
    exact Int.sub_add_cancel _ _
  unfold time nanoseconds
  rw [same, fraction]

end

end AbsoluteForm

/-! ### What is read -/

namespace NanoTime

/-- In universal time, whatever the policy, a literal is read exactly if the calendar has its day,
in a covered year, the clock its time of day, and its fraction is one; otherwise it is blamed. It
denotes the seconds of its day and of all the days before it, counted one by one from 1970, and
the nanoseconds of its fraction. With second 60 it denotes the same as the first second of the
next minute. -/
theorem readAbsolute_utc (policy : LocalTimePolicy) {form : AbsoluteForm}
    (spelled : form.IsSpelled) :
    ((∃ time, readAbsolute .utc policy form.text = .ok time) ↔ form.IsInstant) ∧
    (¬form.IsInstant →
      readAbsolute .utc policy form.text = .error (.invalidAbsoluteTime form.text)) ∧
    (form.IsInstant → ∃ time days, readAbsolute .utc policy form.text = .ok time ∧
      (∀ number, Calendar.CountsAs number form.clock.date ↔ number = days) ∧
      time.seconds.toInt = 86400 * days + 3600 * form.clock.hour + 60 * form.clock.minute +
        form.clock.second ∧
      time.nanoseconds.toInt = form.nanoseconds) ∧
    ∀ next : AbsoluteForm, form.IsInstant → form.clock.second = 60 → next.IsSpelled →
      next.clock = form.clock.nextMinute → next.fraction? = form.fraction? →
      next.clock.date.year ≤ 262142 →
      ∃ time, readAbsolute .utc policy form.text = .ok time ∧
        readAbsolute .utc policy next.text = .ok time := by
  refine ⟨⟨?_, ?_⟩, ?_, ?_, ?_⟩
  · rintro ⟨time, read⟩
    exact AbsoluteForm.isInstant_of_readAbsolute_eq_ok spelled read
  · intro isInstant
    exact ⟨form.time, AbsoluteForm.readAbsolute_text spelled isInstant policy⟩
  · intro noInstant
    have unread : readAbsoluteParts? form.text = none :=
      Option.eq_none_iff_forall_ne_some.mpr fun parts read =>
        noInstant (AbsoluteForm.isInstant_of_readAbsoluteParts? spelled read)
    exact readAbsolute_of_unread unread policy
  · intro isInstant
    obtain ⟨seconds, nanoseconds⟩ := AbsoluteForm.toInt_time isInstant
    refine ⟨form.time, Calendar.dayNumber form.clock.date,
      AbsoluteForm.readAbsolute_text spelled isInstant policy, fun number => ?_, ?_, nanoseconds⟩
    · rw [Calendar.countsAs_iff, isInstant.isDate, eq_self, true_and]
    · rw [seconds, WallClock.seconds]
      omega
  · intro next isInstant leap nextSpelled minute fraction year
    have nextInstant := AbsoluteForm.isInstant_of_nextMinute isInstant minute fraction year
    refine ⟨form.time, AbsoluteForm.readAbsolute_text spelled isInstant policy, ?_⟩
    rw [← AbsoluteForm.time_nextMinute isInstant minute fraction leap]
    exact AbsoluteForm.readAbsolute_text nextSpelled nextInstant policy

/-- Second 60 of the last minute of the year before the year 0. -/
def yearEndForm : AbsoluteForm where
  month := 12
  name := "dEC".toList
  day := "31".toList
  year := .signed true "00001".toList
  hour := "23".toList
  minute := "59".toList
  second := "60".toList
  fraction? := some "25".toList

/-- The first second of the year 0. -/
def yearBeginForm : AbsoluteForm where
  month := 1
  name := "JAN".toList
  day := "1".toList
  year := .unsigned "0".toList
  hour := "0".toList
  minute := "00".toList
  second := "0".toList
  fraction? := some "25".toList

theorem isSpelled_yearEndForm : yearEndForm.IsSpelled where
  month := by decide
  name := by decide
  day := by decide
  year := by decide
  hour := by decide
  minute := by decide
  second := by decide

theorem isSpelled_yearBeginForm : yearBeginForm.IsSpelled where
  month := by decide
  name := by decide
  day := by decide
  year := by decide
  hour := by decide
  minute := by decide
  second := by decide

/-- The year before the year 0 ends when the year 0 begins, also with a leap second. -/
theorem readAbsolute_utc_yearEnd :
    yearEndForm.text = "dEC 31, -00001 23:59:60.25" ∧
      yearBeginForm.text = "JAN 1, 0 0:00:0.25" ∧
      ∃ time, readAbsolute .utc .reject "dEC 31, -00001 23:59:60.25" = .ok time ∧
        readAbsolute .utc .reject "JAN 1, 0 0:00:0.25" = .ok time ∧
        time.seconds.toInt = -62167219200 ∧ time.nanoseconds.toInt = 250000000 := by
  have endText : yearEndForm.text = "dEC 31, -00001 23:59:60.25" := by decide
  have beginText : yearBeginForm.text = "JAN 1, 0 0:00:0.25" := by decide
  have isFraction : IsFraction "25".toList := by decide
  have isInstant : yearEndForm.IsInstant :=
    AbsoluteForm.isInstant_iff.mpr ⟨by decide, by rintro digits ⟨⟩; exact isFraction⟩
  obtain ⟨-, -, denotes, rolls⟩ := readAbsolute_utc .reject isSpelled_yearEndForm
  obtain ⟨time, days, read, counts, seconds, nanoseconds⟩ := denotes isInstant
  obtain ⟨same, readEnd, readBegin⟩ :=
    rolls yearBeginForm isInstant (by decide) isSpelled_yearBeginForm (by decide) rfl (by decide)
  cases readEnd.symm.trans read
  have lastDay : Calendar.CountsAs (-719529) yearEndForm.clock.date :=
    Calendar.countsAs_iff.mpr (by decide)
  rw [← (counts (-719529)).mp lastDay] at seconds
  rw [endText] at read
  rw [beginText] at readBegin
  exact ⟨endText, beginText, _, read, readBegin, seconds, nanoseconds⟩

end NanoTime

end PacketFilter
