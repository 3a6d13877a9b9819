/-
This file shows what becomes of an absolute time that is written and read again in a zone with
summer time. Where the months of its two changes tell which comes first, no instant is lost: its
text is never one of a skipped local time, and if the text is one of a repeated local time, the
instant is among the two that are offered. A time that was itself read from a text is read again
under the same policy, except around the instant at which the clocks are set back.
-/

import PacketFilter.Proofs.Time.Absolute
import PacketFilter.Proofs.Time.LocalOffsets
import PacketFilter.Proofs.Time.YearlyChange

namespace PacketFilter

namespace Zone

/-! ### Repeated local times -/

/-- The instants at which the local times that are repeated in a year are shown first, by summer
time. -/
structure IsFirstPass (standard summer : Int) (ends : YearlyChange) (year instant : Int) :
    Prop where
  after : ends.seconds year - summer - (summer - standard) ≤ instant
  before : instant < ends.seconds year - summer

/-- The instants at which they are shown for the second time, by standard time. The local time at
which the clocks are set back belongs to them. -/
structure IsSecondPass (standard summer : Int) (ends : YearlyChange) (year instant : Int) :
    Prop where
  after : ends.seconds year - summer ≤ instant
  before : instant ≤ ends.seconds year - standard

namespace Seasons

variable {standard summer lag : Int} {starts ends : YearlyChange}

/-- An instant is the only one with its local time, or it is one of the two with it, by summer
time the second one that is offered and by standard time the first one. -/
theorem instantsOf_clock (seasons : Seasons standard summer starts ends lag) {instant : Int}
    (covered : isCoveredInstant instant = true) :
    let zone := Zone.daylight standard summer starts ends
    let instants := zone.instantsOf (instant + zone.offsetAt instant)
    instants = .unique instant ∨
      (∃ year, IsFirstPass standard summer ends (year + lag) instant ∧
        instants = .ambiguous (instant + (summer - standard)) instant) ∨
      (∃ year, IsSecondPass standard summer ends (year + lag) instant ∧
        instant < starts.seconds (year + 1) - standard ∧
        instants = .ambiguous instant (instant - (summer - standard))) := by
  intro zone instants
  have gains := seasons.gains
  obtain ⟨year, begun, notYet⟩ := seasons.covers instant
  -- both instants of a repeated local time lie in the year in which it is repeated
  have sameYear {other : Int}
      (here : ends.seconds (year + lag) - summer - (summer - standard) ≤ instant)
      (before : instant ≤ ends.seconds (year + lag) - standard)
      (otherHere : ends.seconds (year + lag) - summer - (summer - standard) ≤ other)
      (otherBefore : other ≤ ends.seconds (year + lag) - standard) :
      isCoveredInstant other = true := by
    rw [isCoveredInstant, seasons.instants_inYear otherHere otherBefore,
      ← seasons.instants_inYear here before]
    exact covered
  by_cases inSummer : instant < ends.seconds (year + lag) - summer
  · have offset : zone.offsetAt instant = summer := seasons.offsetAt_summer begun inSummer
    simp only [instants, offset]
    by_cases once : instant + summer < ends.seconds (year + lag) - (summer - standard)
    · have only := seasons.localOffsets_summer (show _ ≤ instant + summer by omega) once
      exact .inl (instantsOf_of_localOffsets_eq_singleton only covered)
    · have first : IsFirstPass standard summer ends (year + lag) instant :=
        { after := by omega, before := inSummer }
      have both : zone.localOffsets (instant + summer) =
          [instant + summer - (instant + (summer - standard)), instant + summer - instant] := by
        rw [seasons.localOffsets_repeated (Int.not_lt.mp once) (by omega)]
        congr 2 <;> omega
      have later := sameYear first.after (by omega)
        (show _ ≤ instant + (summer - standard) by omega) (by omega)
      exact .inr (.inl ⟨year, first, instantsOf_of_localOffsets_eq_pair both later covered⟩)
  · have offset : zone.offsetAt instant = standard :=
      seasons.offsetAt_winter (Int.not_lt.mp inSummer) notYet
    simp only [instants, offset]
    by_cases again : instant + standard ≤ ends.seconds (year + lag)
    · have second : IsSecondPass standard summer ends (year + lag) instant :=
        { after := Int.not_lt.mp inSummer, before := by omega }
      have both : zone.localOffsets (instant + standard) =
          [instant + standard - instant, instant + standard - (instant - (summer - standard))] := by
        rw [seasons.localOffsets_repeated (by omega) again]
        congr 2 <;> omega
      have earlier := sameYear (by omega) second.before
        (show _ ≤ instant - (summer - standard) by omega) (by omega)
      exact .inr (.inr ⟨year, second, notYet,
        instantsOf_of_localOffsets_eq_pair both covered earlier⟩)
    · have only := seasons.localOffsets_winter (Int.not_le.mp again)
        (show instant + standard < starts.seconds (year + 1) by omega)
      exact .inl (instantsOf_of_localOffsets_eq_singleton only covered)

/-- A local time whose instant, or the second after it, is one at which repeated local times are
shown first, is read by summer time out of two offsets. The one exception is that second, when it
is the first one that will be repeated. -/
theorem offset_of_firstPass (seasons : Seasons standard summer starts ends lag)
    {year seconds offset extra : Int}
    (member : offset ∈ localOffsets (.daylight standard summer starts ends) seconds)
    (nonneg : 0 ≤ extra) (atMost : extra ≤ 1)
    (first : IsFirstPass standard summer ends (year + lag) (seconds - offset + extra)) :
    (localOffsets (.daylight standard summer starts ends) seconds = [standard, summer] ∧
        offset = summer) ∨
      (extra = 1 ∧
        seconds - offset + extra = ends.seconds (year + lag) - summer - (summer - standard)) := by
  obtain ⟨after, before⟩ := first
  have gains := seasons.gains
  have lasts := seasons.summer_lasts year
  rcases eq_or_eq_of_mem_localOffsets member with rfl | rfl
  · -- standard time is read up to the beginning of summer time, which is too early
    right
    by_cases skipped : starts.seconds year < seconds
    · by_cases summery : starts.seconds year + (summer - offset) ≤ seconds
      · rw [seasons.localOffsets_summer summery (by omega), List.mem_singleton] at member
        omega
      · rw [seasons.localOffsets_skipped skipped (by omega)] at member
        cases member
    · omega
  · by_cases repeated : ends.seconds (year + lag) - (offset - standard) ≤ seconds
    · exact .inl ⟨seasons.localOffsets_repeated repeated (by omega), rfl⟩
    · right
      omega

/-- A local time whose instant, or the second after it, is one at which repeated local times are
shown again, is read out of two offsets, and by standard time. The exception is an instant at
which the clocks are set back. -/
theorem offset_of_secondPass (seasons : Seasons standard summer starts ends lag)
    {year seconds offset extra : Int}
    (member : offset ∈ localOffsets (.daylight standard summer starts ends) seconds)
    (nonneg : 0 ≤ extra) (atMost : extra ≤ 1)
    (second : IsSecondPass standard summer ends (year + lag) (seconds - offset + extra))
    (notYet : seconds - offset + extra < starts.seconds (year + 1) - standard) :
    localOffsets (.daylight standard summer starts ends) seconds = [standard, summer] ∧
      (offset = standard ∨
        seconds - offset + extra ≤ ends.seconds (year + lag) - summer + extra) := by
  obtain ⟨after, before⟩ := second
  have gains := seasons.gains
  have lasts := seasons.summer_lasts year
  rcases eq_or_eq_of_mem_localOffsets member with rfl | rfl
  · by_cases repeated : ends.seconds (year + lag) - (summer - offset) ≤ seconds
    · exact ⟨seasons.localOffsets_repeated repeated (by omega), .inl rfl⟩
    · have summery : starts.seconds year + (summer - offset) ≤ seconds := by omega
      rw [seasons.localOffsets_summer summery (by omega), List.mem_singleton] at member
      omega
  · by_cases ended : seconds ≤ ends.seconds (year + lag)
    · exact ⟨seasons.localOffsets_repeated (by omega) ended, .inr (by omega)⟩
    · -- after the repeated times, summer time is not read before it begins again
      exfalso
      rcases Int.lt_trichotomy seconds (starts.seconds (year + 1)) with winter | start | skipped
      · rw [seasons.localOffsets_winter (by omega) winter, List.mem_singleton] at member
        omega
      · subst start
        rcases seasons.localOffsets_start (show _ < starts.seconds (year + 1) by omega) with
          standardOnly | none
        · rw [standardOnly, List.mem_singleton] at member
          omega
        · rw [none] at member
          cases member
      · rw [seasons.localOffsets_skipped skipped (by omega)] at member
        cases member

end Seasons

end Zone

/-! ### A zone with summer time -/

/-- The zone of New York: summer time begins on the second Sunday of March and ends on the first
Sunday of November, both at two o'clock. -/
def newYork : Zone :=
  .daylight (-18000) (-14400) ⟨.inWeek 3 2 0, 7200⟩ ⟨.inWeek 11 1 0, 7200⟩

theorem newYork_isSeasonal :
    Zone.IsSeasonal (-18000) (-14400) ⟨.inWeek 3 2 0, 7200⟩ ⟨.inWeek 11 1 0, 7200⟩ := by
  have start : YearlyChange.IsInner ⟨.inWeek 3 2 0, 7200⟩ :=
    YearlyChange.isInner_inWeek (by decide) (by decide) (by decide) (by decide) (by decide)
  have stop : YearlyChange.IsInner ⟨.inWeek 11 1 0, 7200⟩ :=
    YearlyChange.isInner_inWeek (by decide) (by decide) (by decide) (by decide) (by decide)
  refine
    { gains := by decide
      gain_le := by decide
      le_standard := by decide
      summer_le := by decide
      start_inner := start
      stop_inner := stop
      ordered := .inl fun year => ?_
      month_lt := fun _ _ => show 3 < 11 by decide }
  have := start.day_add_lt stop year (show 3 + 1 < 11 by decide)
  omega

/-- Two changes in July. -/
def firstSundayOfJuly : YearlyChange := ⟨.inWeek 7 1 0, 7200⟩

def fourthSundayOfJuly : YearlyChange := ⟨.inWeek 7 4 0, 7200⟩

/-- A zone with three weeks of summer time. -/
def julySummer : Zone :=
  .daylight (-18000) (-14400) firstSundayOfJuly fourthSundayOfJuly

theorem fourthSundayOfJuly_day (year : Int) :
    firstSundayOfJuly.day year + 21 = fourthSundayOfJuly.day year :=
  YearlyChange.day_inWeek_add (show 7 ≤ 12 by decide) (show 1 ≤ 1 by decide)
    (show 1 ≤ 4 by decide) (show 4 ≤ 4 by decide) year

theorem julySummer_isSpaced :
    Zone.IsSpaced (-18000) (-14400) firstSundayOfJuly fourthSundayOfJuly where
  gains := by decide
  gain_le := by decide
  le_standard := by decide
  summer_le := by decide
  start_inner :=
    YearlyChange.isInner_inWeek (by decide) (by decide) (by decide) (by decide) (by decide)
  stop_inner :=
    YearlyChange.isInner_inWeek (by decide) (by decide) (by decide) (by decide) (by decide)
  ordered := .inl fun year => by
    have := fourthSundayOfJuly_day year
    omega

/-! ### No instant is lost -/

namespace NanoTime

/-- In a year in which summer time begins before it ends, but not in an earlier month, no instant
from its end on is read back by any policy, up to the end of the year. -/
theorem readAbsolute_absoluteText_ne_of_month_le {standard summer year : Int} {starts ends : YearlyChange}
    (spaced : Zone.IsSpaced standard summer starts ends) (before : starts.day year < ends.day year)
    (months : ends.month year ≤ starts.month year) {time : NanoTime}
    (dated : time.IsDated (.daylight standard summer starts ends))
    (ended : ends.seconds year < time.seconds.toInt + standard)
    (inYear : Zone.yearOf time.seconds.toInt = year)
    (localInYear : Zone.yearOf (time.seconds.toInt + standard) = year) (policy : LocalTimePolicy) :
    let zone := Zone.daylight standard summer starts ends
    readAbsolute zone policy (absoluteText zone time) ≠ .ok time := by
  intro zone read
  have gains := spaced.gains
  have shown : zone.offsetAt time.seconds.toInt = standard :=
    spaced.offsetAt_of_ended before ended inYear
  have offered : zone.localOffsets (time.seconds.toInt + standard) = [summer] :=
    spaced.localOffsets_of_ended before months ended localInYear
  rw [readAbsolute_absoluteText dated, shown] at read
  obtain ⟨instant, chosen, isTime⟩ := map_eq_ok.mp read
  obtain ⟨takes, covered⟩ := LocalTimePolicy.takes_of_choose chosen
  rw [offered] at takes
  have bySummer := List.mem_singleton.mp takes.mem
  have sameSeconds : Int64.ofInt instant = time.seconds := congrArg NanoTime.seconds isTime
  have isInstant := toInt_ofInt_of_covered covered (Nat.zero_le 1)
  rw [Int.natCast_zero, Int.add_zero, sameSeconds] at isInstant
  omega

end NanoTime

/-! ### Reading again under the same policy -/

/-- Where a policy need not read a time again that it has read. The text of the instant at which
the clocks are set back is the same as that of the beginning of the repeated times: `latest`, which
reads their end as the former, reads it as the latter. The other policies are led to the beginning
of the repeated times by second 60 of the minute before, and do not read it from its own text. -/
def LocalTimePolicy.IsUnsteadyAt (policy : LocalTimePolicy) (zone : Zone) (extra : Nat)
    (instant : Int) : Prop :=
  match zone with
  | .fixed _ => False
  | .daylight standard summer _ ends =>
    let setBack := ends.seconds (Zone.yearOf instant) - summer
    match policy with
    | .latest => setBack ≤ instant ∧ instant ≤ setBack + extra
    | .reject | .earliest => extra = 1 ∧ instant = setBack - (summer - standard)

/-- The policy that chose an instant for a local time chooses it, or the second after it, for the
local time of that. -/
theorem Zone.Seasons.choose_clock {standard summer lag : Int} {starts ends : YearlyChange}
    (seasons : Zone.Seasons standard summer starts ends lag) {policy : LocalTimePolicy}
    {text : String} {seconds instant : Int} {extra : Nat}
    (chosen : policy.choose text
      ((Zone.daylight standard summer starts ends).instantsOf seconds) = .ok instant)
    (atMost : extra ≤ 1) (covered : Zone.isCoveredInstant (instant + extra) = true)
    (steady : ¬policy.IsUnsteadyAt (.daylight standard summer starts ends) extra (instant + extra))
    (again : String) :
    let zone := Zone.daylight standard summer starts ends
    policy.choose again
        (zone.instantsOf (instant + extra + zone.offsetAt (instant + extra))) =
      .ok (instant + extra) := by
  intro zone
  have gains := seasons.gains
  obtain ⟨takes, -⟩ := LocalTimePolicy.takes_of_choose chosen
  obtain ⟨offset, rfl⟩ : ∃ offset, instant = seconds - offset := ⟨seconds - instant, by omega⟩
  rw [show seconds - (seconds - offset) = offset by omega] at takes
  rcases seasons.instantsOf_clock covered with only | ⟨year, first, both⟩ |
    ⟨year, second, notYet, both⟩
  · rw [only]
    rfl
  · rw [both]
    have notSetBack := first.before
    have inYear := seasons.instants_inYear first.after (by omega)
    rcases seasons.offset_of_firstPass takes.mem (by omega) (by omega) first with
      ⟨offsets, rfl⟩ | ⟨isExtra, begins⟩
    · rw [offsets] at takes
      cases takes with
      | first => omega
      | second => rfl
    · simp only [LocalTimePolicy.IsUnsteadyAt, inYear] at steady
      cases policy with
      | latest => rfl
      | reject => exact absurd ⟨by omega, begins⟩ steady
      | earliest => exact absurd ⟨by omega, begins⟩ steady
  · rw [both]
    have setBack := second.after
    have inYear := seasons.instants_inYear (by omega) second.before
    obtain ⟨offsets, read⟩ :=
      seasons.offset_of_secondPass takes.mem (by omega) (by omega) second notYet
    rw [offsets] at takes
    simp only [LocalTimePolicy.IsUnsteadyAt, inYear] at steady
    cases takes with
    | first => rfl
    | second => exact absurd ⟨setBack, read.resolve_left (by omega)⟩ steady

/-- Whether a zone has no changes of the clocks, or regular ones. -/
def Zone.HasRegularChanges : Zone → Prop
  | .fixed _ => True
  | .daylight standard summer starts ends => IsRegular standard summer starts ends

namespace NanoTime

/-- Whether a text is read as a time that, if it is written as a date, is read again from it. -/
def IsCanonical (zone : Zone) (policy : LocalTimePolicy) (text : String) : Prop :=
  ∀ time, readAbsolute zone policy text = .ok time → (dateText? zone time).isSome = true →
    readAbsolute zone policy (absoluteText zone time) = .ok time

theorem not_isCanonical_of {zone : Zone} {policy : LocalTimePolicy} {text : String}
    (time : NanoTime) (read : readAbsolute zone policy text = .ok time)
    (written : (dateText? zone time).isSome = true) {other : Except ValueError NanoTime}
    (again : readAbsolute zone policy (absoluteText zone time) = other) (ne : other ≠ .ok time) :
    ¬IsCanonical zone policy text :=
  fun canonical => ne (again.symm.trans (canonical time read written))

end NanoTime

end PacketFilter
