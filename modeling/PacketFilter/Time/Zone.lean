/-
This file holds local zones: a fixed offset from universal time, or two offsets between which
the clocks change on two days of every year. An instant has one local time. A local time has one
instant as a rule, but none where the clocks are set forward across it and two where they are
set back.
-/

import PacketFilter.Time.WallClock

namespace PacketFilter

/-- A rule that names one day of every year. -/
inductive YearlyDay where
  /-- A weekday, counted from Sunday as zero, of a week of a month. The weeks of a month are counted
  by the weekday, and the fifth one is the last. -/
  | inWeek (month week weekday : Nat)
  /-- A day of a common year, counted from one. It has the same date in a leap year, so that
  29 February is never named. -/
  | inCommonYear (number : Nat)
  /-- A day of the year, counted from zero, 29 February included. -/
  | inYear (number : Nat)
  deriving DecidableEq

/-- A day of every year and a time on it, which is read on the clock that is changed. -/
structure YearlyChange where
  rule : YearlyDay
  /-- The seconds from midnight. -/
  timeOfDay : Int
  deriving DecidableEq

/-- How local time follows from universal time. Offsets are in seconds, positive to the east. What
is called summer time may be behind standard time, where the clocks are set back in winter. -/
inductive Zone where
  | fixed (offset : Int)
  | daylight (standard summer : Int) (starts ends : YearlyChange)
  deriving DecidableEq

/-- The instants that a local time denotes, in seconds of universal time from 1970. -/
inductive LocalInstants where
  | unique (instant : Int)
  | ambiguous (first second : Int)
  | nonexistent
  deriving DecidableEq

/-- Universal time. -/
def Zone.utc : Zone := .fixed 0

namespace YearlyDay

/-- Whether there are such months, weeks and days. -/
def isValid : YearlyDay → Bool
  | .inWeek month week weekday =>
    1 ≤ month && month ≤ 12 && 1 ≤ week && week ≤ 5 && weekday ≤ 6
  | .inCommonYear number => 1 ≤ number && number ≤ 365
  | .inYear number => number ≤ 365

/-- The date in a year with so many days before it, by months of the given lengths. What the first
eleven of them leave is left to December. -/
def dateAfter (year : Int) (lengths : List Nat) (days : Nat) : Date :=
  let (month, day) := Calendar.monthAndDay 1 (lengths.take 11) days
  ⟨year, month, day⟩

/-- The date of the day in a year. A fifth week that the month does not have is the fourth. The last
day of a leap year is 32 December in a common year. -/
def date (rule : YearlyDay) (year : Int) : Date :=
  match rule with
  | .inWeek month week weekday =>
    let firstOfMonth := Calendar.dayNumber ⟨year, month, 1⟩
    let untilWeekday := (weekday + 7 - Calendar.weekday firstOfMonth) % 7
    let offset := untilWeekday + 7 * (week - 1)
    let length := (Calendar.monthLengths year).getD (month - 1) 0
    ⟨year, month, (if offset < length then offset else offset - 7) + 1⟩
  -- the months have the lengths of those of 1970, a common year
  | .inCommonYear number => dateAfter year (Calendar.monthLengths 1970) (number - 1)
  | .inYear number => dateAfter year (Calendar.monthLengths year) number

end YearlyDay

namespace YearlyChange

/-- The month of the change in a year. -/
def month (change : YearlyChange) (year : Int) : Nat :=
  (change.rule.date year).month

/-- The day of the change in a year. -/
def day (change : YearlyChange) (year : Int) : Int :=
  Calendar.dayNumber (change.rule.date year)

/-- The time of the change in a year, in seconds on the clock that is changed. -/
def seconds (change : YearlyChange) (year : Int) : Int :=
  86400 * change.day year + change.timeOfDay

end YearlyChange

namespace Zone

/-! ### From instants to local times -/

/-- The year of a count of seconds. -/
def yearOf (seconds : Int) : Int :=
  Calendar.yearOfDay (seconds / 86400)

/-- Whether an instant lies between two changes of its year or of a neighbouring one. Local and
universal time may differ in the year, so a change at its very beginning or end may fall into
another year of universal time. -/
def isBetween (first last : Int → Int) (instant : Int) : Bool :=
  let year := yearOf instant
  [year - 1, year, year + 1].any fun near => first near ≤ instant && instant < last near

/-- The offset that is in force at an instant. Where summer time begins before it ends in the
year, it is in force between the two changes; where it ends first, standard time is. -/
def offsetAt (zone : Zone) (instant : Int) : Int :=
  match zone with
  | .fixed offset => offset
  | .daylight standard summer starts ends =>
    let start (year : Int) : Int := starts.seconds year - standard
    let stop (year : Int) : Int := ends.seconds year - summer
    if start (yearOf instant) ≤ stop (yearOf instant) then
      if isBetween start stop instant then summer else standard
    else
      if isBetween stop start instant then standard else summer

/-- What the clock on the wall shows at an instant. -/
def wallClockAt (zone : Zone) (instant : Int) : WallClock :=
  WallClock.ofSeconds (instant + zone.offsetAt instant)

/-! ### From local times to instants -/

/-- The offsets for a local time of a year in which the clocks are set forward, from the lower
offset to the higher one, before they are set back. The two changes are given by what the clock
shows that is changed. While the clocks are set back, the lower offset comes first. -/
def offsetsForwardFirst (lower higher forward back seconds : Int) : List Int :=
  let gain := higher - lower
  if seconds ≤ forward then [lower]
  else if seconds < forward + gain then []
  else if seconds < back - gain then [higher]
  else if seconds ≤ back then [lower, higher]
  else [lower]

/-- The same for a year in which the clocks are set back before they are set forward. -/
def offsetsBackFirst (lower higher forward back seconds : Int) : List Int :=
  let gain := higher - lower
  if seconds < back - gain then [higher]
  else if seconds ≤ back then [lower, higher]
  else if seconds < forward then [lower]
  else if seconds < forward + gain then []
  else [higher]

/-- The offsets with which a local time may be read. The order of the two changes is that of their
months: two changes of one month are taken for an end of summer time before its beginning. -/
def localOffsets (zone : Zone) (seconds : Int) : List Int :=
  match zone with
  | .fixed offset => [offset]
  | .daylight standard summer starts ends =>
    let year := yearOf seconds
    let start := starts.seconds year
    let stop := ends.seconds year
    if standard < summer then
      if starts.month year < ends.month year then
        offsetsForwardFirst standard summer start stop seconds
      else offsetsBackFirst standard summer start stop seconds
    else if summer < standard then
      -- the clocks are set back for summer time, and forward after it
      if starts.month year < ends.month year then
        offsetsBackFirst summer standard stop start seconds
      else offsetsForwardFirst summer standard stop start seconds
    else [standard]

/-- Whether an instant lies in a year that times may lie in, by universal time. -/
def isCoveredInstant (instant : Int) : Bool :=
  Calendar.isCovered (yearOf instant)

/-- The instants that a local time denotes. Times outside the covered years do not exist. -/
def instantsOf (zone : Zone) (seconds : Int) : LocalInstants :=
  match (zone.localOffsets seconds).map (seconds - ·) with
  | [instant] => if isCoveredInstant instant then .unique instant else .nonexistent
  | [first, second] =>
    if isCoveredInstant first && isCoveredInstant second then .ambiguous first second
    else .nonexistent
  | _ => .nonexistent

end Zone

end PacketFilter
