/-
This file reads and writes absolute times, as dates with a time of day in a local zone. A
literal may name a local time that occurred twice or never; which instant the former denotes is
a matter of policy, and the latter is refused.
-/

import PacketFilter.Settings
import PacketFilter.Text.Split
import PacketFilter.Time.Basic
import PacketFilter.Time.Zone
import PacketFilter.ValueError

namespace PacketFilter

open Text

/-- The instant that a policy takes among those that a local time denotes. The text is the
literal that is blamed if there is none. -/
def LocalTimePolicy.choose (policy : LocalTimePolicy) (text : String) :
    LocalInstants → Except ValueError Int
  | .unique instant => .ok instant
  | .ambiguous first second =>
    match policy with
    | .reject => .error (.ambiguousLocalTime text)
    | .earliest => .ok first
    | .latest => .ok second
  | .nonexistent => .error (.nonexistentLocalTime text)

namespace NanoTime

/-! ### Reading -/

/-- The date and time of day of an absolute time literal, and its nanoseconds. The first point
ends the date, and digits have to follow it. -/
def readAbsoluteParts? (text : String) : Option (WallClock × Nat) := do
  let (date, fraction) := splitFirst '.' text.toList
  let clock ← WallClock.read? date
  let nanoseconds ← match fraction with
    | none => some 0
    | some digits => readFraction? digits
  return (clock, nanoseconds)

/-- The value of an absolute time literal. Second 60 is the first of the next minute: the second
before it is looked up, and one is added. -/
def readAbsolute (zone : Zone) (policy : LocalTimePolicy) (text : String) :
    Except ValueError NanoTime :=
  match readAbsoluteParts? text with
  | none => .error (.invalidAbsoluteTime text)
  | some (clock, nanoseconds) =>
    let extra := clock.second / 60
    match policy.choose text (zone.instantsOf (clock.seconds - extra)) with
    | .error cause => .error cause
    | .ok instant => .ok ⟨Int64.ofInt (instant + extra), Int32.ofNat nanoseconds⟩

/-! ### Writing -/

/-- The date of a time, if it can be written as one. Up to a second more than a full second of
nanoseconds is allowed in the last second of a minute, and is written as second 60. -/
def dateText? (zone : Zone) (time : NanoTime) : Option String :=
  let seconds := time.seconds.toInt
  let nanoseconds := time.nanoseconds.toInt
  let clock := zone.wallClockAt seconds
  if !Zone.isCoveredInstant seconds || nanoseconds < 0 then none
  else if nanoseconds < 1000000000 then
    some (clock.text ++ "." ++ paddedText 9 nanoseconds.natAbs)
  else if nanoseconds < 2000000000 ∧ seconds % 60 = 59 then
    some ({ clock with second := clock.second + 1 }.text ++ "."
      ++ paddedText 9 (nanoseconds - 1000000000).natAbs)
  else none

/-- The text of an absolute time: its date, or else its two numbers. -/
def absoluteText (zone : Zone) (time : NanoTime) : String :=
  match dateText? zone time with
  | some text => text
  | none => intText time.seconds.toInt ++ "." ++ paddedIntText 9 time.nanoseconds.toInt

end NanoTime

end PacketFilter
