/-
This file holds times with nanosecond resolution, as seconds and nanoseconds that carry the
same sign, and the digits after a decimal point that count nanoseconds.
-/

import PacketFilter.Text.Digits

namespace PacketFilter

open Text

/-- Seconds and nanoseconds. A negative time has the sign on both, so comparing the seconds first
and then the nanoseconds compares the times, across zero as well. -/
structure NanoTime where
  seconds : Int64
  nanoseconds : Int32
  deriving DecidableEq

namespace NanoTime

/-- The time that is zero. -/
def zero : NanoTime := ⟨0, 0⟩

/-- Whether the time lies before zero, by either of its parts. -/
def isNegative (time : NanoTime) : Bool :=
  time.seconds < 0 || time.nanoseconds < 0

/-- The order of two times: by the seconds, then by the nanoseconds. -/
def order (left right : NanoTime) : Ordering :=
  (compare left.seconds.toInt right.seconds.toInt).then
    (compare left.nanoseconds.toInt right.nanoseconds.toInt)

end NanoTime

/-- The nanoseconds that one to nine digits after a decimal point denote: the first digit counts
tenths of a second, whatever follows it. -/
def readFraction? (digits : List Char) : Option Nat :=
  if digits.length ≤ 9 then
    (natOfDigits? 10 digits).map (· * Nat.pow 10 (9 - digits.length))
  else none

end PacketFilter
