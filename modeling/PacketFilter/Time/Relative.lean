/-
This file reads and writes relative times: an optional minus sign, seconds, and an optional
point with up to nine digits of a fraction. The seconds may be missing if there is a point, and
the digits may be missing after it.
-/

import PacketFilter.Text.Split
import PacketFilter.Time.Basic
import PacketFilter.ValueError

namespace PacketFilter

open Text

namespace NanoTime

/-- The minus sign in front of a text, and the text after it. -/
def splitMinus : List Char → Bool × List Char
  | '-' :: rest => (true, rest)
  | letters => (false, letters)

/-- The whole seconds of a relative time. They may be left out where a point follows. -/
def readSeconds? (hasPoint : Bool) (digits : List Char) : Option Nat :=
  if digits.isEmpty then (if hasPoint then some 0 else none)
  else (natOfDigits? 10 digits).filter (· < Nat.pow 2 63)

/-- The nanoseconds of a relative time, zero if there are no digits for them. -/
def readOptionalFraction? : Option (List Char) → Option Nat
  | none => some 0
  | some [] => some 0
  | some digits => readFraction? digits

/-- The time of the given parts, with the sign on both. -/
def ofParts (negative : Bool) (seconds nanoseconds : Nat) : NanoTime :=
  if negative then ⟨-Int64.ofNat seconds, -Int32.ofNat nanoseconds⟩
  else ⟨Int64.ofNat seconds, Int32.ofNat nanoseconds⟩

/-- The time that a relative literal denotes, if it is one. -/
def ofRelativeText? (text : String) : Option NanoTime := do
  let (negative, body) := splitMinus text.toList
  let (whole, fraction) := splitFirst '.' body
  let seconds ← readSeconds? fraction.isSome whole
  let nanoseconds ← readOptionalFraction? fraction
  return ofParts negative seconds nanoseconds

/-- The value of a relative time literal. -/
def readRelative (text : String) : Except ValueError NanoTime :=
  match ofRelativeText? text with
  | some time => .ok time
  | none => .error (.invalidRelativeTime text)

/-- The text of a relative time: one sign for both parts, and nine digits or more after the
point. -/
def relativeText (time : NanoTime) : String :=
  (if time.isNegative then "-" else "") ++ natText time.seconds.toInt.natAbs ++ "."
    ++ paddedText 9 time.nanoseconds.toInt.natAbs

end NanoTime

end PacketFilter
