/-
This file holds the values that fields have and that literals denote: their equality and order
within a kind, their text, and the operations that replace the number in one.
-/

import PacketFilter.Binary64.Shortest
import PacketFilter.Bytes
import PacketFilter.Fault
import PacketFilter.Time.Absolute
import PacketFilter.Time.Relative

namespace PacketFilter

/-- A value of one of the six kinds that have values. -/
inductive Value where
  | integer (number : UInt32)
  | double (number : Binary64)
  | string (text : String)
  | bytes (content : Bytes)
  | absoluteTime (time : NanoTime)
  | relativeTime (time : NanoTime)
  deriving DecidableEq

namespace Value

/-! ### Kinds and parts -/

/-- The kind of a value. -/
def kind : Value → Kind
  | .integer _ => .integer
  | .double _ => .double
  | .string _ => .string
  | .bytes _ => .bytes
  | .absoluteTime _ => .absoluteTime
  | .relativeTime _ => .relativeTime

/-- The zero, empty or first value of a kind, if the kind has values. -/
def zero? : Kind → Option Value
  | .integer => some (.integer 0)
  | .double => some (.double .zero)
  | .string => some (.string "")
  | .bytes => some (.bytes [])
  | .absoluteTime => some (.absoluteTime .zero)
  | .relativeTime => some (.relativeTime .zero)
  | .pointer | .range | .test => none

theorem kind_zero? (kind : Kind) (value : Value) (found : zero? kind = some value) :
    value.kind = kind := by
  cases kind <;> simp [zero?] at found <;> subst found <;> rfl

/-- The number of an integer. -/
def integer? : Value → Option UInt32
  | .integer number => some number
  | _ => none

/-- The number of a floating-point value. -/
def double? : Value → Option Binary64
  | .double number => some number
  | _ => none

/-- The time of a value of either kind of time. -/
def time? : Value → Option NanoTime
  | .absoluteTime time | .relativeTime time => some time
  | _ => none

/-- The text of a string. -/
def string? : Value → Option String
  | .string text => some text
  | _ => none

/-- The bytes of a byte string. -/
def bytes? : Value → Option Bytes
  | .bytes content => some content
  | _ => none

/-! ### Replacing the number -/

/-- Replaces the number of an integer. -/
def setInteger (value : Value) (number : UInt32) : Except Fault Value :=
  match value with
  | .integer _ => .ok (.integer number)
  | other => .error (.setterMismatch .integer other.kind)

/-- Replaces the number of a floating-point value. -/
def setDouble (value : Value) (number : Binary64) : Except Fault Value :=
  match value with
  | .double _ => .ok (.double number)
  | other => .error (.setterMismatch .floating other.kind)

/-- Replaces the time of a value of either kind of time. -/
def setTime (value : Value) (time : NanoTime) : Except Fault Value :=
  match value with
  | .absoluteTime _ => .ok (.absoluteTime time)
  | .relativeTime _ => .ok (.relativeTime time)
  | other => .error (.setterMismatch .time other.kind)

/-! ### Order -/

/-- The order of two values of one kind. Strings are told apart but not ordered, and neither is
anything with a floating-point value that is not a number; values of two kinds are not ordered
either. -/
def order : Value → Value → Option Ordering
  | .integer left, .integer right => some (compare left.toNat right.toNat)
  | .double left, .double right => left.order right
  | .string left, .string right => if left = right then some .eq else none
  | .bytes left, .bytes right => some (Bytes.order left right)
  | .absoluteTime left, .absoluteTime right => some (left.order right)
  | .relativeTime left, .relativeTime right => some (left.order right)
  | _, _ => none

/-- Whether two values are equal. A floating-point value that is not a number differs from
itself. -/
def equal : Value → Value → Bool
  | .double left, .double right => left.equal right
  | left, right => left = right

/-! ### Text -/

/-- How the text of a floating-point value is laid out: without a power of ten, without a point
in whole numbers, and with the greater of two equally near decimals. -/
def doubleLayout : NumberLayout :=
  { halfway := .up, positional := fun _ => true, marksWhole := false }

/-- The text of a floating-point value. -/
def doubleText (number : Binary64) : String :=
  if number.isNaN then "NaN"
  else if number.isInfinite then (if number.negative then "-inf" else "inf")
  else Binary64.finiteText doubleLayout number

/-- The text of a value in a local zone. A string is its own text. -/
def text (zone : Zone) : Value → String
  | .integer number => Text.natText number.toNat
  | .double number => doubleText number
  | .string text => text
  | .bytes content => content.text
  | .absoluteTime time => time.absoluteText zone
  | .relativeTime time => time.relativeText

end Value

end PacketFilter
