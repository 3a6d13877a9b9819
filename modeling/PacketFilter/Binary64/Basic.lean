/-
This file holds floating-point numbers of 64 bits, as bit patterns. The bits after the sign,
read as one number, count the magnitudes in ascending order: zero is 0, infinity is
2047 · 2^52 and every larger one is not a number. So two numbers are compared by comparing
integers, and rounding to the nearest number is rounding to the nearest integer.
-/

namespace PacketFilter

/-- A floating-point number of 64 bits. -/
structure Binary64 where
  bits : UInt64
  deriving DecidableEq

namespace Binary64

/-! ### Sign and magnitude -/

/-- Whether the sign bit is set. It is set for negative zero as well. -/
def negative (value : Binary64) : Bool :=
  Nat.pow 2 63 ≤ value.bits.toNat

/-- The place of a number among the magnitudes. -/
def magnitude (value : Binary64) : Nat :=
  value.bits.toNat % Nat.pow 2 63

/-- The number with a given sign and magnitude. -/
def ofMagnitude (negative : Bool) (magnitude : Nat) : Binary64 :=
  ⟨UInt64.ofNat (if negative then Nat.pow 2 63 + magnitude else magnitude)⟩

theorem magnitude_ofMagnitude (negative : Bool) {magnitude : Nat}
    (small : magnitude < Nat.pow 2 63) :
    (ofMagnitude negative magnitude).magnitude = magnitude := by
  rw [Nat.pow_eq] at small
  cases negative <;> simp [ofMagnitude, Binary64.magnitude] <;> omega

theorem negative_ofMagnitude (negative : Bool) {magnitude : Nat}
    (small : magnitude < Nat.pow 2 63) :
    (ofMagnitude negative magnitude).negative = negative := by
  rw [Nat.pow_eq] at small
  cases negative <;> simp [ofMagnitude, Binary64.negative] <;> omega

/-- The magnitude of infinity. -/
def infinityMagnitude : Nat := 2047 * Nat.pow 2 52

/-- The least magnitude that is stored with full precision. -/
def leastNormalMagnitude : Nat := Nat.pow 2 52

/-- Zero, with the sign of positive numbers. -/
def zero : Binary64 := ofMagnitude false 0

/-- Infinity. -/
def infinity (negative : Bool) : Binary64 := ofMagnitude negative infinityMagnitude

/-- The pattern that stands for a result that is not a number. -/
def notANumber : Binary64 := ofMagnitude false (infinityMagnitude + Nat.pow 2 51)

/-! ### Classes of numbers -/

/-- Whether the pattern is not a number. -/
def isNaN (value : Binary64) : Bool :=
  infinityMagnitude < value.magnitude

/-- Whether the number is infinite. -/
def isInfinite (value : Binary64) : Bool :=
  value.magnitude = infinityMagnitude

/-- Whether the number is zero, of either sign. -/
def isZero (value : Binary64) : Bool :=
  value.magnitude = 0

/-- Whether the number is not zero but so small that it is stored with fewer bits. -/
def isSubnormal (value : Binary64) : Bool :=
  0 < value.magnitude && value.magnitude < leastNormalMagnitude

/-! ### The number that a finite pattern denotes -/

/-- The significand of a magnitude: its low 52 bits, and above them the bit that all but the
least magnitudes have. -/
def significand (magnitude : Nat) : Nat :=
  if magnitude < leastNormalMagnitude then magnitude
  else Nat.pow 2 52 + magnitude % Nat.pow 2 52

/-- The power of two by which the significand of a magnitude is multiplied. -/
def exponent (magnitude : Nat) : Int :=
  (max 1 (magnitude / Nat.pow 2 52) : Nat) - 1075

/-! ### Order -/

/-- An integer that stands where the number stands among the numbers; the two zeros share one. -/
def key (value : Binary64) : Int :=
  if value.negative then -(value.magnitude : Int) else value.magnitude

/-- The order of two numbers. What is not a number stands in no order, not even to itself. -/
def order (left right : Binary64) : Option Ordering :=
  if left.isNaN || right.isNaN then none else some (compare left.key right.key)

/-- Whether two numbers are equal: the zeros are, and what is not a number never is. -/
def equal (left right : Binary64) : Bool :=
  left.order right = some .eq

end Binary64

end PacketFilter
