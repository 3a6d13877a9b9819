/-
This file rounds a positive fraction to the nearest magnitude, half-way cases to the even
neighbour. The arithmetic is exact: the fraction is divided by the power of two that leaves a
quotient of 53 bits, or by the least power there is, and the quotient is rounded once.
-/

import PacketFilter.Binary64.Basic

namespace PacketFilter.Binary64

/-- The integer nearest to a fraction; of two equally near ones the even one. -/
def roundHalfEven (numerator denominator : Nat) : Nat :=
  let quotient := numerator / denominator
  let rest := numerator % denominator
  if 2 * rest < denominator then quotient
  else if denominator < 2 * rest then quotient + 1
  else quotient + quotient % 2

/-- A fraction divided by a power of two, as a fraction. -/
def scaleDown (numerator denominator : Nat) (power : Int) : Nat × Nat :=
  if 0 ≤ power then (numerator, denominator * Nat.pow 2 power.toNat)
  else (numerator * Nat.pow 2 (-power).toNat, denominator)

/-- The power of two that leaves a quotient of 53 bits. The lengths of numerator and denominator
give it up to one. -/
def quotientExponent (numerator denominator : Nat) : Int :=
  let estimate := (numerator.log2 : Int) - denominator.log2 - 53
  let (scaledNumerator, scaledDenominator) := scaleDown numerator denominator estimate
  if Nat.pow 2 53 ≤ scaledNumerator / scaledDenominator then estimate + 1 else estimate

/-- The magnitude nearest to a fraction. From half a step above the greatest finite number
on, that is infinity. -/
def nearestMagnitude (numerator denominator : Nat) : Nat :=
  if numerator = 0 then 0
  else
    let power := max (quotientExponent numerator denominator) (-1074)
    let (scaledNumerator, scaledDenominator) := scaleDown numerator denominator power
    let quotient := roundHalfEven scaledNumerator scaledDenominator
    min infinityMagnitude ((power + 1074).toNat * Nat.pow 2 52 + quotient)

/-- The magnitude nearest to a number times a power of ten. The two comparisons in front only
save the work of writing out powers of ten that decide by their size alone: at least `10^310` is
infinite, and less than `10^(-330)` is zero. -/
def decimalMagnitude (mantissa : Nat) (power : Int) : Nat :=
  if mantissa = 0 then 0
  else if 310 ≤ power then infinityMagnitude
  else if power + mantissa.log2 + 1 < -330 then 0
  else if 0 ≤ power then nearestMagnitude (mantissa * Nat.pow 10 power.toNat) 1
  else nearestMagnitude mantissa (Nat.pow 10 (-power).toNat)

end PacketFilter.Binary64
