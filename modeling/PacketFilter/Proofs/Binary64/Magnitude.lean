/-
This file gives each magnitude the number that stands there. A magnitude is put together from a
power of two and a number of 53 bits by which it is multiplied, and one step further stands the
next multiple of the power, also where the bits run over. So the numbers ascend with the
magnitudes. Behind infinity the magnitudes are counted on as if there were greater powers.
-/

import Mathlib.Algebra.Order.Field.Power
import Mathlib.Algebra.Order.Ring.Rat
import Mathlib.Order.Monotone.Basic
import Mathlib.Tactic.Linarith
import Mathlib.Tactic.NormNum
import Mathlib.Tactic.Positivity
import Mathlib.Tactic.Ring
import PacketFilter.Binary64.Basic

namespace PacketFilter.Binary64

/-- The number that stands at a magnitude. -/
def magnitudeValue (magnitude : Nat) : ℚ :=
  significand magnitude * 2 ^ exponent magnitude

/-- A number with a minus sign or without one. -/
def signed (negative : Bool) (size : ℚ) : ℚ :=
  if negative then -size else size

/-- The number that a finite pattern denotes. -/
def toRat (value : Binary64) : ℚ :=
  signed value.negative (magnitudeValue value.magnitude)

theorem magnitudeValue_nonneg (magnitude : Nat) : 0 ≤ magnitudeValue magnitude := by
  unfold magnitudeValue
  positivity

theorem abs_signed (negative : Bool) {size : ℚ} (nonneg : 0 ≤ size) :
    |signed negative size| = size := by
  unfold signed
  split
  · rw [abs_neg, abs_of_nonneg nonneg]
  · exact abs_of_nonneg nonneg

theorem abs_toRat (value : Binary64) : |value.toRat| = magnitudeValue value.magnitude :=
  abs_signed value.negative (magnitudeValue_nonneg value.magnitude)

/-- A common sign does not change a distance. -/
theorem abs_signed_sub_signed (negative : Bool) (first second : ℚ) :
    |signed negative first - signed negative second| = |first - second| := by
  unfold signed
  split
  · rw [neg_sub_neg, abs_sub_comm]
  · rfl

/-! ### The parts of a magnitude -/

/-- How often the least power of two has to be doubled. -/
def scale (magnitude : Nat) : Nat :=
  max 1 (magnitude / Nat.pow 2 52) - 1

theorem exponent_eq_scale (magnitude : Nat) : exponent magnitude = scale magnitude - 1074 := by
  unfold exponent scale
  omega

/-- A magnitude counts the multiples of its power of two behind those of all the smaller powers. The
multiplier has 53 bits, unless the power is the least one. -/
theorem magnitude_eq (magnitude : Nat) :
    magnitude = scale magnitude * 2 ^ 52 + significand magnitude ∧
      significand magnitude < 2 ^ 53 ∧
      (2 ^ 52 ≤ significand magnitude ∨ scale magnitude = 0) := by
  have size : Nat.pow 2 52 = 2 ^ 52 := rfl
  unfold scale significand leastNormalMagnitude
  rw [size]
  split <;> omega

/-- The number at a magnitude that is put together from its parts. The multiplier may have run
over to the next power of two. -/
theorem magnitudeValue_scaled {times multiplier : Nat} (fits : multiplier ≤ 2 ^ 53)
    (full : 2 ^ 52 ≤ multiplier ∨ times = 0) :
    magnitudeValue (times * 2 ^ 52 + multiplier) =
      multiplier * 2 ^ ((times : ℤ) - 1074) := by
  have size : Nat.pow 2 52 = 2 ^ 52 := rfl
  rcases Nat.lt_or_eq_of_le fits with inPlace | runsOver
  · have isMultiplier :
        significand (times * 2 ^ 52 + multiplier) = multiplier := by
      unfold significand leastNormalMagnitude
      rw [size]
      split <;> omega
    have isExponent : exponent (times * 2 ^ 52 + multiplier) = times - 1074 := by
      unfold exponent
      rw [size]
      omega
    rw [magnitudeValue, isMultiplier, isExponent]
  · have isMultiplier :
        significand (times * 2 ^ 52 + multiplier) = 2 ^ 52 := by
      unfold significand leastNormalMagnitude
      rw [size]
      split <;> omega
    have isExponent : exponent (times * 2 ^ 52 + multiplier) = times - 1074 + 1 := by
      unfold exponent
      rw [size]
      omega
    rw [magnitudeValue, isMultiplier, isExponent, runsOver, zpow_add_one₀ two_ne_zero]
    push_cast
    ring

/-- The next magnitude lies one power of two further. -/
theorem magnitudeValue_succ (magnitude : Nat) :
    magnitudeValue (magnitude + 1) = magnitudeValue magnitude + 2 ^ exponent magnitude := by
  obtain ⟨parts, fits, full⟩ := magnitude_eq magnitude
  have next : magnitude + 1 = scale magnitude * 2 ^ 52 + (significand magnitude + 1) := by
    omega
  rw [next, magnitudeValue_scaled (by omega) (full.imp_left Nat.le_succ_of_le), magnitudeValue,
    exponent_eq_scale]
  push_cast
  ring

/-- The numbers ascend with the magnitudes. -/
theorem magnitudeValue_strictMono : StrictMono magnitudeValue := by
  refine strictMono_nat_of_lt_succ fun magnitude => ?_
  rw [magnitudeValue_succ]
  exact lt_add_of_pos_right _ (by positivity)

/-- At a magnitude with a greater power of two stands a multiple of the smaller power as well. -/
theorem magnitudeValue_eq_multiple {power : ℤ} {magnitude : Nat}
    (atLeast : power ≤ exponent magnitude) :
    ∃ multiple : Nat, magnitudeValue magnitude = multiple * 2 ^ power := by
  obtain ⟨doublings, isExponent⟩ := Int.le.dest atLeast
  refine ⟨significand magnitude * 2 ^ doublings, ?_⟩
  rw [magnitudeValue, ← isExponent, zpow_add₀ two_ne_zero, zpow_natCast]
  push_cast
  ring

/-- A magnitude with a smaller power of two lies below all full multiples of the greater power. -/
theorem magnitudeValue_lt_of_exponent_lt {power : ℤ} {magnitude : Nat}
    (below : exponent magnitude < power) :
    magnitudeValue magnitude < 2 ^ 52 * 2 ^ power := by
  obtain ⟨-, fits, -⟩ := magnitude_eq magnitude
  have multiplier : (significand magnitude : ℚ) < 2 ^ 53 := by exact_mod_cast fits
  have half : (2 : ℚ) ^ exponent magnitude ≤ 2 ^ (power - 1) :=
    zpow_le_zpow_right₀ one_le_two (Int.le_sub_one_of_lt below)
  calc magnitudeValue magnitude
    _ < 2 ^ 53 * 2 ^ exponent magnitude :=
      mul_lt_mul_of_pos_right multiplier (by positivity)
    _ ≤ 2 ^ 53 * 2 ^ (power - 1) := mul_le_mul_of_nonneg_left half (by norm_num)
    _ = 2 ^ 52 * 2 ^ power := by
      rw [zpow_sub_one₀ two_ne_zero]
      ring

end PacketFilter.Binary64
