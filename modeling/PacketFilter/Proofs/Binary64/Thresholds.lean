/-
This file says where rounding ends at zero, where with fewer bits than a number has, and where at
infinity: half-way between two neighbouring magnitudes, which the even one of them includes.
Decimals whose power of ten is far out lie beyond these bounds, so it is not needed to write the
power out.
-/

import PacketFilter.Proofs.Binary64.Rounding

namespace PacketFilter.Binary64

/-! ### Half-way between two magnitudes -/

section

variable {low high number : ℚ} (ordered : low < high)

include ordered

/-- A number is nearer to the lower one of two others up to the middle between them. -/
theorem abs_low_le_iff : |low - number| ≤ |high - number| ↔ number ≤ (low + high) / 2 := by
  rw [← sq_le_sq]
  constructor <;> intro bound <;> nlinarith

theorem abs_high_le_iff : |high - number| ≤ |low - number| ↔ (low + high) / 2 ≤ number := by
  rw [← sq_le_sq]
  constructor <;> intro bound <;> nlinarith

end

/-- The number half-way between a magnitude and the next one. -/
def midpoint (magnitude : Nat) : ℚ :=
  (magnitudeValue magnitude + magnitudeValue (magnitude + 1)) / 2

theorem midpoint_scaled {times multiplier : Nat} (fits : multiplier < 2 ^ 53)
    (full : 2 ^ 52 ≤ multiplier ∨ times = 0) :
    midpoint (times * 2 ^ 52 + multiplier) = (2 * multiplier + 1) * 2 ^ ((times : ℤ) - 1075) := by
  have half : ((times : ℤ) - 1074) = times - 1075 + 1 := by ring
  rw [midpoint, Nat.add_assoc, magnitudeValue_scaled fits.le full,
    magnitudeValue_scaled (Nat.succ_le_of_lt fits) (full.imp_left Nat.le_succ_of_le), half,
    zpow_add_one₀ two_ne_zero]
  push_cast
  ring

namespace IsNearest

variable {number : ℚ} {nearest : Nat} (isNearest : IsNearest number nearest)

include isNearest

/-- A number is rounded to something beyond a magnitude if it lies beyond the middle between that
magnitude and the next one, or if it is the middle and the magnitude is odd. -/
theorem lt_iff (magnitude : Nat) :
    magnitude < nearest ↔
      midpoint magnitude < number ∨ midpoint magnitude = number ∧ magnitude % 2 = 1 := by
  have next := magnitudeValue_strictMono (Nat.lt_succ_self magnitude)
  unfold midpoint
  constructor
  · intro beyond
    have atLeast := magnitudeValue_strictMono.monotone (Nat.succ_le_of_lt beyond)
    have middle := (abs_high_le_iff (magnitudeValue_strictMono beyond)).mp
      (isNearest.closest magnitude)
    rcases lt_or_ge ((magnitudeValue magnitude + magnitudeValue (magnitude + 1)) / 2) number
      with less | notLess
    · exact .inl less
    · -- in the middle both magnitudes are as near, and the nearest one is the next one
      have isMiddle : (magnitudeValue magnitude + magnitudeValue (magnitude + 1)) / 2 = number := by
        linarith
      have same : nearest = magnitude + 1 :=
        magnitudeValue_strictMono.injective (by linarith)
      subst same
      have equal := le_antisymm ((abs_low_le_iff next).mpr isMiddle.ge)
        (isNearest.closest magnitude)
      refine .inr ⟨isMiddle, ?_⟩
      rcases isNearest.even magnitude equal with impossible | even
      · omega
      · omega
  · intro above
    by_contra notBeyond
    have atMost := magnitudeValue_strictMono.monotone (not_lt.mp notBeyond)
    have middle := (abs_low_le_iff (lt_of_le_of_lt atMost next)).mp
      (isNearest.closest (magnitude + 1))
    rcases above with less | ⟨isMiddle, odd⟩
    · linarith
    · have same : nearest = magnitude := magnitudeValue_strictMono.injective (by linarith)
      subst same
      have equal := le_antisymm ((abs_high_le_iff next).mpr isMiddle.le)
        (isNearest.closest (nearest + 1))
      rcases isNearest.even (nearest + 1) equal with impossible | even
      · omega
      · omega

/-! ### The three bounds -/

/-- Rounding ends at zero up to half of the least number. -/
theorem eq_zero_iff : nearest = 0 ↔ number ≤ 2 ^ (-1075 : ℤ) := by
  have least : midpoint 0 = 2 ^ (-1075 : ℤ) := by
    have scaled : midpoint (0 * 2 ^ 52 + 0) = _ := midpoint_scaled (by decide) (.inr rfl)
    simpa using scaled
  have beyond := isNearest.lt_iff 0
  rw [least] at beyond
  constructor
  · intro zero
    by_contra above
    have := beyond.mpr (.inl (not_le.mp above))
    omega
  · intro below
    by_contra nonzero
    rcases beyond.mp (Nat.pos_of_ne_zero nonzero) with above | ⟨-, odd⟩
    · exact absurd above (not_lt.mpr below)
    · cases odd

/-- Behind an odd magnitude, rounding goes on from the middle. -/
theorem succ_le_iff_of_odd {magnitude : Nat} (odd : magnitude % 2 = 1) :
    magnitude + 1 ≤ nearest ↔ midpoint magnitude ≤ number := by
  rw [Nat.succ_le_iff, isNearest.lt_iff, le_iff_lt_or_eq]
  simp only [odd, and_true]

/-- A number has all its bits from half a step below the least power of two that has them. -/
theorem normal_iff :
    leastNormalMagnitude ≤ nearest ↔ 2 ^ (-1022 : ℤ) - 2 ^ (-1075 : ℤ) ≤ number := by
  have least : midpoint (2 ^ 52 - 1) = 2 ^ (-1022 : ℤ) - 2 ^ (-1075 : ℤ) := by
    have scaled : midpoint (0 * 2 ^ 52 + (2 ^ 52 - 1)) =
        (2 * (2 ^ 52 - 1 : ℕ) + 1) * 2 ^ (-1075 : ℤ) :=
      midpoint_scaled (by decide) (.inr rfl)
    have power : (2 : ℚ) ^ (-1022 : ℤ) = 2 ^ 53 * 2 ^ (-1075 : ℤ) := by
      rw [show (-1022 : ℤ) = 53 + -1075 from rfl, zpow_add₀ two_ne_zero, zpow_ofNat]
    rw [Nat.zero_mul, Nat.zero_add] at scaled
    rw [scaled, power, Nat.cast_sub (by decide)]
    generalize (2 : ℚ) ^ (-1075 : ℤ) = half
    push_cast
    ring
  rw [← least]
  exact isNearest.succ_le_iff_of_odd (by decide)

/-- Rounding ends at infinity from half a step below the power of two behind the greatest number. -/
theorem infinite_iff :
    infinityMagnitude ≤ nearest ↔ 2 ^ (1024 : ℤ) - 2 ^ (970 : ℤ) ≤ number := by
  have greatest : midpoint (2045 * 2 ^ 52 + (2 ^ 53 - 1)) = 2 ^ (1024 : ℤ) - 2 ^ (970 : ℤ) := by
    have scaled : midpoint (2045 * 2 ^ 52 + (2 ^ 53 - 1)) =
        (2 * (2 ^ 53 - 1 : ℕ) + 1) * 2 ^ (970 : ℤ) :=
      midpoint_scaled (by decide) (.inl (by decide))
    have power : (2 : ℚ) ^ (1024 : ℤ) = 2 ^ 54 * 2 ^ (970 : ℤ) := by
      rw [show (1024 : ℤ) = 54 + 970 from rfl, zpow_add₀ two_ne_zero, zpow_ofNat]
    rw [scaled, power, Nat.cast_sub (by decide)]
    generalize (2 : ℚ) ^ (970 : ℤ) = half
    push_cast
    ring
  rw [← greatest]
  exact isNearest.succ_le_iff_of_odd (by decide)

end IsNearest

/-! ### Powers of ten that are far out -/

theorem infinite_le_of_power {power : ℤ} (great : 310 ≤ power) {mantissa : Nat}
    (nonzero : 0 < mantissa) :
    2 ^ (1024 : ℤ) - 2 ^ (970 : ℤ) ≤ (mantissa : ℚ) * 10 ^ power := by
  have one : (1 : ℚ) ≤ mantissa := by exact_mod_cast nonzero
  calc (2 : ℚ) ^ (1024 : ℤ) - 2 ^ (970 : ℤ)
    _ ≤ 2 ^ (1024 : ℤ) := sub_le_self _ (by positivity)
    _ ≤ 2 ^ (1025 : ℤ) := zpow_le_zpow_right₀ one_le_two (by decide)
    _ = ((2 : ℚ) ^ (205 : ℤ)) ^ (5 : ℤ) := by rw [← zpow_mul]; rfl
    _ ≤ ((10 : ℚ) ^ (62 : ℤ)) ^ (5 : ℤ) := by
      refine zpow_le_zpow_left₀ (by decide) (by positivity) ?_
      norm_num
    _ = 10 ^ (310 : ℤ) := by rw [← zpow_mul]; rfl
    _ ≤ 10 ^ power := zpow_le_zpow_right₀ (by norm_num) great
    _ ≤ mantissa * 10 ^ power := le_mul_of_one_le_left (by positivity) one

theorem le_zero_of_power {power : ℤ} {mantissa : Nat}
    (small : power + mantissa.log2 + 1 < -330) :
    (mantissa : ℚ) * 10 ^ power ≤ 2 ^ (-1075 : ℤ) := by
  have digits : (mantissa : ℚ) ≤ 10 ^ ((mantissa.log2 : ℤ) + 1) := by
    calc (mantissa : ℚ)
      _ ≤ 2 ^ (mantissa.log2 + 1) := by exact_mod_cast Nat.lt_log2_self.le
      _ ≤ 10 ^ (mantissa.log2 + 1) := pow_le_pow_left₀ (by norm_num) (by norm_num) _
      _ = 10 ^ ((mantissa.log2 : ℤ) + 1) := (zpow_natCast _ _).symm
  calc (mantissa : ℚ) * 10 ^ power
    _ ≤ 10 ^ ((mantissa.log2 : ℤ) + 1) * 10 ^ power := by gcongr
    _ = 10 ^ (power + mantissa.log2 + 1) := by
      rw [← zpow_add₀ (by norm_num)]
      congr 1
      ring
    _ ≤ 10 ^ (-330 : ℤ) := zpow_le_zpow_right₀ (by norm_num) small.le
    _ = ((10 : ℚ) ^ (-10 : ℤ)) ^ (33 : ℤ) := by rw [← zpow_mul]; rfl
    _ ≤ ((2 : ℚ) ^ (-33 : ℤ)) ^ (33 : ℤ) := by
      refine zpow_le_zpow_left₀ (by decide) (by positivity) ?_
      norm_num
    _ = 2 ^ (-1089 : ℤ) := by rw [← zpow_mul]; rfl
    _ ≤ 2 ^ (-1075 : ℤ) := zpow_le_zpow_right₀ one_le_two (by decide)

/-- A decimal is rounded to a nearest magnitude, or to infinity if that lies before it. -/
theorem exists_isNearest_decimal (mantissa : Nat) (power : ℤ) :
    ∃ nearest, IsNearest (mantissa * 10 ^ power) nearest ∧
      decimalMagnitude mantissa power = min infinityMagnitude nearest := by
  have written : ∃ nearest, IsNearest (mantissa * 10 ^ power) nearest ∧
      (if 0 ≤ power then nearestMagnitude (mantissa * Nat.pow 10 power.toNat) 1
        else nearestMagnitude mantissa (Nat.pow 10 (-power).toNat)) =
          min infinityMagnitude nearest := by
    split
    · rename_i notNegative
      lift power to ℕ using notNegative
      obtain ⟨nearest, isNearest, rounded⟩ :=
        exists_isNearest (mantissa * Nat.pow 10 power) Nat.one_pos
      refine ⟨nearest, ?_, rounded⟩
      rw [Nat.pow_eq] at isNearest
      push_cast at isNearest
      rwa [div_one] at isNearest
    · rename_i negative
      obtain ⟨opposite, isOpposite⟩ := Int.eq_ofNat_of_zero_le (by omega : 0 ≤ -power)
      obtain rfl : power = -(opposite : ℤ) := by omega
      rw [neg_neg, Int.toNat_natCast]
      obtain ⟨nearest, isNearest, rounded⟩ :=
        exists_isNearest mantissa (Nat.pow_pos (by decide : 0 < 10))
      refine ⟨nearest, ?_, rounded⟩
      push_cast at isNearest
      rwa [zpow_neg, zpow_natCast, ← div_eq_mul_inv]
  obtain ⟨nearest, isNearest, rounded⟩ := written
  refine ⟨nearest, isNearest, ?_⟩
  unfold decimalMagnitude
  split
  · rename_i zero
    have small : (mantissa : ℚ) * 10 ^ power ≤ 2 ^ (-1075 : ℤ) := by
      rw [zero, Nat.cast_zero, zero_mul]
      positivity
    rw [isNearest.eq_zero_iff.mpr small, Nat.min_zero]
  · rename_i nonzero
    split
    · rename_i great
      have atLeast := isNearest.infinite_iff.mpr
        (infinite_le_of_power great (Nat.pos_of_ne_zero nonzero))
      rw [Nat.min_eq_left atLeast]
    · split
      · rename_i small
        rw [isNearest.eq_zero_iff.mpr (le_zero_of_power small), Nat.min_zero]
      · exact rounded

end PacketFilter.Binary64
