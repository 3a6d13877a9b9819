/-
This file proves that decimals are rounded to the nearest magnitude, of two equally near ones to
the even one. A fraction is divided by the power of two that leaves a quotient of 53 bits, so that
the magnitudes near it are the integers near the quotient; and the powers of ten that are not
written out lie so far out that they make no difference. Where the rounded magnitude changes is
then half-way between one magnitude and the next.
-/

import Mathlib.Tactic.FieldSimp
import PacketFilter.Binary64.Rounding
import PacketFilter.Proofs.Binary64.Magnitude

namespace PacketFilter.Binary64

/-! ### The nearest integer -/

/-- An integer that is nearest to a number, and even if another one is as near. -/
structure IsNearestInteger (number : ℚ) (integer : Nat) : Prop where
  closest : ∀ other : Nat, |(integer : ℚ) - number| ≤ |(other : ℚ) - number|
  even : ∀ other : Nat, |(other : ℚ) - number| = |(integer : ℚ) - number| →
    other = integer ∨ integer % 2 = 0

namespace IsNearestInteger

variable {number : ℚ} {integer : Nat} (nearest : IsNearestInteger number integer)

include nearest

/-- An integer that is not below a number is not below the nearest integer. -/
theorem le {bound : Nat} (above : number ≤ bound) : integer ≤ bound := by
  have closer := nearest.closest bound
  rw [abs_of_nonneg (sub_nonneg.mpr above)] at closer
  have ordered : (integer : ℚ) - number ≤ bound - number := (le_abs_self _).trans closer
  exact_mod_cast (sub_le_sub_iff_right number).mp ordered

/-- An integer that is not above a number is at least as far away as the nearest one, and not above
it. -/
theorem distance_le {bound : Nat} (below : (bound : ℚ) ≤ number) :
    |(integer : ℚ) - number| ≤ number - bound := by
  have closer := nearest.closest bound
  rwa [abs_sub_comm (bound : ℚ), abs_of_nonneg (sub_nonneg.mpr below)] at closer

theorem ge {bound : Nat} (below : (bound : ℚ) ≤ number) : bound ≤ integer := by
  have ordered : number - integer ≤ number - bound := by
    rw [← neg_sub]
    exact (neg_le_abs _).trans (nearest.distance_le below)
  exact_mod_cast (sub_le_sub_iff_left number).mp ordered

end IsNearestInteger

/-- Two integers lie one apart at least, and so do their distances from any number together. -/
theorem one_le_distances (number : ℚ) {integer other : Nat} (different : other ≠ integer) :
    1 ≤ |(other : ℚ) - number| + |(integer : ℚ) - number| := by
  have apart : (1 : ℚ) ≤ |(other : ℚ) - integer| := by
    exact_mod_cast Int.one_le_abs (show (other : ℤ) - integer ≠ 0 by omega)
  calc (1 : ℚ)
    _ ≤ |(other : ℚ) - integer| := apart
    _ ≤ |(other : ℚ) - number| + |number - integer| := abs_sub_le _ _ _
    _ = |(other : ℚ) - number| + |(integer : ℚ) - number| := by rw [abs_sub_comm number]

/-- An integer no further away than one half is a nearest one. -/
theorem isNearestInteger_of_le_half {number : ℚ} {integer : Nat}
    (near : |(integer : ℚ) - number| ≤ 1 / 2)
    (even : |(integer : ℚ) - number| = 1 / 2 → integer % 2 = 0) :
    IsNearestInteger number integer := by
  constructor
  · intro other
    by_cases same : other = integer
    · rw [same]
    · linarith [one_le_distances number same]
  · intro other equal
    by_cases same : other = integer
    · exact .inl same
    · have apart := one_le_distances number same
      exact .inr (even (le_antisymm near (by linarith)))

/-- A fraction is its quotient and what the rest adds to it. -/
theorem div_eq_quotient_add_rest (numerator : Nat) {denominator : Nat}
    (positive : 0 < denominator) :
    (numerator : ℚ) / denominator =
      (numerator / denominator : ℕ) + (numerator % denominator : ℕ) / (denominator : ℚ) := by
  have whole : (denominator : ℚ) * (numerator / denominator : ℕ) + (numerator % denominator : ℕ) =
      numerator := by exact_mod_cast Nat.div_add_mod numerator denominator
  rw [← whole]
  field_simp

/-- Division with rounding finds the nearest integer: the rest decides, and where it is half of the
denominator, the quotient and the next integer are equally near. -/
theorem isNearestInteger_roundHalfEven (numerator : Nat) {denominator : Nat}
    (positive : 0 < denominator) :
    IsNearestInteger (numerator / denominator) (roundHalfEven numerator denominator) := by
  have size : (0 : ℚ) < denominator := by exact_mod_cast positive
  have bounded := Nat.mod_lt numerator positive
  unfold roundHalfEven
  rw [div_eq_quotient_add_rest numerator positive]
  generalize numerator / denominator = quotient
  generalize numerator % denominator = rest at *
  have fraction : (0 : ℚ) ≤ rest / denominator := by positivity
  simp only
  split
  · rename_i less
    have below : (rest : ℚ) / denominator < 1 / 2 := by
      rw [div_lt_div_iff₀ size two_pos]
      exact_mod_cast (by omega : rest * 2 < 1 * denominator)
    have distance : |(quotient : ℚ) - (quotient + rest / denominator)| = rest / denominator := by
      rw [sub_add_cancel_left, abs_neg, abs_of_nonneg fraction]
    exact isNearestInteger_of_le_half (by linarith) fun half => by linarith
  · split
    · rename_i greater
      have above : 1 / 2 < (rest : ℚ) / denominator := by
        rw [div_lt_div_iff₀ two_pos size]
        exact_mod_cast (by omega : 1 * denominator < rest * 2)
      have proper : (rest : ℚ) / denominator < 1 := by
        rw [div_lt_one size]
        exact_mod_cast bounded
      have distance : |((quotient + 1 : ℕ) : ℚ) - (quotient + rest / denominator)| =
          1 - rest / denominator := by
        rw [← abs_of_pos (sub_pos.mpr proper)]
        push_cast
        ring_nf
      exact isNearestInteger_of_le_half (by linarith) fun half => by linarith
    · rename_i notLess notGreater
      have half : (rest : ℚ) / denominator = 1 / 2 := by
        rw [div_eq_div_iff size.ne' two_ne_zero]
        exact_mod_cast (by omega : rest * 2 = 1 * denominator)
      have distance : |((quotient + quotient % 2 : ℕ) : ℚ) - (quotient + 1 / 2)| = 1 / 2 := by
        push_cast
        rcases Nat.mod_two_eq_zero_or_one quotient with even | odd
        · rw [even]
          norm_num
        · rw [odd]
          norm_num
      rw [half]
      exact isNearestInteger_of_le_half distance.le fun _ => by omega

/-! ### The nearest magnitude -/

/-- A magnitude that is nearest to a number, and even if another one is as near. -/
structure IsNearest (number : ℚ) (magnitude : Nat) : Prop where
  closest : ∀ other, |magnitudeValue magnitude - number| ≤ |magnitudeValue other - number|
  even : ∀ other, |magnitudeValue other - number| = |magnitudeValue magnitude - number| →
    other = magnitude ∨ magnitude % 2 = 0

/-- Distances are those of the multiples of a power, times the power. -/
theorem abs_multiple_sub {power : ℤ} (multiple quotient : ℚ) :
    |multiple * 2 ^ power - quotient * 2 ^ power| = |multiple - quotient| * 2 ^ power := by
  have positive : (0 : ℚ) < 2 ^ power := by positivity
  rw [← sub_mul, abs_mul, abs_of_pos positive]

/-- Below a power of two there are only numbers that lie further away than the least full multiple
of it, and so than the nearest multiple of a number behind that one. -/
theorem distance_lt_of_exponent_lt {power : ℤ} {quotient : ℚ} {multiplier other : Nat}
    (nearest : IsNearestInteger quotient multiplier) (full : 2 ^ 52 ≤ quotient)
    (below : exponent other < power) :
    |(multiplier : ℚ) * 2 ^ power - quotient * 2 ^ power| <
      |magnitudeValue other - quotient * 2 ^ power| := by
  have positive : (0 : ℚ) < 2 ^ power := by positivity
  have least : |(multiplier : ℚ) - quotient| ≤ quotient - (2 ^ 52 : ℕ) :=
    nearest.distance_le (by exact_mod_cast full)
  calc |(multiplier : ℚ) * 2 ^ power - quotient * 2 ^ power|
    _ = |(multiplier : ℚ) - quotient| * 2 ^ power := abs_multiple_sub _ _
    _ ≤ (quotient - (2 ^ 52 : ℕ)) * 2 ^ power := mul_le_mul_of_nonneg_right least positive.le
    _ = quotient * 2 ^ power - 2 ^ 52 * 2 ^ power := by
      rw [sub_mul, Nat.cast_pow, Nat.cast_ofNat]
    _ < quotient * 2 ^ power - magnitudeValue other :=
      sub_lt_sub_left (magnitudeValue_lt_of_exponent_lt below) _
    _ ≤ |magnitudeValue other - quotient * 2 ^ power| := by
      rw [abs_sub_comm]
      exact le_abs_self _

/-- The magnitudes near a number are the integers near its quotient by a power of two, if the
quotient has 53 bits or the power is the least one. -/
theorem isNearest_of_isNearestInteger {times multiplier : Nat} {quotient : ℚ}
    (nearest : IsNearestInteger quotient multiplier) (fits : quotient < 2 ^ 53)
    (full : 2 ^ 52 ≤ quotient ∨ times = 0) :
    IsNearest (quotient * 2 ^ ((times : ℤ) - 1074)) (times * 2 ^ 52 + multiplier) := by
  have atMost : multiplier ≤ 2 ^ 53 := nearest.le (by exact_mod_cast fits.le)
  have atLeast : 2 ^ 52 ≤ multiplier ∨ times = 0 :=
    full.imp_left fun whole => nearest.ge (by exact_mod_cast whole)
  have value := magnitudeValue_scaled atMost atLeast
  have further (other : Nat) (below : exponent other < (times : ℤ) - 1074) :
      |magnitudeValue (times * 2 ^ 52 + multiplier) - quotient * 2 ^ ((times : ℤ) - 1074)| <
        |magnitudeValue other - quotient * 2 ^ ((times : ℤ) - 1074)| := by
    have whole : 2 ^ 52 ≤ quotient := by
      refine full.resolve_right fun zero => ?_
      rw [exponent_eq_scale, zero] at below
      omega
    rw [value]
    exact distance_lt_of_exponent_lt nearest whole below
  constructor
  · intro other
    rcases lt_or_ge (exponent other) ((times : ℤ) - 1074) with below | notBelow
    · exact (further other below).le
    · obtain ⟨multiple, isMultiple⟩ := magnitudeValue_eq_multiple notBelow
      rw [value, isMultiple, abs_multiple_sub, abs_multiple_sub]
      exact mul_le_mul_of_nonneg_right (nearest.closest multiple) (by positivity)
  · intro other equal
    rcases lt_or_ge (exponent other) ((times : ℤ) - 1074) with below | notBelow
    · exact absurd equal (further other below).ne'
    · obtain ⟨multiple, isMultiple⟩ := magnitudeValue_eq_multiple notBelow
      rw [value, isMultiple, abs_multiple_sub, abs_multiple_sub] at equal
      rcases nearest.even multiple (mul_right_cancel₀ (by positivity) equal) with same | even
      · rw [same, ← value] at isMultiple
        exact .inl (magnitudeValue_strictMono.injective isMultiple)
      · exact .inr (by omega)

/-! ### The quotient -/

/-- Dividing by a power of two is exact. -/
theorem scaleDown_div (numerator : Nat) {denominator : Nat} (positive : 0 < denominator)
    (power : Int) :
    0 < (scaleDown numerator denominator power).2 ∧
      ((scaleDown numerator denominator power).1 : ℚ) / (scaleDown numerator denominator power).2 =
        numerator / denominator / 2 ^ power := by
  unfold scaleDown
  split
  · rename_i notNegative
    lift power to ℕ using notNegative
    refine ⟨Nat.mul_pos positive (Nat.pow_pos two_pos), ?_⟩
    rw [Int.toNat_natCast, Nat.pow_eq, zpow_natCast]
    push_cast
    rw [div_div]
  · rename_i negative
    obtain ⟨opposite, isOpposite⟩ := Int.eq_ofNat_of_zero_le (by omega : 0 ≤ -power)
    obtain rfl : power = -(opposite : ℤ) := by omega
    refine ⟨positive, ?_⟩
    rw [neg_neg, Int.toNat_natCast, Nat.pow_eq, zpow_neg, zpow_natCast, div_inv_eq_mul]
    push_cast
    ring

/-- The lengths of numerator and denominator give the length of the quotient up to one. -/
theorem quotient_of_lengths {numerator denominator : Nat} (nonzero : 0 < numerator)
    (positive : 0 < denominator) :
    (2 : ℚ) ^ 52 ≤ numerator / denominator /
        2 ^ ((numerator.log2 : ℤ) - denominator.log2 - 53) ∧
      (numerator : ℚ) / denominator / 2 ^ ((numerator.log2 : ℤ) - denominator.log2 - 53) <
        2 ^ 54 := by
  have size : (0 : ℚ) < denominator := by exact_mod_cast positive
  have above : ((2 : ℚ) ^ (numerator.log2 : ℤ)) ≤ numerator := by
    exact_mod_cast Nat.log2_self_le nonzero.ne'
  have below : (numerator : ℚ) < 2 ^ ((numerator.log2 : ℤ) + 1) := by
    exact_mod_cast Nat.lt_log2_self
  have denominatorAbove : ((2 : ℚ) ^ (denominator.log2 : ℤ)) ≤ denominator := by
    exact_mod_cast Nat.log2_self_le positive.ne'
  have denominatorBelow : (denominator : ℚ) < 2 ^ ((denominator.log2 : ℤ) + 1) := by
    exact_mod_cast Nat.lt_log2_self
  generalize (numerator.log2 : ℤ) = length at *
  generalize (denominator.log2 : ℤ) = denominatorLength at *
  have power : (0 : ℚ) < 2 ^ (length - denominatorLength - 53) := by positivity
  rw [div_div, le_div_iff₀ (by positivity), div_lt_iff₀ (by positivity)]
  constructor
  · calc (2 : ℚ) ^ 52 * (denominator * 2 ^ (length - denominatorLength - 53))
      _ ≤ 2 ^ 52 * (2 ^ (denominatorLength + 1) * 2 ^ (length - denominatorLength - 53)) := by
        gcongr
      _ = 2 ^ length := by
        rw [← zpow_natCast, ← zpow_add₀ two_ne_zero, ← zpow_add₀ two_ne_zero]
        congr 1
        push_cast
        ring
      _ ≤ numerator := above
  · calc (numerator : ℚ)
      _ < 2 ^ (length + 1) := below
      _ = 2 ^ 54 * (2 ^ denominatorLength * 2 ^ (length - denominatorLength - 53)) := by
        rw [← zpow_natCast, ← zpow_add₀ two_ne_zero, ← zpow_add₀ two_ne_zero]
        congr 1
        push_cast
        ring
      _ ≤ 2 ^ 54 * (denominator * 2 ^ (length - denominatorLength - 53)) := by gcongr

/-- The quotient by the power that is found has 53 bits in front of the point. -/
theorem quotient_quotientExponent {numerator denominator : Nat} (nonzero : 0 < numerator)
    (positive : 0 < denominator) :
    (2 : ℚ) ^ 52 ≤ numerator / denominator / 2 ^ quotientExponent numerator denominator ∧
      (numerator : ℚ) / denominator / 2 ^ quotientExponent numerator denominator < 2 ^ 53 := by
  obtain ⟨above, below⟩ := quotient_of_lengths nonzero positive
  have size : Nat.pow 2 53 = 2 ^ 53 := rfl
  unfold quotientExponent
  generalize (numerator.log2 : ℤ) - denominator.log2 - 53 = estimate at *
  obtain ⟨scaledPositive, scaled⟩ := scaleDown_div numerator positive estimate
  have scaledSize : (0 : ℚ) < (scaleDown numerator denominator estimate).2 := by
    exact_mod_cast scaledPositive
  simp only [size, Nat.le_div_iff_mul_le scaledPositive]
  rw [← scaled] at above below
  split
  · rename_i long
    have atLeast : (2 : ℚ) ^ 53 ≤ (scaleDown numerator denominator estimate).1 /
        (scaleDown numerator denominator estimate).2 := by
      rw [le_div_iff₀ scaledSize]
      exact_mod_cast long
    rw [zpow_add_one₀ two_ne_zero, ← div_div, ← scaled]
    constructor <;> linarith
  · rename_i short
    have lessThan : ((scaleDown numerator denominator estimate).1 : ℚ) /
        (scaleDown numerator denominator estimate).2 < 2 ^ 53 := by
      rw [div_lt_iff₀ scaledSize]
      exact_mod_cast not_le.mp short
    rw [← scaled]
    exact ⟨above, lessThan⟩

/-- If the power is not the least one, the quotient by it has 53 bits; by the least power it has no
more. -/
theorem quotient_max {numerator denominator : Nat} (nonzero : 0 < numerator)
    (positive : 0 < denominator) :
    (numerator : ℚ) / denominator / 2 ^ max (quotientExponent numerator denominator) (-1074) <
        2 ^ 53 ∧
      ((2 : ℚ) ^ 52 ≤
          numerator / denominator / 2 ^ max (quotientExponent numerator denominator) (-1074) ∨
        max (quotientExponent numerator denominator) (-1074) = -1074) := by
  obtain ⟨full, fits⟩ := quotient_quotientExponent nonzero positive
  constructor
  · refine lt_of_le_of_lt (div_le_div_of_nonneg_left ?_ ?_ ?_) fits
    · positivity
    · positivity
    · exact zpow_le_zpow_right₀ one_le_two (le_max_left _ _)
  · rcases max_choice (quotientExponent numerator denominator) (-1074) with own | least
    · exact .inl (by rwa [own])
    · exact .inr least

/-! ### Rounding a fraction -/

theorem isNearest_zero : IsNearest 0 0 := by
  have zero : magnitudeValue 0 = 0 := by
    rw [magnitudeValue, significand, if_pos (by decide), Nat.cast_zero, zero_mul]
  constructor
  · intro other
    rw [zero, sub_self, abs_zero]
    exact abs_nonneg _
  · exact fun _ _ => .inr rfl

/-- A fraction is rounded to a nearest magnitude, or to infinity if that lies before it. -/
theorem exists_isNearest (numerator : Nat) {denominator : Nat} (positive : 0 < denominator) :
    ∃ nearest, IsNearest (numerator / denominator) nearest ∧
      nearestMagnitude numerator denominator = min infinityMagnitude nearest := by
  unfold nearestMagnitude
  rcases Nat.eq_zero_or_pos numerator with rfl | nonzero
  · refine ⟨0, ?_, by rw [if_pos rfl, Nat.min_zero]⟩
    rw [Nat.cast_zero, zero_div]
    exact isNearest_zero
  · rw [if_neg nonzero.ne']
    obtain ⟨fits, fullOrLeast⟩ := quotient_max nonzero positive
    have atLeast : -1074 ≤ max (quotientExponent numerator denominator) (-1074) := le_max_right _ _
    generalize max (quotientExponent numerator denominator) (-1074) = power at *
    obtain ⟨scaledPositive, scaled⟩ := scaleDown_div numerator positive power
    obtain ⟨times, isTimes⟩ := Int.eq_ofNat_of_zero_le (by omega : 0 ≤ power + 1074)
    obtain rfl : power = times - 1074 := by omega
    refine ⟨times * 2 ^ 52 + roundHalfEven (scaleDown numerator denominator (times - 1074)).1
      (scaleDown numerator denominator (times - 1074)).2, ?_, ?_⟩
    · have nearest := isNearestInteger_roundHalfEven
        (scaleDown numerator denominator (times - 1074)).1 scaledPositive
      rw [scaled] at nearest
      have leastTimes : (2 : ℚ) ^ 52 ≤ numerator / denominator / 2 ^ ((times : ℤ) - 1074) ∨
          times = 0 := fullOrLeast.imp_right (by omega)
      have isNearest := isNearest_of_isNearestInteger nearest fits leastTimes
      rwa [div_mul_cancel₀ _ (by positivity)] at isNearest
    · simp only [Int.sub_add_cancel, Int.toNat_natCast]
      rfl

end PacketFilter.Binary64
