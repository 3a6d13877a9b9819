/-
This file says what the six comparisons ask of two members of an order: each of them is decided by
which of the two comes first. A comparison with its sides exchanged is one of the six again.
-/

import Mathlib.Order.Compare
import Mathlib.Order.Lattice
import PacketFilter.Comparison

namespace PacketFilter.Comparison

/-- The comparison that says the same with its sides exchanged. -/
def mirror : Comparison → Comparison
  | .eq => .eq
  | .ne => .ne
  | .gt => .lt
  | .ge => .le
  | .lt => .gt
  | .le => .ge

/-- What a comparison says of two values that stand in a given order. -/
def Admits : Comparison → Ordering → Prop
  | .eq, order => order = .eq
  | .ne, order => order ≠ .eq
  | .gt, order => order = .gt
  | .ge, order => order ≠ .lt
  | .lt, order => order = .lt
  | .le, order => order ≠ .gt

/-- What a comparison says of two quantities. -/
def Relates {Quantity : Type} [LT Quantity] [LE Quantity] :
    Comparison → Quantity → Quantity → Prop
  | .eq, left, right => left = right
  | .ne, left, right => left ≠ right
  | .gt, left, right => right < left
  | .ge, left, right => right ≤ left
  | .lt, left, right => left < right
  | .le, left, right => left ≤ right

theorem holds_iff_admits (comparison : Comparison) (order : Ordering) :
    comparison.holds (some order) = true ↔ comparison.Admits order := by
  cases comparison <;> cases order <;> simp [holds, Admits]

/-- A comparison holds in the order of two quantities if it relates them. -/
theorem holds_iff_relates {Quantity : Type} [LinearOrder Quantity] {order : Ordering}
    {left right : Quantity} (compares : order.Compares left right) (comparison : Comparison) :
    comparison.holds (some order) = true ↔ comparison.Relates left right := by
  rw [holds_iff_admits]
  cases comparison with
  | eq => exact compares.eq_eq
  | ne => exact not_congr compares.eq_eq
  | gt => exact compares.eq_gt
  | ge => exact compares.ne_lt
  | lt => exact compares.eq_lt
  | le => exact compares.ne_gt

/-- Values without an order differ, and satisfy nothing else. -/
theorem holds_none (comparison : Comparison) :
    comparison.holds none = decide (comparison = .ne) := by
  cases comparison <;> rfl

/-- Exchanging the sides turns their order round. -/
theorem holds_mirror (comparison : Comparison) (order : Option Ordering) :
    comparison.mirror.holds (order.map .swap) = comparison.holds order := by
  match order with
  | none => cases comparison <;> rfl
  | some order => cases comparison <;> cases order <;> rfl

end PacketFilter.Comparison
