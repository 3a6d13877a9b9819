/-
This file proves that the values of a kind are ordered by comparing them. Times are ordered by two
numbers one after the other, byte strings by their length and then byte by byte, and
floating-point numbers by their places among all numbers, where the two zeros share a place and
what is not a number has none.
-/

import PacketFilter.Value

namespace PacketFilter

/-! ### Times -/

instance : Std.TransCmp NanoTime.order :=
  inferInstanceAs <| Std.TransCmp <| compareLex
    (compareOn fun time : NanoTime => time.seconds.toInt)
    (compareOn fun time : NanoTime => time.nanoseconds.toInt)

theorem NanoTime.order_eq_iff {left right : NanoTime} : left.order right = .eq ↔ left = right := by
  unfold order
  rw [Ordering.then_eq_eq, Std.LawfulEqOrd.compare_eq_iff_eq, Std.LawfulEqOrd.compare_eq_iff_eq,
    Int64.toInt_inj, Int32.toInt_inj, NanoTime.mk.injEq]

theorem NanoTime.order_eq_lt_iff {left right : NanoTime} : left.order right = .lt ↔
    left.seconds.toInt < right.seconds.toInt ∨ left.seconds.toInt = right.seconds.toInt ∧
      left.nanoseconds.toInt < right.nanoseconds.toInt := by
  unfold order
  rw [Ordering.then_eq_lt, Int.compare_eq_lt, Int.compare_eq_lt, Std.LawfulEqOrd.compare_eq_iff_eq]

/-! ### Byte strings -/

namespace Bytes

instance : Std.TransCmp Bytes.order :=
  inferInstanceAs <| Std.TransCmp <| compareLex (compareOn List.length) (List.compareLex compare)

theorem order_eq_iff {left right : Bytes} : Bytes.order left right = .eq ↔ left = right := by
  unfold order
  rw [Ordering.then_eq_eq, Std.LawfulEqOrd.compare_eq_iff_eq, Std.LawfulEqCmp.compare_eq_iff_eq]
  constructor
  · rintro ⟨-, same⟩
    exact same
  · rintro rfl
    exact ⟨rfl, rfl⟩

/-- In the first byte in which two byte strings differ, the first one has the smaller one. -/
def DiffersBelow (left right : Bytes) : Prop :=
  ∃ (shared : Bytes) (small great : UInt8) (leftRest rightRest : Bytes),
    left = shared ++ small :: leftRest ∧ right = shared ++ great :: rightRest ∧ small < great

theorem differsBelow_cons_iff {first second : UInt8} {left right : Bytes} :
    DiffersBelow (first :: left) (second :: right) ↔
      first < second ∨ first = second ∧ DiffersBelow left right := by
  constructor
  · rintro ⟨shared, small, great, leftRest, rightRest, isLeft, isRight, less⟩
    cases shared with
    | nil =>
      cases isLeft
      cases isRight
      exact .inl less
    | cons byte shared =>
      cases isLeft
      cases isRight
      exact .inr ⟨rfl, shared, small, great, leftRest, rightRest, rfl, rfl, less⟩
  · rintro (less | ⟨rfl, shared, small, great, leftRest, rightRest, rfl, rfl, less⟩)
    · exact ⟨[], first, second, left, right, rfl, rfl, less⟩
    · exact ⟨first :: shared, small, great, leftRest, rightRest, rfl, rfl, less⟩

/-- Of two byte strings of one length the first byte in which they differ decides. -/
theorem compareLex_eq_lt_iff {left right : Bytes} (lengths : left.length = right.length) :
    List.compareLex compare left right = .lt ↔ DiffersBelow left right := by
  induction left generalizing right with
  | nil =>
    obtain rfl := List.eq_nil_of_length_eq_zero lengths.symm
    refine iff_of_false nofun ?_
    rintro ⟨shared, small, great, leftRest, rightRest, isLeft, -⟩
    cases shared <;> cases isLeft
  | cons first left inductionHypothesis =>
    cases right with
    | nil => cases lengths
    | cons second right =>
      rw [List.compareLex_cons_cons, Ordering.then_eq_lt, Std.LawfulEqOrd.compare_eq_iff_eq,
        inductionHypothesis (Nat.succ.inj lengths), differsBelow_cons_iff]
      exact or_congr_left compareOfLessAndEq_eq_lt

/-- A byte string comes before another one if it is shorter, or as long and smaller in the first
byte in which they differ. -/
theorem order_eq_lt_iff {left right : Bytes} :
    Bytes.order left right = .lt ↔
      left.length < right.length ∨ left.length = right.length ∧ DiffersBelow left right := by
  unfold order
  rw [Ordering.then_eq_lt, Nat.compare_eq_lt, Nat.compare_eq_eq]
  exact or_congr_right (and_congr_right compareLex_eq_lt_iff)

end Bytes

/-! ### Floating-point numbers -/

namespace Binary64

variable {left right : Binary64}

/-- A pattern consists of its sign and its magnitude. -/
theorem eq_iff : left = right ↔
    left.negative = right.negative ∧ left.magnitude = right.magnitude := by
  constructor
  · rintro rfl
    exact ⟨rfl, rfl⟩
  · rintro ⟨sign, size⟩
    have leftBound := left.bits.toNat_lt
    have rightBound := right.bits.toNat_lt
    unfold negative magnitude at *
    rw [Nat.pow_eq] at sign size
    rw [decide_eq_decide] at sign
    rw [Binary64.mk.injEq, ← UInt64.toNat_inj]
    omega

/-- Two numbers stand in one place if they are the same one or both zero. -/
theorem key_eq_iff :
    left.key = right.key ↔ left = right ∨ left.isZero = true ∧ right.isZero = true := by
  rw [eq_iff]
  unfold key isZero
  rw [decide_eq_true_eq, decide_eq_true_eq]
  cases left.negative <;> cases right.negative <;>
    simp only [Bool.false_eq_true, if_true, if_false, true_and, false_and, false_or,
      reduceCtorEq] <;> omega

end Binary64

end PacketFilter
