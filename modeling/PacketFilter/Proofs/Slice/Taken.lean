/-
This file compares what slices cover by their own account, which is known without the data, with
what they take from the data. A slice whose offsets both count from the same end of the data takes
exactly what it covers. One that begins at an offset from the front and ends at an offset from the
back, or conversely, takes as many bytes more or less as the data has: `1--1` takes three of four
bytes and covers minus one. So the total of a series is the number of bytes that it takes, as long
as no slice of it counts from both ends.
-/

import PacketFilter.Proofs.Slice.Concatenation
import PacketFilter.Proofs.Slice.Totals

namespace PacketFilter

/-! ### One slice -/

namespace Slice

/-- A slice that ends by an offset counts it from the end from which it counts its start. -/
def CountsFromOneEnd (slice : Slice) : Prop :=
  slice.ending = .offset → (slice.start < 0 ↔ slice.endOffset < 0)

instance : DecidablePred CountsFromOneEnd :=
  fun slice => inferInstanceAs (Decidable (slice.ending = .offset → _))

theorem isNegative_iff (offset : Int32) : offset < 0 ↔ offset.toInt < 0 := by
  rw [Int32.lt_iff_toInt_lt, Int32.toInt_zero]

theorem position_eq (size : Nat) (offset : Int32) :
    position size offset = if offset.toInt < 0 then size + offset.toInt else offset.toInt :=
  if_congr (isNegative_iff offset) rfl rfl

/-- A slice with a known count ends by its length or by an offset. -/
theorem covered?_eq_some {slice : Slice} {count : Int32} (covered : slice.covered? = some count) :
    (slice.ending = .length ∧ count = slice.length) ∨
      (slice.ending = .offset ∧
        count.toInt = capped (capped (slice.endOffset.toInt - slice.start.toInt) + 1)) := by
  unfold covered? span at covered
  cases ending : slice.ending with
  | unset => rw [ending] at covered; cases covered
  | toEnd => rw [ending] at covered; cases covered
  | length =>
    rw [ending] at covered
    exact .inl ⟨rfl, (Option.some.inj covered).symm⟩
  | offset =>
    rw [ending] at covered
    refine .inr ⟨rfl, ?_⟩
    rw [← Option.some.inj covered, toInt_ofIntClamp_eq_capped, toInt_ofIntClamp_eq_capped]

theorem stop?_length {slice : Slice} (ending : slice.ending = .length) {size : Nat}
    {start stop : Int} (found : slice.stop? size start = some stop) :
    stop = start + slice.length.toInt := by
  rw [stop?_of_length ending] at found
  split at found
  · cases found
  · exact (Option.some.inj found).symm

theorem stop?_offset {slice : Slice} (ending : slice.ending = .offset) {size : Nat}
    {start stop : Int} (found : slice.stop? size start = some stop) :
    stop = position size slice.endOffset + 1 := by
  rw [stop?_of_offset ending] at found
  exact (Option.some.inj found).symm

section

variable {slice : Slice} {size start stop : Nat} {count : Int32}

/-- A slice that counts from one end takes what it covers. -/
theorem toInt_covered_of_resolve (resolved : slice.resolve size = .ok (some (start, stop)))
    (covered : slice.covered? = some count) (oneEnd : slice.CountsFromOneEnd)
    (fits : ((stop - start : Nat) : Int) ≤ Int32.maxValue.toInt) :
    count.toInt = (stop - start : Nat) := by
  obtain ⟨first, behind, ordered, -⟩ := positions_of_resolve resolved
  rcases covered?_eq_some covered with ⟨ending, rfl⟩ | ⟨ending, count⟩
  · have last := stop?_length ending behind
    omega
  · have last := stop?_offset ending behind
    have sameSign := oneEnd ending
    rw [isNegative_iff, isNegative_iff] at sameSign
    rw [position_eq] at first last
    rw [count]
    simp only [capped, Int32.toInt_minValue, Int32.toInt_maxValue] at fits ⊢
    -- Where both offsets count from the back, the size of the data cancels out.
    split at first <;> split at last <;> omega

/-- On data that is not empty, a slice that counts from both ends does not take what it covers. The
greatest size is left out: there, a count that stays at the end of its range can be right. -/
theorem toInt_covered_eq_iff (resolved : slice.resolve size = .ok (some (start, stop)))
    (covered : slice.covered? = some count) (notEmpty : 0 < size)
    (fits : (size : Int) < Int32.maxValue.toInt) :
    count.toInt = (stop - start : Nat) ↔ slice.CountsFromOneEnd := by
  obtain ⟨first, behind, ordered, bounded⟩ := positions_of_resolve resolved
  refine ⟨fun same ending => ?_, fun oneEnd =>
    toInt_covered_of_resolve resolved covered oneEnd (by omega)⟩
  rcases covered?_eq_some covered with ⟨other, -⟩ | ⟨-, count⟩
  · cases ending.symm.trans other
  · have last := stop?_offset ending behind
    rw [count] at same
    rw [position_eq] at first last
    rw [isNegative_iff, isNegative_iff]
    simp only [capped, Int32.toInt_minValue, Int32.toInt_maxValue] at fits same
    split at first <;> split at last <;> omega

end

end Slice

/-! ### A series -/

namespace SliceSeries

open Insertion Slice

/-- Slices take from data what the first of them takes and what the others take. -/
theorem select_cons_eq_some {slice : Slice} {rest : List Slice} {data out : Bytes}
    (selected : select data (slice :: rest) = .ok (some out)) :
    ∃ start stop others, slice.resolve data.length = .ok (some (start, stop)) ∧
      select data rest = .ok (some others) ∧ out.length = stop - start + others.length := by
  obtain ⟨part, others, ⟨before, after, -, resolved⟩, selectedRest, rfl⟩ :=
    select_cons_eq_some_iff.mp selected
  refine ⟨before.length, before.length + part.length, others, resolved, selectedRest, ?_⟩
  rw [List.length_append, Nat.add_sub_cancel_left]

theorem length_of_select {slices : List Slice} {data out : Bytes}
    (selected : select data slices = .ok (some out))
    (known : ∀ slice ∈ slices, slice.ending ≠ .toEnd)
    (oneEnd : ∀ slice ∈ slices, slice.CountsFromOneEnd)
    (fits : (out.length : Int) ≤ Int32.maxValue.toInt) :
    (counts slices).sum = out.length ∧ ∀ count ∈ counts slices, 0 ≤ count := by
  induction slices generalizing out with
  | nil =>
    cases selected
    exact ⟨rfl, nofun⟩
  | cons slice rest inductionHypothesis =>
    obtain ⟨start, stop, others, resolved, selectedRest, length⟩ := select_cons_eq_some selected
    obtain ⟨knownFirst, knownRest⟩ := List.forall_mem_cons.mp known
    obtain ⟨oneEndFirst, oneEndRest⟩ := List.forall_mem_cons.mp oneEnd
    obtain ⟨sum, gains⟩ := inductionHypothesis selectedRest knownRest oneEndRest (by omega)
    obtain ⟨count, covered⟩ : ∃ count, slice.covered? = some count := by
      rw [← Option.isSome_iff_exists, covered?_isSome (set_of_resolve resolved)]
      exact decide_eq_true knownFirst
    have taken := toInt_covered_of_resolve resolved covered oneEndFirst (by omega)
    have split : counts (slice :: rest) = count.toInt :: counts rest :=
      List.filterMap_cons_some (congrArg _ covered)
    rw [split, List.sum_cons, sum, taken, length, Int.natCast_add]
    exact ⟨rfl, List.forall_mem_cons.mpr ⟨by omega, gains⟩⟩

/-- A series takes as many bytes as its total says, if it has one and no slice counts from both
ends of the data. -/
theorem total_eq_length_of_apply {insertions : List Insertion} {data out : Bytes}
    (hasTotal : (run insertions).hasTotal = true)
    (applied : (run insertions).apply data = .ok (some out))
    (fits : (out.length : Int) ≤ Int32.maxValue.toInt)
    (oneEnd : ∀ slice ∈ (run insertions).slices, slice.CountsFromOneEnd) :
    (run insertions).total.toInt = out.length := by
  have known := (hasTotal_run_iff insertions).mp hasTotal
  obtain ⟨sum, rising⟩ := length_of_select applied known oneEnd fits
  have same := counts_perm (perm_slices_run insertions)
  have orderFree : OrderFree (counts (added insertions)) :=
    OrderFree.perm same (.inr (.inl (losses_eq_zero rising)))
  have possible : IsCount out.length :=
    ⟨(by decide : Int32.minValue.toInt ≤ 0).trans (Int.natCast_nonneg _), fits⟩
  calc (run insertions).total.toInt
      = cappedSum (counts (added insertions)) := by
        rw [(tallies_run insertions).total, countsBeforeEnd_added hasTotal]
    _ = capped (counts (added insertions)).sum := cappedSum_of_orderFree orderFree
    _ = capped out.length := by rw [← same.sum_eq, sum]
    _ = out.length := capped_of_isCount possible

/-- Three bytes from the front, and in front of them the last two. -/
def bothTails : List Insertion :=
  [⟨.back, some (.withLength 0 3)⟩, ⟨.front, some (.withEndOffset (-2) (-1))⟩]

/-- The series `-2--1,0:3` takes five bytes from data of four. -/
theorem total_eq_length_of_apply_bothTails :
    (run bothTails).hasTotal = true ∧
      (run bothTails).apply [7, 8, 9, 10] = .ok (some [9, 10, 7, 8, 9]) ∧
      (∀ slice ∈ (run bothTails).slices, slice.CountsFromOneEnd) ∧
      (run bothTails).total.toInt = ([9, 10, 7, 8, 9] : Bytes).length := by
  have hasTotal : (run bothTails).hasTotal = true := by decide
  have applied : (run bothTails).apply [7, 8, 9, 10] = .ok (some [9, 10, 7, 8, 9]) := by decide
  have oneEnd : ∀ slice ∈ (run bothTails).slices, slice.CountsFromOneEnd := by decide
  exact ⟨hasTotal, applied, oneEnd, total_eq_length_of_apply hasTotal applied (by decide) oneEnd⟩

/-- The slice `1--1` begins at the second byte and ends with the last one. -/
def crossing : List Insertion :=
  [⟨.back, some (.withEndOffset 1 (-1))⟩]

/-- The slice `1--1` takes three of four bytes, but the total is minus one. -/
theorem total_ne_length_of_apply :
    ¬ ∀ (insertions : List Insertion) (data out : Bytes), (run insertions).hasTotal = true →
      (run insertions).apply data = .ok (some out) →
      (data.length : Int) ≤ Int32.maxValue.toInt → (out.length : Int) ≤ Int32.maxValue.toInt →
        (run insertions).total.toInt = out.length := by
  intro general
  have different : (run crossing).total.toInt ≠ ([1, 2, 3] : Bytes).length := by decide
  exact different (general crossing [0, 1, 2, 3] [1, 2, 3] (by decide) (by decide) (by decide)
    (by decide))

end SliceSeries

end PacketFilter
