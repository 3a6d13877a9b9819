/-
This file says which positions a slice finds in data of a given size, and which slices find the
same ones. A row of bytes can be named by its length, by the offset of its last byte or by running
to the end, and its first byte by counting from the front or from the back; all of these agree. The
one place where the positions are not those that the offsets name is in front of the first byte: an
end offset that counts back to there is not refused if the slice begins with the first byte, and
the slice is empty.
-/

import PacketFilter.Proofs.Slice.Taken

namespace PacketFilter

/-! ### Ranges of numbers -/

/-- Whether a number lies in the range of signed words of 64 bits, in which positions are
computed. -/
def IsWord (number : Int) : Prop :=
  Int64.minValue.toInt ≤ number ∧ number ≤ Int64.maxValue.toInt

/-- The sum of two possible counts is a word. -/
theorem isWord_add {first second : Int} (firstCount : IsCount first)
    (secondCount : IsCount second) :
    IsWord (first + second) := by
  simp only [IsCount, IsWord, Int32.toInt_minValue, Int32.toInt_maxValue, Int64.toInt_minValue,
    Int64.toInt_maxValue] at *
  omega

theorem isWord_of_isCount {number : Int} (count : IsCount number) : IsWord number := by
  have zero : IsCount 0 := by decide
  rw [← Int.add_zero number]
  exact isWord_add count zero

theorem isCount_toInt (offset : Int32) : IsCount offset.toInt :=
  ⟨Int32.minValue_le_toInt offset, Int32.toInt_le offset⟩

theorem toInt_ofInt_of_isCount {number : Int} (count : IsCount number) :
    (Int32.ofInt number).toInt = number := by
  obtain ⟨atLeast, atMost⟩ := count
  rw [Int32.toInt_minValue] at atLeast
  rw [Int32.toInt_maxValue] at atMost
  exact Int32.toInt_ofInt_of_le atLeast (by omega)

namespace Slice

/-! ### The positions that are found -/

/-- A slice finds the positions of its start offset and of its ending, if they lie in the data and
in order. Sizes are below `2^63`. -/
theorem resolve_eq_some_iff {slice : Slice} {size start stop : Nat} :
    slice.resolve size = .ok (some (start, stop)) ↔
      size < Nat.pow 2 63 ∧ position size slice.start = start ∧
        slice.stop? size start = some (stop : Int) ∧ start ≤ stop ∧ stop ≤ size := by
  constructor
  · intro resolved
    refine ⟨?_, positions_of_resolve resolved⟩
    by_contra large
    unfold resolve at resolved
    rw [if_pos (Nat.not_lt.mp large)] at resolved
    cases resolved
  · rintro ⟨small, first, behind, ordered, bounded⟩
    have set : slice.ending ≠ .unset := by
      intro unset
      rw [stop?_of_unset unset] at behind
      cases behind
    unfold resolve
    rw [if_neg (Nat.not_le.mpr small), if_neg set]
    simp only [first, behind]
    rw [if_neg (by omega), if_neg (by omega), Int.toNat_natCast, Int.toNat_natCast]

section

variable {slice : Slice} {size start stop : Nat} (small : size < Nat.pow 2 63)
  (ordered : start ≤ stop) (bounded : stop ≤ size) (first : position size slice.start = start)

include small ordered bounded first

theorem resolve_of_length (ending : slice.ending = .length)
    (count : slice.length.toInt = (stop : Int) - start) :
    slice.resolve size = .ok (some (start, stop)) := by
  have behind : slice.stop? size start = some (stop : Int) := by
    have nonneg : ¬slice.length < 0 := by
      rw [isNegative_iff]
      omega
    rw [stop?_of_length ending, if_neg nonneg,
      show (start : Int) + slice.length.toInt = stop by omega]
  exact resolve_eq_some_iff.mpr ⟨small, first, behind, ordered, bounded⟩

theorem resolve_of_offset (ending : slice.ending = .offset)
    (last : position size slice.endOffset = (stop : Int) - 1) :
    slice.resolve size = .ok (some (start, stop)) := by
  have behind : slice.stop? size start = some (stop : Int) := by
    rw [stop?_of_offset ending, last, Int.sub_add_cancel]
  exact resolve_eq_some_iff.mpr ⟨small, first, behind, ordered, bounded⟩

theorem resolve_of_toEnd (ending : slice.ending = .toEnd) (last : stop = size) :
    slice.resolve size = .ok (some (start, stop)) := by
  have behind : slice.stop? size start = some (stop : Int) := by
    rw [stop?_of_toEnd ending, last]
  exact resolve_eq_some_iff.mpr ⟨small, first, behind, ordered, bounded⟩

end

/-- A slice with a length finds positions exactly if the length is not negative and as many bytes
follow the start. -/
theorem exists_resolve_withLength_iff {size : Nat} (small : size < Nat.pow 2 63)
    (start length : Int32) :
    (∃ positions, (withLength start length).resolve size = .ok (some positions)) ↔
      0 ≤ length.toInt ∧ 0 ≤ position size start ∧ position size start + length.toInt ≤ size := by
  constructor
  · rintro ⟨⟨first, last⟩, resolved⟩
    obtain ⟨isFirst, behind, ordered, bounded⟩ := positions_of_resolve resolved
    have ending : (withLength start length).ending = .length := rfl
    have isLast : (last : Int) = first + length.toInt := stop?_length ending behind
    have isStart : position size start = first := isFirst
    omega
  · rintro ⟨nonneg, begins, ends⟩
    have isFirst : position size start = (position size start).toNat :=
      (Int.toNat_of_nonneg begins).symm
    have count : length.toInt =
        ((position size start + length.toInt).toNat : Int) - (position size start).toNat := by
      omega
    exact ⟨_, resolve_of_length small (by omega) (by omega) isFirst rfl count⟩

/-! ### The numbers on the way -/

section

variable {size : Nat} (fits : (size : Int) ≤ Int32.maxValue.toInt)

include fits

theorem lt_pow_of_fits : size < Nat.pow 2 63 := by
  rw [Int32.toInt_maxValue] at fits
  have larger : (2 : Nat) ^ 31 ≤ Nat.pow 2 63 := by decide
  omega

theorem isCount_of_near {number : Int} (atLeast : -size ≤ number) (atMost : number ≤ size) :
    IsCount number := by
  simp only [IsCount, Int32.toInt_minValue, Int32.toInt_maxValue] at *
  omega

/-- In data whose size is a possible count, so are the positions of all offsets. -/
theorem isCount_position (offset : Int32) : IsCount (position size offset) := by
  have count := isCount_toInt offset
  rw [position_eq]
  simp only [IsCount, Int32.toInt_minValue, Int32.toInt_maxValue] at *
  split <;> omega

theorem isWord_of_stop? {slice : Slice} {stop : Int}
    (behind : slice.stop? size (position size slice.start) = some stop) : IsWord stop := by
  cases ending : slice.ending with
  | unset =>
    rw [stop?_of_unset ending] at behind
    cases behind
  | length =>
    rw [stop?_length ending behind]
    exact isWord_add (isCount_position fits slice.start) (isCount_toInt slice.length)
  | offset =>
    rw [stop?_offset ending behind]
    exact isWord_add (isCount_position fits slice.endOffset) (by decide)
  | toEnd =>
    rw [stop?_of_toEnd ending] at behind
    cases behind
    exact isWord_of_isCount (isCount_of_near fits (by omega) (Int.le_refl _))

end

/-! ### Spellings -/

/-- The ways to spell the slice of the bytes from one position on and in front of another: by its
length, by the offset of its last byte if there is a byte in front of its end, or as running to the
end, and from the front or, if there is a byte at its start, from the back. -/
inductive Spells (size start stop : Nat) : Slice → Prop
  | length : Spells size start stop (.withLength (.ofInt start) (.ofInt ((stop : Int) - start)))
  | endOffset (notFirst : 1 ≤ stop) :
    Spells size start stop (.withEndOffset (.ofInt start) (.ofInt ((stop : Int) - 1)))
  | toTheEnd (last : stop = size) : Spells size start stop (.toTheEnd (.ofInt start))
  | lengthFromBack (inData : start < size) :
    Spells size start stop
      (.withLength (.ofInt ((start : Int) - size)) (.ofInt ((stop : Int) - start)))
  | endOffsetFromBack (inData : start < size) (notFirst : 1 ≤ stop) :
    Spells size start stop
      (.withEndOffset (.ofInt ((start : Int) - size)) (.ofInt ((stop : Int) - 1 - size)))
  | toTheEndFromBack (inData : start < size) (last : stop = size) :
    Spells size start stop (.toTheEnd (.ofInt ((start : Int) - size)))

section

variable {size start stop : Nat} (fits : (size : Int) ≤ Int32.maxValue.toInt)

include fits

/-- An offset that is not negative counts from the front. -/
theorem position_fromFront {number : Int} (nonneg : 0 ≤ number) (bounded : number ≤ size) :
    position size (.ofInt number) = number := by
  rw [position_eq, toInt_ofInt_of_isCount (isCount_of_near fits (by omega) bounded),
    if_neg (by omega)]

/-- A negative offset counts from the back. -/
theorem position_fromBack {number : Int} (nonneg : 0 ≤ number) (inData : number < size) :
    position size (.ofInt (number - size)) = number := by
  rw [position_eq, toInt_ofInt_of_isCount (isCount_of_near fits (by omega) (by omega)),
    if_pos (by omega)]
  omega

/-- However a slice is spelled, it finds its positions. -/
theorem Spells.resolve {slice : Slice} (spells : Spells size start stop slice)
    (ordered : start ≤ stop) (bounded : stop ≤ size) :
    slice.resolve size = .ok (some (start, stop)) := by
  have small := lt_pow_of_fits fits
  have count : (Int32.ofInt ((stop : Int) - start)).toInt = stop - start :=
    toInt_ofInt_of_isCount (isCount_of_near fits (by omega) (by omega))
  have front : position size (.ofInt start) = start :=
    position_fromFront fits (by omega) (by omega)
  have back (inData : start < size) : position size (.ofInt (start - size)) = start :=
    position_fromBack fits (by omega) (by omega)
  cases spells with
  | length => exact resolve_of_length small ordered bounded front rfl count
  | endOffset notFirst =>
    have last := position_fromFront fits (show 0 ≤ (stop : Int) - 1 by omega) (by omega)
    exact resolve_of_offset small ordered bounded front rfl last
  | toTheEnd last => exact resolve_of_toEnd small ordered bounded front rfl last
  | lengthFromBack inData =>
    exact resolve_of_length small ordered bounded (back inData) rfl count
  | endOffsetFromBack inData notFirst =>
    have last := position_fromBack fits (show 0 ≤ (stop : Int) - 1 by omega) (by omega)
    exact resolve_of_offset small ordered bounded (back inData) rfl last
  | toTheEndFromBack inData last =>
    exact resolve_of_toEnd small ordered bounded (back inData) rfl last

end

/-- In data whose size is a possible offset, a slice with an ending finds its positions, or that it
has none there, and no number on the way leaves its range. The positions lie in the data and in
order, and every spelling of the bytes between them finds the same ones. A slice with a length finds
positions exactly if the bytes are there. -/
theorem resolve_respelled {slice : Slice} (set : slice.ending ≠ .unset) {size : Nat}
    (fits : (size : Int) ≤ Int32.maxValue.toInt) :
    ((∀ offset, IsWord (position size offset)) ∧
      (∀ stop, slice.stop? size (position size slice.start) = some stop → IsWord stop) ∧
      ∃ positions?, slice.resolve size = .ok positions?) ∧
    (∀ start stop, slice.resolve size = .ok (some (start, stop)) →
      start ≤ stop ∧ stop ≤ size ∧
        ∀ other, Spells size start stop other → other.resolve size = .ok (some (start, stop))) ∧
    (∀ start length, (∃ positions, (withLength start length).resolve size = .ok (some positions)) ↔
      0 ≤ length.toInt ∧ 0 ≤ position size start ∧
        position size start + length.toInt ≤ size) := by
  refine ⟨⟨fun offset => isWord_of_isCount (isCount_position fits offset),
    fun stop => isWord_of_stop? fits, resolve_of_set set size⟩, fun start stop resolved => ?_,
    exists_resolve_withLength_iff (lt_pow_of_fits fits)⟩
  obtain ⟨ordered, bounded⟩ := bounds_of_resolve resolved
  exact ⟨ordered, bounded, fun other spells => spells.resolve fits ordered bounded⟩

/-- The slice `1--1` takes the last three of four bytes, and so do `-3:` and `1-3`. -/
theorem resolve_respelled_lastThree :
    (withEndOffset 1 (-1)).ending ≠ .unset ∧ ((4 : Nat) : Int) ≤ Int32.maxValue.toInt ∧
      (withEndOffset 1 (-1)).resolve 4 = .ok (some (1, 4)) ∧
      (toTheEnd (-3)).resolve 4 = .ok (some (1, 4)) ∧
      (withEndOffset 1 3).resolve 4 = .ok (some (1, 4)) := by
  have resolved : (withEndOffset 1 (-1)).resolve 4 = .ok (some (1, 4)) := by decide
  have set : (withEndOffset 1 (-1)).ending ≠ .unset := by decide
  have fits : ((4 : Nat) : Int) ≤ Int32.maxValue.toInt := by decide
  obtain ⟨-, spelled, -⟩ := resolve_respelled set fits
  obtain ⟨-, -, same⟩ := spelled 1 4 resolved
  exact ⟨set, fits, resolved, same _ (.toTheEndFromBack (by decide) rfl),
    same _ (.endOffset (by decide))⟩

/-! ### End offsets outside the data -/

/-- Whether the end offset of the slice is that of a byte of the data. -/
def EndsInData (slice : Slice) (size : Nat) : Prop :=
  0 ≤ position size slice.endOffset ∧ position size slice.endOffset < size

/-- Whether the slice begins with the first byte of the data and its end offset counts back to the
place in front of that byte. -/
def EndsBeforeFirst (slice : Slice) (size : Nat) : Prop :=
  position size slice.start = 0 ∧ position size slice.endOffset = -1

instance (slice : Slice) (size : Nat) : Decidable (slice.EndsInData size) :=
  inferInstanceAs (Decidable (_ ∧ _))

instance (slice : Slice) (size : Nat) : Decidable (slice.EndsBeforeFirst size) :=
  inferInstanceAs (Decidable (_ ∧ _))

/-- A slice that finds positions ends with a byte of the data, unless it ends before the first one.
What is compared with the start is the place behind the last byte, and behind the place in front of
the first byte is the first byte. -/
theorem endsInData_iff_of_resolve {slice : Slice} (ending : slice.ending = .offset)
    {size start stop : Nat} (resolved : slice.resolve size = .ok (some (start, stop))) :
    slice.EndsInData size ↔ ¬slice.EndsBeforeFirst size := by
  obtain ⟨first, behind, ordered, bounded⟩ := positions_of_resolve resolved
  have last := stop?_offset ending behind
  unfold EndsInData EndsBeforeFirst
  omega

/-- A slice that ends before the first byte of the data is found to be empty. -/
theorem resolve_of_endsBeforeFirst {slice : Slice} (ending : slice.ending = .offset) {size : Nat}
    (small : size < Nat.pow 2 63) (before : slice.EndsBeforeFirst size) :
    slice.resolve size = .ok (some (0, 0)) :=
  resolve_of_offset small (Nat.le_refl 0) (Nat.zero_le size) before.1 ending before.2

end Slice

/-! ### The same in a series -/

namespace SliceSeries

open Slice

/-- Data from which a series takes bytes has positions for each of its slices. -/
theorem exists_resolve_of_select {slices : List Slice} {data out : Bytes}
    (selected : select data slices = .ok (some out)) {slice : Slice} (member : slice ∈ slices) :
    ∃ positions, slice.resolve data.length = .ok (some positions) :=
  exists_select_eq_some_iff.mp ⟨out, selected⟩ slice member

/-- A slice whose end offset is not that of a byte of the data is refused, and so is every series
with it. The one exception is a slice that ends before the first byte and begins with it: that is
found to be empty. -/
theorem refused_of_not_endsInData {slice : Slice} (ending : slice.ending = .offset) (size : Nat) :
    (∀ positions, slice.resolve size = .ok (some positions) →
      (slice.EndsInData size ↔ ¬slice.EndsBeforeFirst size)) ∧
    (size < Nat.pow 2 63 → slice.EndsBeforeFirst size →
      slice.resolve size = .ok (some (0, 0))) ∧
    (¬slice.EndsInData size → ¬slice.EndsBeforeFirst size →
      ∀ (series : SliceSeries) (data : Bytes), series.Built → slice ∈ series.slices →
        data.length = size → series.apply data = .ok none) := by
  refine ⟨fun positions => endsInData_iff_of_resolve ending,
    resolve_of_endsBeforeFirst ending, ?_⟩
  rintro outside notBefore series data built member rfl
  obtain ⟨selected?, applied⟩ := built.apply data
  cases selected? with
  | none => exact applied
  | some out =>
    obtain ⟨positions, resolved⟩ := exists_resolve_of_select applied member
    exact absurd ((endsInData_iff_of_resolve ending resolved).mpr notBefore) outside

/-- Of four bytes, the slice `-4--6` ends two places in front of the first, and is refused together
with `0:3`. -/
theorem refused_of_not_endsInData_twoBefore :
    (withEndOffset (-4) (-6)).ending = .offset ∧ ¬(withEndOffset (-4) (-6)).EndsInData 4 ∧
      ¬(withEndOffset (-4) (-6)).EndsBeforeFirst 4 ∧
      (run (Insertion.behind [.withLength 0 3, .withEndOffset (-4) (-6)])).apply [7, 8, 9, 10] =
        .ok none := by
  have ending : (withEndOffset (-4) (-6)).ending = .offset := rfl
  have outside : ¬(withEndOffset (-4) (-6)).EndsInData 4 := by decide
  have notBefore : ¬(withEndOffset (-4) (-6)).EndsBeforeFirst 4 := by decide
  have made : ofSlices [.withLength 0 3, .withEndOffset (-4) (-6)] =
      .ok (run (Insertion.behind [.withLength 0 3, .withEndOffset (-4) (-6)])) :=
    ofSlices_of_set (by decide)
  exact ⟨ending, outside, notBefore, (refused_of_not_endsInData ending 4).2.2 outside notBefore _ _
    (built_of_ofSlices made) (by decide) rfl⟩

/-- The slice `0--5` ends one place in front of the first of four bytes, but it is not refused: it
selects no bytes, alone and in a series. -/
theorem not_endsInData_of_resolve :
    (¬ ∀ (slice : Slice) (size : Nat) (positions : Nat × Nat), slice.ending = .offset →
      slice.resolve size = .ok (some positions) → slice.EndsInData size) ∧
    (¬ ∀ (slice : Slice) (series : SliceSeries) (data : Bytes), slice.ending = .offset →
      series.Built → slice ∈ series.slices → ¬slice.EndsInData data.length →
        series.apply data = .ok none) := by
  have outside : ¬(withEndOffset 0 (-5)).EndsInData 4 := by decide
  have made : ofSlices [.withEndOffset 0 (-5)] =
      .ok (run (Insertion.behind [.withEndOffset 0 (-5)])) := ofSlices_of_set (by decide)
  have applied : (run (Insertion.behind [.withEndOffset 0 (-5)])).apply [0, 1, 2, 3] =
      .ok (some []) := by decide
  refine ⟨fun general => outside (general _ 4 (0, 0) rfl (by decide)), fun general => ?_⟩
  have refused := general _ _ [0, 1, 2, 3] rfl (built_of_ofSlices made)
    (show withEndOffset 0 (-5) ∈ _ by decide) outside
  rw [applied] at refused
  cases refused

end SliceSeries

end PacketFilter
