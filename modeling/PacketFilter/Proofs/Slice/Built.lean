/-
This file describes the series that can be put together by adding slices at either end, and
proves that applying one to data always has an outcome: no slice without an ending gets into a
series, the positions of a slice lie in the data, and so nothing is read beyond it.
-/

import PacketFilter.Proofs.Outcome
import PacketFilter.Slice.Series

namespace PacketFilter

/-! ### The positions of a slice -/

namespace Slice

section

variable {slice : Slice}

theorem stop?_of_unset (ending : slice.ending = .unset) (size : Nat) (start : Int) :
    slice.stop? size start = none := by
  unfold stop?
  rw [ending]

theorem stop?_of_length (ending : slice.ending = .length) (size : Nat) (start : Int) :
    slice.stop? size start =
      if slice.length < 0 then none else some (start + slice.length.toInt) := by
  unfold stop?
  rw [ending]

theorem stop?_of_offset (ending : slice.ending = .offset) (size : Nat) (start : Int) :
    slice.stop? size start = some (position size slice.endOffset + 1) := by
  unfold stop?
  rw [ending]

theorem stop?_of_toEnd (ending : slice.ending = .toEnd) (size : Nat) (start : Int) :
    slice.stop? size start = some (size : Int) := by
  unfold stop?
  rw [ending]

end

/-- A slice whose ending is set finds its positions in data of any size, or that it has none
there. -/
theorem resolve_of_set {slice : Slice} (set : slice.ending ≠ .unset) (size : Nat) :
    ∃ positions?, slice.resolve size = .ok positions? := by
  unfold resolve
  rw [if_neg set]
  split
  · exact ⟨none, rfl⟩
  · dsimp only
    split
    · exact ⟨none, rfl⟩
    · cases slice.stop? size (position size slice.start) with
      | none => exact ⟨none, rfl⟩
      | some stop =>
        dsimp only
        split
        · exact ⟨none, rfl⟩
        · exact ⟨_, rfl⟩

/-- A slice without an ending finds no positions. -/
theorem set_of_resolve {slice : Slice} {size : Nat} {positions : Nat × Nat}
    (resolved : slice.resolve size = .ok (some positions)) : slice.ending ≠ .unset := by
  intro unset
  unfold resolve at resolved
  rw [if_pos unset] at resolved
  split at resolved <;> cases resolved

/-- The positions of a slice are those of its start offset and of its ending, the first one not
behind the last one and both of them in the data. -/
theorem positions_of_resolve {slice : Slice} {size start stop : Nat}
    (resolved : slice.resolve size = .ok (some (start, stop))) :
    position size slice.start = start ∧ slice.stop? size start = some (stop : Int) ∧
      start ≤ stop ∧ stop ≤ size := by
  unfold resolve at resolved
  split at resolved
  · cases resolved
  · split at resolved
    · cases resolved
    · dsimp only at resolved
      split at resolved
      · cases resolved
      · rename_i inData
        cases found : slice.stop? size (position size slice.start) with
        | none => rw [found] at resolved; cases resolved
        | some last =>
          rw [found] at resolved
          dsimp only at resolved
          split at resolved
          · cases resolved
          · rename_i inOrder
            cases resolved
            have first : position size slice.start = (position size slice.start).toNat := by omega
            have behind : last = (last.toNat : Int) := by omega
            rw [← first, ← behind]
            exact ⟨rfl, found, by omega, by omega⟩

/-- The positions of a slice lie in the data, the first one not behind the last one. -/
theorem bounds_of_resolve {slice : Slice} {size start stop : Nat}
    (resolved : slice.resolve size = .ok (some (start, stop))) : start ≤ stop ∧ stop ≤ size :=
  (positions_of_resolve resolved).2.2

end Slice

/-! ### The bytes of a series -/

theorem Bytes.between_of_bounds {data : Bytes} {start stop : Nat} (ordered : start ≤ stop)
    (bounded : stop ≤ data.length) :
    data.between start stop = .ok ((data.drop start).take (stop - start)) := by
  unfold between
  rw [if_pos ⟨ordered, bounded⟩]

namespace SliceSeries

/-- Slices whose endings are set select bytes from any data, or do not fit it. -/
theorem select_of_set {slices : List Slice} (set : ∀ slice ∈ slices, slice.ending ≠ .unset)
    (data : Bytes) : ∃ selected?, select data slices = .ok selected? := by
  induction slices with
  | nil => exact ⟨some [], rfl⟩
  | cons slice rest inductionHypothesis =>
    obtain ⟨others?, others⟩ :=
      inductionHypothesis fun other member => set other (List.mem_cons_of_mem _ member)
    obtain ⟨positions?, resolved⟩ :=
      Slice.resolve_of_set (set slice List.mem_cons_self) data.length
    unfold select
    rw [resolved]
    match positions?, resolved with
    | none, _ => exact ⟨none, rfl⟩
    | some (start, stop), resolved =>
      obtain ⟨ordered, bounded⟩ := Slice.bounds_of_resolve resolved
      refine ⟨others?.map fun others => (data.drop start).take (stop - start) ++ others, ?_⟩
      show (data.between start stop >>= _) = _
      rw [Bytes.between_of_bounds ordered bounded, others]
      rfl

/-! ### Putting a series together -/

/-- A series that was empty once and has only been added to. -/
inductive Built : SliceSeries → Prop
  | empty : SliceSeries.empty.Built
  | append {series longer : SliceSeries} {slice : Slice} (before : series.Built)
      (appended : series.append slice = .ok longer) : longer.Built
  | prepend {series longer : SliceSeries} {slice : Slice} (before : series.Built)
      (prepended : series.prepend slice = .ok longer) : longer.Built

/-- A slice that has been taken into account has an ending. -/
theorem set_of_count {series counted : SliceSeries} {slice : Slice}
    (taken : series.count slice = .ok counted) : slice.ending ≠ .unset := by
  intro unset
  unfold count Slice.span at taken
  rw [unset] at taken
  cases taken

theorem set_of_append {series longer : SliceSeries} {slice : Slice}
    (appended : series.append slice = .ok longer) : slice.ending ≠ .unset := by
  obtain ⟨counted, taken, -⟩ := map_eq_ok.mp appended
  exact set_of_count taken

theorem slices_of_prepend {series longer : SliceSeries} {slice : Slice}
    (prepended : series.prepend slice = .ok longer) : longer.slices = slice :: series.slices := by
  obtain ⟨counted, -, rfl⟩ := map_eq_ok.mp prepended
  rfl

theorem set_of_prepend {series longer : SliceSeries} {slice : Slice}
    (prepended : series.prepend slice = .ok longer) : slice.ending ≠ .unset := by
  obtain ⟨counted, taken, -⟩ := map_eq_ok.mp prepended
  exact set_of_count taken

/-- Every slice of a series that has been put together has an ending. -/
theorem Built.set {series : SliceSeries} (built : series.Built) :
    ∀ slice ∈ series.slices, slice.ending ≠ .unset := by
  induction built with
  | empty => intro slice member; cases member
  | append before appended inductionHypothesis =>
    rw [slices_of_append appended]
    intro slice member
    rcases List.mem_append.mp member with old | new
    · exact inductionHypothesis slice old
    · rw [List.mem_singleton.mp new]
      exact set_of_append appended
  | prepend before prepended inductionHypothesis =>
    rw [slices_of_prepend prepended]
    intro slice member
    rcases List.mem_cons.mp member with rfl | old
    · exact set_of_prepend prepended
    · exact inductionHypothesis slice old

/-- Slices that are put behind the others one after the other leave a series put together. -/
theorem Built.appendAll {series longer : SliceSeries} {slices : List Slice}
    (built : series.Built) (appended : series.appendAll slices = .ok longer) : longer.Built := by
  induction slices generalizing series with
  | nil => cases appended; exact built
  | cons slice rest inductionHypothesis =>
    unfold SliceSeries.appendAll at appended
    cases first : series.append slice with
    | error fault => rw [first] at appended; cases appended
    | ok next =>
      rw [first] at appended
      exact inductionHypothesis (.append built first) appended

theorem built_of_ofSlices {slices : List Slice} {series : SliceSeries}
    (made : ofSlices slices = .ok series) : series.Built :=
  Built.empty.appendAll made

/-- A series that has been put together can be applied to any data. -/
theorem Built.apply {series : SliceSeries} (built : series.Built) (data : Bytes) :
    ∃ selected?, series.apply data = .ok selected? :=
  select_of_set built.set data

end SliceSeries

end PacketFilter
