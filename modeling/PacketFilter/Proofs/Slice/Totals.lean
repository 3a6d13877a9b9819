/-
This file says what the totals of a series tell of its slices: whether one of them runs to the
end, the least and the greatest start offset, and the sum of what they cover. All but the sum
follow from which slices there are. The sum depends on the order in which they were put in, which
is not the order in which they stand: it is not kept up once a slice runs to the end, and it stays
at the end of the range of counts when it leaves that.
-/

import PacketFilter.Proofs.Slice.CappedSum
import PacketFilter.Proofs.Slice.Insertion

namespace PacketFilter

/-! ### What slices cover -/

namespace Slice

/-- What the slices cover, those left out for which that is not known without the data. -/
def counts (slices : List Slice) : List Int :=
  slices.filterMap fun slice => slice.covered?.map Int32.toInt

/-- What the slices cover up to the first one that runs to the end. -/
def countsBeforeEnd (slices : List Slice) : List Int :=
  counts (slices.takeWhile fun slice => slice.ending ≠ .toEnd)

theorem counts_append (first second : List Slice) :
    counts (first ++ second) = counts first ++ counts second :=
  List.filterMap_append

theorem counts_perm {first second : List Slice} (same : first.Perm second) :
    (counts first).Perm (counts second) :=
  same.filterMap _

theorem countsBeforeEnd_of_known {slices : List Slice}
    (known : ∀ slice ∈ slices, slice.ending ≠ .toEnd) : countsBeforeEnd slices = counts slices := by
  unfold countsBeforeEnd
  rw [List.takeWhile_eq_self_iff.mpr fun slice member => decide_eq_true (known slice member)]

theorem countsBeforeEnd_concat_of_known {slices : List Slice} {slice : Slice}
    (known : ∀ slice ∈ slices, slice.ending ≠ .toEnd) :
    countsBeforeEnd (slices ++ [slice]) =
      countsBeforeEnd slices ++ (slice.covered?.map Int32.toInt).toList := by
  rw [countsBeforeEnd_of_known known]
  by_cases toEnd : slice.ending = .toEnd
  · have unknown : slice.covered? = none := by
      unfold covered? span
      rw [toEnd]
      rfl
    unfold countsBeforeEnd
    rw [List.takeWhile_append_of_pos fun other member => decide_eq_true (known other member),
      List.takeWhile_cons_of_neg (by simpa using toEnd), List.append_nil, unknown]
    exact (List.append_nil _).symm
  · have knownAll : ∀ other ∈ slices ++ [slice], other.ending ≠ .toEnd :=
      List.forall_mem_append.mpr ⟨known, List.forall_mem_singleton.mpr toEnd⟩
    rw [countsBeforeEnd_of_known knownAll, counts_append]
    unfold counts
    cases covered : slice.covered? <;> simp [covered]

/-- What is put in after a slice that runs to the end is not counted. -/
theorem countsBeforeEnd_concat_of_ended {slices : List Slice} (slice : Slice)
    (ended : ¬ ∀ slice ∈ slices, slice.ending ≠ .toEnd) :
    countsBeforeEnd (slices ++ [slice]) = countsBeforeEnd slices := by
  unfold countsBeforeEnd
  rw [List.takeWhile_append, if_neg]
  intro complete
  have all := (List.takeWhile_prefix _).eq_of_length complete
  exact ended fun other member => of_decide_eq_true (List.takeWhile_eq_self_iff.mp all other member)

/-! ### The first of the start offsets -/

/-- An order of offsets, with the offset that comes last in it. -/
structure IsOffsetOrder (before : Int32 → Int32 → Prop) (last : Int32) : Prop where
  trans : ∀ {first second third}, before first second → before second third → before first third
  antisymm : ∀ {first second}, before first second → before second first → first = second
  before_last : ∀ offset, before offset last

theorem isOffsetOrder_le : IsOffsetOrder (· ≤ ·) Int32.maxValue where
  trans := Int32.le_trans
  antisymm := Int32.le_antisymm
  before_last := fun offset => Int32.le_iff_toInt_le.mpr (Int32.toInt_le offset)

theorem isOffsetOrder_ge : IsOffsetOrder (· ≥ ·) Int32.minValue where
  trans := fun first second => Int32.le_trans second first
  antisymm := fun first second => Int32.le_antisymm second first
  before_last := fun offset => Int32.le_iff_toInt_le.mpr (Int32.minValue_le_toInt offset)

/-- The start offset that comes first in an order. Of no slices it is the offset that comes
last. -/
structure IsFirstStart (before : Int32 → Int32 → Prop) (last : Int32) (slices : List Slice)
    (offset : Int32) : Prop where
  isBefore : ∀ slice ∈ slices, before offset slice.start
  isStart : slices = [] ∧ offset = last ∨ ∃ slice ∈ slices, slice.start = offset

section

variable {before : Int32 → Int32 → Prop} {last offset : Int32} {slices : List Slice}

theorem IsFirstStart.concat (order : IsOffsetOrder before last) {slice : Slice} {next : Int32}
    (first : IsFirstStart before last slices offset) (chosen : next = offset ∨ next = slice.start)
    (beforeOld : before next offset) (beforeNew : before next slice.start) :
    IsFirstStart before last (slices ++ [slice]) next where
  isBefore := List.forall_mem_append.mpr
    ⟨fun other member => order.trans beforeOld (first.isBefore other member),
      List.forall_mem_singleton.mpr beforeNew⟩
  isStart := by
    have memNew : slice ∈ slices ++ [slice] := List.mem_append_right slices List.mem_cons_self
    right
    rcases chosen with rfl | rfl
    · rcases first.isStart with ⟨-, rfl⟩ | ⟨other, member, start⟩
      · exact ⟨slice, memNew, order.antisymm (order.before_last _) beforeNew⟩
      · exact ⟨other, List.mem_append_left _ member, start⟩
    · exact ⟨slice, memNew, rfl⟩

theorem IsFirstStart.perm {others : List Slice} (same : slices.Perm others)
    (first : IsFirstStart before last slices offset) : IsFirstStart before last others offset where
  isBefore := fun slice member => first.isBefore slice (same.mem_iff.mpr member)
  isStart := by
    rcases first.isStart with ⟨rfl, none⟩ | ⟨slice, member, start⟩
    · exact .inl ⟨same.nil_eq.symm, none⟩
    · exact .inr ⟨slice, same.mem_iff.mp member, start⟩

theorem IsFirstStart.unique (order : IsOffsetOrder before last) {other : Int32}
    (first : IsFirstStart before last slices offset)
    (second : IsFirstStart before last slices other) : offset = other := by
  rcases first.isStart with ⟨rfl, rfl⟩ | ⟨slice, member, rfl⟩
  · rcases second.isStart with ⟨-, rfl⟩ | ⟨slice, member, -⟩
    · rfl
    · cases member
  · rcases second.isStart with ⟨rfl, -⟩ | ⟨slice, memberOther, rfl⟩
    · cases member
    · exact order.antisymm (first.isBefore _ memberOther) (second.isBefore _ member)

end

/-- The least start offset of slices; of none it is the greatest offset that there is. -/
def IsLeastStart (slices : List Slice) (offset : Int32) : Prop :=
  IsFirstStart (· ≤ ·) Int32.maxValue slices offset

/-- The greatest start offset of slices; of none it is the least offset that there is. -/
def IsGreatestStart (slices : List Slice) (offset : Int32) : Prop :=
  IsFirstStart (· ≥ ·) Int32.minValue slices offset

end Slice

/-! ### The totals of a run -/

namespace SliceSeries

open Insertion Slice

/-- The totals of a series are those of the slices that were put in, in this order. -/
structure Tallies (inserted : List Slice) (series : SliceSeries) : Prop where
  hasTotal : series.hasTotal = true ↔ ∀ slice ∈ inserted, slice.ending ≠ .toEnd
  total : series.total.toInt = cappedSum (countsBeforeEnd inserted)
  leastStart : IsLeastStart inserted series.leastStart
  greatestStart : IsGreatestStart inserted series.greatestStart

theorem tallies_empty : Tallies [] empty where
  hasTotal := ⟨fun _ => nofun, fun _ => rfl⟩
  total := rfl
  leastStart := ⟨nofun, .inl ⟨rfl, rfl⟩⟩
  greatestStart := ⟨nofun, .inl ⟨rfl, rfl⟩⟩

theorem total_adding {inserted : List Slice} {series : SliceSeries} (place : SeriesEnd)
    {slice : Slice} (tallies : Tallies inserted series) :
    (series.adding place slice).total.toInt =
      cappedSum (countsBeforeEnd (inserted ++ [slice])) := by
  -- Once a slice runs to the end, neither the total nor the counts before the end change.
  by_cases known : ∀ slice ∈ inserted, slice.ending ≠ .toEnd
  · rw [countsBeforeEnd_concat_of_known known]
    unfold adding
    cases slice.covered? with
    | none => rw [Option.map_none, Option.toList_none, List.append_nil, ← tallies.total]
    | some covered =>
      rw [Option.map_some, Option.toList_some, cappedSum_concat, ← tallies.total]
      dsimp only
      rw [if_pos (tallies.hasTotal.mpr known), toInt_addCounts]
  · have lost : series.hasTotal ≠ true := fun hasTotal => known (tallies.hasTotal.mp hasTotal)
    rw [countsBeforeEnd_concat_of_ended slice known, ← tallies.total]
    unfold adding
    cases slice.covered? with
    | none => rfl
    | some covered => exact congrArg Int32.toInt (if_neg lost)

/-- Adding a slice keeps the totals up. -/
theorem Tallies.adding {inserted : List Slice} {series : SliceSeries} (place : SeriesEnd)
    {slice : Slice} (tallies : Tallies inserted series) :
    Tallies (inserted ++ [slice]) (series.adding place slice) where
  hasTotal := by
    show (series.hasTotal && decide (slice.ending ≠ .toEnd)) = true ↔ _
    rw [Bool.and_eq_true, decide_eq_true_eq, tallies.hasTotal, List.forall_mem_append,
      List.forall_mem_singleton]
  total := total_adding place tallies
  leastStart := by
    show IsLeastStart _ (if slice.start < series.leastStart then slice.start else series.leastStart)
    split
    · rename_i less
      exact tallies.leastStart.concat isOffsetOrder_le (.inr rfl) (Int32.le_of_lt less)
        (Int32.le_refl _)
    · rename_i notLess
      exact tallies.leastStart.concat isOffsetOrder_le (.inl rfl) (Int32.le_refl _)
        (Int32.not_lt.mp notLess)
  greatestStart := by
    show IsGreatestStart _
      (if series.greatestStart < slice.start then slice.start else series.greatestStart)
    split
    · rename_i greater
      exact tallies.greatestStart.concat isOffsetOrder_ge (.inr rfl) (Int32.le_of_lt greater)
        (Int32.le_refl _)
    · rename_i notGreater
      exact tallies.greatestStart.concat isOffsetOrder_ge (.inl rfl) (Int32.le_refl _)
        (Int32.not_lt.mp notGreater)

/-- The totals of a run are those of the slices that were put in. -/
theorem tallies_run (insertions : List Insertion) : Tallies (added insertions) (run insertions) :=
  run_induction tallies_empty (fun place _ tallies => tallies.adding place) insertions

theorem hasTotal_run_iff (insertions : List Insertion) :
    (run insertions).hasTotal = true ↔
      ∀ slice ∈ (run insertions).slices, slice.ending ≠ .toEnd := by
  rw [(tallies_run insertions).hasTotal]
  exact forall_congr' fun slice => by rw [(perm_slices_run insertions).mem_iff]

/-- While no slice runs to the end, all of them count. -/
theorem countsBeforeEnd_added {insertions : List Insertion}
    (hasTotal : (run insertions).hasTotal = true) :
    countsBeforeEnd (added insertions) = counts (added insertions) :=
  countsBeforeEnd_of_known ((tallies_run insertions).hasTotal.mp hasTotal)

/-- What a series holds after a sequence of insertions: its slices stand in the order of their
ends, and its totals are those of its slices, as long as no sum leaves the range of counts. Once a
slice runs to the end, the sum stays what it was before. -/
theorem totals_run (insertions : List Insertion) :
    (run insertions).slices = (addedAt .front insertions).reverse ++ addedAt .back insertions ∧
    ((run insertions).hasTotal = true ↔
      ∀ slice ∈ (run insertions).slices, slice.ending ≠ .toEnd) ∧
    IsLeastStart (run insertions).slices (run insertions).leastStart ∧
    IsGreatestStart (run insertions).slices (run insertions).greatestStart ∧
    (SumsWithinRange (countsBeforeEnd (added insertions)) →
      (run insertions).total.toInt = (countsBeforeEnd (added insertions)).sum ∧
      ((run insertions).hasTotal = true →
        (run insertions).total.toInt = (counts (run insertions).slices).sum)) ∧
    (∀ place, (run insertions).after ⟨place, none⟩ = run insertions) ∧
    (∀ place slice, slice.ending = .unset →
      Insertion.perform (run insertions) ⟨place, some slice⟩ = .error .unsetEnding ∧
      (run insertions).after ⟨place, some slice⟩ = run insertions) := by
  have tallies := tallies_run insertions
  have same := (perm_slices_run insertions).symm
  refine ⟨slices_run insertions, hasTotal_run_iff insertions, tallies.leastStart.perm same,
    tallies.greatestStart.perm same, fun within => ?_, fun place => after_of_not_added rfl,
    fun place slice unset => ⟨perform_of_unset place unset, ?_⟩⟩
  · have total : (run insertions).total.toInt = (countsBeforeEnd (added insertions)).sum := by
      rw [tallies.total, cappedSum_of_sumsWithinRange within]
    refine ⟨total, fun hasTotal => ?_⟩
    rw [total, countsBeforeEnd_added hasTotal, (counts_perm same).sum_eq]
  · refine after_of_not_added (added?_eq_none.mpr fun other brought => ?_)
    rw [← Option.some.inj brought, unset]

/-- Six insertions at both ends. One of them brings no slice, one a slice without an ending, and
the last one comes after a slice that runs to the end. -/
def mixedInsertions : List Insertion :=
  [⟨.back, some (.withLength 0 4)⟩, ⟨.front, none⟩, ⟨.front, some (.withEndOffset 10 15)⟩,
    ⟨.back, some .blank⟩, ⟨.front, some (.toTheEnd 20)⟩, ⟨.back, some (.withLength (-3) 2)⟩]

/-- The series is `20:,10-15,0:4,-3:2`. Its total is that of the slices of four and of six
bytes. -/
theorem totals_run_mixedInsertions :
    SumsWithinRange (countsBeforeEnd (added mixedInsertions)) ∧
      (run mixedInsertions).slices =
        [.toTheEnd 20, .withEndOffset 10 15, .withLength 0 4, .withLength (-3) 2] ∧
      (run mixedInsertions).total.toInt = 10 := by
  have within : SumsWithinRange (countsBeforeEnd (added mixedInsertions)) :=
    sumsWithinRange_of_gains_losses (by decide) (by decide)
  obtain ⟨slices, -, -, -, total, -, -⟩ := totals_run mixedInsertions
  exact ⟨within, slices, (total within).1⟩

end SliceSeries

end PacketFilter
