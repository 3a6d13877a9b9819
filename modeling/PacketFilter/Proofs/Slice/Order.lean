/-
This file says how far a series depends on the order in which its slices were put in. Whether it
has a total and which start offsets are the least and the greatest do not depend on it. The total
does: it can leave the range of counts in one order and not in another, and it comes to the same
in every order exactly if the slices are free of gains, free of losses, or have both within the
range. Equality of series compares the totals as well, those too that are not kept up any more.
Hence a series equals the one made of its slices as they stand if it has a total that does not
depend on the order, and otherwise only if the two sums happen to be the same.
-/

import PacketFilter.Proofs.Slice.Totals

namespace PacketFilter.SliceSeries

open Insertion Slice

/-! ### The same slices in another order -/

section

variable {first second : List Insertion}

theorem hasTotal_run_of_perm (same : (added first).Perm (added second)) :
    (run first).hasTotal = (run second).hasTotal := by
  rw [Bool.eq_iff_iff, (tallies_run first).hasTotal, (tallies_run second).hasTotal]
  exact forall_congr' fun slice => by rw [same.mem_iff]

theorem leastStart_run_of_perm (same : (added first).Perm (added second)) :
    (run first).leastStart = (run second).leastStart :=
  ((tallies_run first).leastStart.perm same).unique isOffsetOrder_le (tallies_run second).leastStart

theorem greatestStart_run_of_perm (same : (added first).Perm (added second)) :
    (run first).greatestStart = (run second).greatestStart :=
  ((tallies_run first).greatestStart.perm same).unique isOffsetOrder_ge
    (tallies_run second).greatestStart

theorem total_run_eq_iff :
    (run first).total = (run second).total ↔
      cappedSum (countsBeforeEnd (added first)) = cappedSum (countsBeforeEnd (added second)) := by
  rw [← Int32.toInt_inj, (tallies_run first).total, (tallies_run second).total]

theorem total_run_of_perm (same : (added first).Perm (added second))
    (hasTotal : (run first).hasTotal = true) (orderFree : OrderFree (counts (added first))) :
    (run first).total = (run second).total := by
  have hasTotalToo : (run second).hasTotal = true := hasTotal_run_of_perm same ▸ hasTotal
  rw [total_run_eq_iff, countsBeforeEnd_added hasTotal, countsBeforeEnd_added hasTotalToo]
  exact cappedSum_perm (counts_perm same) orderFree

end

/-! ### Totals that do not depend on the order -/

/-- Whether the slice covers no negative number of bytes. -/
def isGain (slice : Slice) : Bool :=
  decide (0 ≤ (slice.covered?.map Int32.toInt).getD 0)

theorem losses_gaining (slices : List Slice) : losses (counts (slices.filter isGain)) = 0 := by
  refine losses_eq_zero fun count member => ?_
  obtain ⟨slice, inGaining, covered⟩ := List.mem_filterMap.mp member
  have gain := of_decide_eq_true (List.mem_filter.mp inGaining).2
  rwa [covered] at gain

theorem gains_losing (slices : List Slice) :
    gains (counts (slices.filter fun slice => !isGain slice)) = 0 := by
  refine gains_eq_zero fun count member => ?_
  obtain ⟨slice, inLosing, covered⟩ := List.mem_filterMap.mp member
  have noGain := (List.mem_filter.mp inLosing).2
  rw [isGain, covered, Bool.not_eq_true_eq_eq_false, decide_eq_false_iff_not] at noGain
  exact le_of_lt (not_le.mp noGain)

theorem toInt_total_run_behind {slices : List Slice} (set : ∀ slice ∈ slices, slice.ending ≠ .unset)
    (known : ∀ slice ∈ slices, slice.ending ≠ .toEnd) :
    (run (behind slices)).total.toInt = cappedSum (counts slices) := by
  rw [(tallies_run _).total, added_behind set, countsBeforeEnd_of_known known]

/-- If the slices come to the same total in every order, they do so in two orders above all: those
that cover a positive number of bytes first, and the others first. -/
theorem orderFree_of_totals_agree {slices : List Slice}
    (set : ∀ slice ∈ slices, slice.ending ≠ .unset)
    (known : ∀ slice ∈ slices, slice.ending ≠ .toEnd)
    (agree : ∀ first second : List Insertion, (added first).Perm slices →
      (added second).Perm slices → (run first).total = (run second).total) :
    OrderFree (counts slices) := by
  let gaining := slices.filter isGain
  let losing := slices.filter fun slice => !isGain slice
  have gainsFirst : (gaining ++ losing).Perm slices := List.filter_append_perm isGain slices
  have lossesFirst : (losing ++ gaining).Perm slices := List.perm_append_comm.trans gainsFirst
  have setIn : ∀ {others : List Slice}, others.Perm slices →
      ∀ slice ∈ others, slice.ending ≠ .unset := fun same slice member =>
    set slice (same.mem_iff.mp member)
  have knownIn : ∀ {others : List Slice}, others.Perm slices →
      ∀ slice ∈ others, slice.ending ≠ .toEnd := fun same slice member =>
    known slice (same.mem_iff.mp member)
  have totals := agree (behind (gaining ++ losing)) (behind (losing ++ gaining))
    (by rwa [added_behind (setIn gainsFirst)]) (by rwa [added_behind (setIn lossesFirst)])
  rw [← Int32.toInt_inj, toInt_total_run_behind (setIn gainsFirst) (knownIn gainsFirst),
    toInt_total_run_behind (setIn lossesFirst) (knownIn lossesFirst), counts_append,
    counts_append] at totals
  have orderFree := orderFree_of_cappedSum_eq (losses_gaining slices) (gains_losing slices) totals
  rw [← counts_append] at orderFree
  exact orderFree.perm (counts_perm gainsFirst)

/-- Of two series into which the same slices were put in some order, either both have a total or
neither has, and their least and greatest start offsets are the same. If they have a total, it is
the same in every order exactly if the counts of the slices are free of gains, free of losses, or
have both within the range of counts. -/
theorem aggregates_of_perm (slices : List Slice) (set : ∀ slice ∈ slices, slice.ending ≠ .unset) :
    (∀ first second : List Insertion, (added first).Perm slices → (added second).Perm slices →
      (run first).hasTotal = (run second).hasTotal ∧
      (run first).leastStart = (run second).leastStart ∧
      (run first).greatestStart = (run second).greatestStart) ∧
    ((∀ slice ∈ slices, slice.ending ≠ .toEnd) →
      ((∀ first second : List Insertion, (added first).Perm slices → (added second).Perm slices →
        (run first).total = (run second).total) ↔ OrderFree (counts slices))) := by
  refine ⟨fun first second sameFirst sameSecond => ?_, fun known =>
    ⟨orderFree_of_totals_agree set known, fun orderFree first second sameFirst sameSecond => ?_⟩⟩
  · have same := sameFirst.trans sameSecond.symm
    exact ⟨hasTotal_run_of_perm same, leastStart_run_of_perm same, greatestStart_run_of_perm same⟩
  · have hasTotal : (run first).hasTotal = true :=
      (tallies_run first).hasTotal.mpr fun slice member =>
        known slice (sameFirst.mem_iff.mp member)
    exact total_run_of_perm (sameFirst.trans sameSecond.symm) hasTotal
      (orderFree.perm (counts_perm sameFirst).symm)

/-- Two slices that together cover more bytes than can be counted. -/
def longSlices : List Slice :=
  [.withLength 0 2147483647, .withEndOffset 4 9]

/-- Whether the long slices are put in behind or in front of one another, the totals agree. -/
theorem aggregates_of_perm_longSlices :
    (∀ slice ∈ longSlices, slice.ending ≠ .unset) ∧ (∀ slice ∈ longSlices, slice.ending ≠ .toEnd) ∧
      OrderFree (counts longSlices) ∧
      (run (behind longSlices)).greatestStart = (run (behind longSlices.reverse)).greatestStart ∧
      (run (behind longSlices)).total = (run (behind longSlices.reverse)).total := by
  have set : ∀ slice ∈ longSlices, slice.ending ≠ .unset := by decide
  have known : ∀ slice ∈ longSlices, slice.ending ≠ .toEnd := by decide
  have orderFree : OrderFree (counts longSlices) := .inr (.inl (by decide))
  have inOrder : (added (behind longSlices)).Perm longSlices := by decide
  have reversed : (added (behind longSlices.reverse)).Perm longSlices := by decide
  obtain ⟨agree, totals⟩ := aggregates_of_perm longSlices set
  exact ⟨set, known, orderFree, (agree _ _ inOrder reversed).2.2,
    (totals known).mpr orderFree _ _ inOrder reversed⟩

/-- A slice of the greatest length, one of a single byte and one of a negative length. -/
def shortenedSlices : List Slice :=
  [.withLength 0 2147483647, .withLength 0 1, .withLength 0 (-1)]

/-- Three slices of together `2147483647` bytes have totals that differ by one: the sum leaves the
range of counts if the negative length comes last, and not if it comes first. -/
theorem total_depends_on_order :
    ¬ ∀ first second : List Insertion, (added first).Perm (added second) →
      (run first).hasTotal = true → (run first).total = (run second).total := by
  intro general
  have different : (run (behind shortenedSlices)).total ≠
      (run (behind shortenedSlices.reverse)).total := by decide
  exact different (general _ _ (by decide) (by decide))

/-! ### Equal series -/

section

variable {first second : List Insertion}

theorem perm_added_of_slices_eq (same : (run first).slices = (run second).slices) :
    (added first).Perm (added second) :=
  (perm_slices_run first).symm.trans (same ▸ perm_slices_run second)

/-- Series of the same slices have everything in common but their totals. -/
theorem run_eq_of_slices_eq (same : (run first).slices = (run second).slices) :
    { run first with total := (run second).total } = run second := by
  have sameAdded := perm_added_of_slices_eq same
  show SliceSeries.mk (run first).slices (run first).hasTotal (run second).total
    (run first).leastStart (run first).greatestStart = run second
  rw [same, hasTotal_run_of_perm sameAdded, leastStart_run_of_perm sameAdded,
    greatestStart_run_of_perm sameAdded]

theorem run_eq_iff_of_slices_eq (same : (run first).slices = (run second).slices) :
    run first = run second ↔
      cappedSum (countsBeforeEnd (added first)) = cappedSum (countsBeforeEnd (added second)) := by
  rw [← total_run_eq_iff]
  constructor
  · exact congrArg total
  · intro sameTotal
    rw [← run_eq_of_slices_eq same, ← sameTotal]

theorem run_eq_of_orderFree (same : (run first).slices = (run second).slices)
    (hasTotal : (run first).hasTotal = true) (orderFree : OrderFree (counts (run first).slices)) :
    run first = run second := by
  rw [run_eq_iff_of_slices_eq same, ← total_run_eq_iff]
  exact total_run_of_perm (perm_added_of_slices_eq same) hasTotal
    (orderFree.perm (counts_perm (perm_slices_run first)))

end

/-- The slices of a series can be put together again as they stand. The series that is made of
them differs from the first one in its total at most, which is the sum up to the first slice that
runs to the end as they stand and not as they were put in. If there is no such slice and the order
makes no difference to the sum, series of the same slices are equal. -/
theorem ofSlices_slices_run (insertions : List Insertion) :
    (∃ rebuilt, ofSlices (run insertions).slices = .ok rebuilt ∧
      { rebuilt with total := (run insertions).total } = run insertions ∧
      (rebuilt = run insertions ↔
        cappedSum (countsBeforeEnd (run insertions).slices) =
          cappedSum (countsBeforeEnd (added insertions)))) ∧
    ((run insertions).hasTotal = true → OrderFree (counts (run insertions).slices) →
      ofSlices (run insertions).slices = .ok (run insertions) ∧
      ∀ other : List Insertion, (run other).slices = (run insertions).slices →
        run other = run insertions) := by
  have set : ∀ slice ∈ (run insertions).slices, slice.ending ≠ .unset := fun _ => set_of_mem_run
  have made := ofSlices_of_set set
  have same := slices_run_behind set
  refine ⟨⟨_, made, run_eq_of_slices_eq same, ?_⟩, fun hasTotal orderFree => ⟨?_, ?_⟩⟩
  · rw [run_eq_iff_of_slices_eq same, added_behind set]
  · exact made.trans (congrArg _ (run_eq_of_orderFree same.symm hasTotal orderFree).symm)
  · intro other sameSlices
    exact (run_eq_of_orderFree sameSlices.symm hasTotal orderFree).symm

/-- A slice of four bytes, and then one to the end in front of it. -/
def openedInFront : List Insertion :=
  [⟨.back, some (.withLength 0 4)⟩, ⟨.front, some (.toTheEnd 5)⟩]

/-- Slices whose sum leaves the range of counts, and then one of a negative length in front of
them. -/
def shortenedInFront : List Insertion :=
  [⟨.back, some (.withLength 0 2147483647)⟩, ⟨.back, some (.withLength 0 1)⟩,
    ⟨.front, some (.withLength 0 (-1))⟩]

/-- Series need not be equal to those made of their slices as they stand. In the series `5:,0:4`
the four bytes that were put in before the slice that runs to the end are still in the total. The
other series has a total, which is one less than the sum. -/
theorem ofSlices_slices_run_ne :
    (¬ ∀ insertions : List Insertion,
      ofSlices (run insertions).slices = .ok (run insertions)) ∧
    (¬ ∀ insertions : List Insertion, (run insertions).hasTotal = true →
      ofSlices (run insertions).slices = .ok (run insertions)) := by
  constructor
  · intro general
    have different : ofSlices (run openedInFront).slices ≠ .ok (run openedInFront) := by decide
    exact different (general openedInFront)
  · intro general
    have different : ofSlices (run shortenedInFront).slices ≠ .ok (run shortenedInFront) := by
      decide
    exact different (general shortenedInFront (by decide))

/-- The series `8:2,0-5` is the same, whichever of its slices is put in first. -/
theorem ofSlices_slices_run_bothEnds :
    run [⟨.front, some (.withLength 8 2)⟩, ⟨.back, some (.withEndOffset 0 5)⟩] =
      run [⟨.back, some (.withEndOffset 0 5)⟩, ⟨.front, some (.withLength 8 2)⟩] :=
  ((ofSlices_slices_run [⟨.back, some (.withEndOffset 0 5)⟩, ⟨.front, some (.withLength 8 2)⟩]).2
    (by decide) (.inr (.inl (by decide)))).2 _ (by decide)

end PacketFilter.SliceSeries
