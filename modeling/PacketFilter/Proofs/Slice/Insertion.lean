/-
This file runs sequences of insertions into a series and says which slices the series holds after
them. A slice goes in at the front or at the back. An insertion that brings no slice changes
nothing; one whose slice has no ending violates the contract and leaves the series as it was.
-/

import Mathlib.Data.List.Basic
import Mathlib.Data.List.Induction
import PacketFilter.Proofs.Slice.Built

namespace PacketFilter

/-! ### Insertions -/

/-- The ends of a series. -/
inductive SeriesEnd where
  | front
  | back
  deriving DecidableEq

/-- An attempt to put a slice in at an end of a series. -/
structure Insertion where
  place : SeriesEnd
  slice? : Option Slice
  deriving DecidableEq

/-- The slices with one more at the given end. -/
def SeriesEnd.insert (slice : Slice) (slices : List Slice) : SeriesEnd → List Slice
  | .front => slice :: slices
  | .back => slices ++ [slice]

namespace Insertion

/-- What becomes of a series, unless the contract is violated. -/
def perform (series : SliceSeries) : Insertion → Except Fault SliceSeries
  | ⟨_, none⟩ => .ok series
  | ⟨.front, some slice⟩ => series.prepend slice
  | ⟨.back, some slice⟩ => series.append slice

/-- The slice that is really added: the one that the insertion brings, if its ending is set. -/
def added? (insertion : Insertion) : Option Slice :=
  insertion.slice?.filter fun slice => slice.ending ≠ .unset

/-- The slices that are added, in the order in which they are put in. -/
def added (insertions : List Insertion) : List Slice :=
  insertions.filterMap added?

/-- The slices that are added at one end, in the order in which they are put in. -/
def addedAt (place : SeriesEnd) (insertions : List Insertion) : List Slice :=
  added (insertions.filter fun insertion => insertion.place = place)

theorem added?_eq_some {insertion : Insertion} {slice : Slice} :
    insertion.added? = some slice ↔ insertion.slice? = some slice ∧ slice.ending ≠ .unset := by
  unfold added?
  rw [Option.filter_eq_some_iff, decide_eq_true_eq]

/-- Nothing is added where there is no slice or one whose ending is not set. -/
theorem added?_eq_none {insertion : Insertion} :
    insertion.added? = none ↔
      ∀ slice, insertion.slice? = some slice → slice.ending = .unset := by
  unfold added?
  rw [Option.filter_eq_none_iff]
  refine forall_congr' fun slice => imp_congr_right fun _ => ?_
  rw [decide_eq_true_eq, ne_eq, not_not]

theorem set_of_mem_added {insertions : List Insertion} {slice : Slice}
    (member : slice ∈ added insertions) : slice.ending ≠ .unset := by
  obtain ⟨insertion, -, adds⟩ := List.mem_filterMap.mp member
  exact (added?_eq_some.mp adds).2

theorem added_concat (insertions : List Insertion) (insertion : Insertion) :
    added (insertions ++ [insertion]) = added insertions ++ insertion.added?.toList := by
  unfold added
  rw [List.filterMap_append]
  cases adds : insertion.added? <;> simp [adds]

theorem addedAt_concat (place : SeriesEnd) (insertions : List Insertion) (insertion : Insertion) :
    addedAt place (insertions ++ [insertion]) =
      addedAt place insertions ++
        if insertion.place = place then insertion.added?.toList else [] := by
  unfold addedAt
  rw [List.filter_append]
  by_cases same : insertion.place = place
  · rw [if_pos same, ← added_concat]
    simp [same]
  · rw [if_neg same]
    simp [same]

/-- The insertions that put slices in behind one another. -/
def behind (slices : List Slice) : List Insertion :=
  slices.map fun slice => ⟨.back, some slice⟩

theorem added_behind {slices : List Slice} (set : ∀ slice ∈ slices, slice.ending ≠ .unset) :
    added (behind slices) = slices := by
  induction slices with
  | nil => rfl
  | cons slice rest inductionHypothesis =>
    obtain ⟨setFirst, setRest⟩ := List.forall_mem_cons.mp set
    have adds : Insertion.added? ⟨.back, some slice⟩ = some slice :=
      added?_eq_some.mpr ⟨rfl, setFirst⟩
    unfold added behind at inductionHypothesis ⊢
    rw [List.map_cons, List.filterMap_cons_some adds, inductionHypothesis setRest]

end Insertion

/-! ### What a slice covers -/

namespace Slice

/-- How many bytes the slice covers, if it has an ending and the number is known without the
data. -/
def covered? (slice : Slice) : Option Int32 :=
  slice.span.toOption.join

theorem span_of_set {slice : Slice} (set : slice.ending ≠ .unset) :
    slice.span = .ok slice.covered? := by
  unfold covered? span
  cases ending : slice.ending with
  | unset => exact absurd ending set
  | length => rfl
  | offset => rfl
  | toEnd => rfl

/-- The number is known unless the slice runs to the end. -/
theorem covered?_isSome {slice : Slice} (set : slice.ending ≠ .unset) :
    slice.covered?.isSome = decide (slice.ending ≠ .toEnd) := by
  unfold covered? span
  cases ending : slice.ending with
  | unset => exact absurd ending set
  | length => rfl
  | offset => rfl
  | toEnd => rfl

end Slice

/-! ### A step and a run -/

namespace SliceSeries

open Insertion

/-- The series after an insertion. -/
def after (series : SliceSeries) (insertion : Insertion) : SliceSeries :=
  match insertion.perform series with
  | .ok longer => longer
  | .error _ => series

/-- The series after a sequence of insertions, the first of them into a series without slices. -/
def run (insertions : List Insertion) : SliceSeries :=
  insertions.foldl after empty

theorem run_concat (insertions : List Insertion) (insertion : Insertion) :
    run (insertions ++ [insertion]) = (run insertions).after insertion :=
  List.foldl_concat after empty insertion insertions

/-- The series with one more slice, and the totals with this slice taken into account. -/
def adding (series : SliceSeries) (place : SeriesEnd) (slice : Slice) : SliceSeries where
  slices := place.insert slice series.slices
  hasTotal := series.hasTotal && decide (slice.ending ≠ .toEnd)
  total :=
    match slice.covered? with
    | some covered => if series.hasTotal then addCounts series.total covered else series.total
    | none => series.total
  leastStart := if slice.start < series.leastStart then slice.start else series.leastStart
  greatestStart := if series.greatestStart < slice.start then slice.start else series.greatestStart

variable {series : SliceSeries} {insertion : Insertion} {slice : Slice}

/-- A slice that is put in at either end is counted first. -/
theorem perform_some (place : SeriesEnd) :
    Insertion.perform series ⟨place, some slice⟩ = (series.count slice).map fun counted =>
      { counted with slices := place.insert slice series.slices } := by
  cases place <;> rfl

theorem perform_of_added (adds : insertion.added? = some slice) :
    insertion.perform series = .ok (series.adding insertion.place slice) := by
  obtain ⟨place, slice?⟩ := insertion
  obtain ⟨rfl, set⟩ := added?_eq_some.mp adds
  have counted : series.count slice =
      .ok { series.adding place slice with slices := series.slices } := by
    unfold count
    rw [Slice.span_of_set set]
    dsimp only
    rw [Slice.covered?_isSome set]
    rfl
  rw [perform_some, counted]
  rfl

/-- A slice without an ending violates the contract. -/
theorem perform_of_unset (place : SeriesEnd) (unset : slice.ending = .unset) :
    Insertion.perform series ⟨place, some slice⟩ = .error .unsetEnding := by
  have uncounted : series.count slice = .error .unsetEnding := by
    unfold count Slice.span
    rw [unset]
  rw [perform_some, uncounted]
  rfl

theorem after_of_added (adds : insertion.added? = some slice) :
    series.after insertion = series.adding insertion.place slice := by
  unfold after
  rw [perform_of_added adds]

theorem after_of_not_added (adds : insertion.added? = none) : series.after insertion = series := by
  obtain ⟨place, slice?⟩ := insertion
  cases slice? with
  | none => rfl
  | some slice =>
    unfold after
    rw [perform_of_unset place (added?_eq_none.mp adds slice rfl)]

/-- What holds of the series without slices and is kept whenever a slice is added holds after
every sequence of insertions. -/
theorem run_induction {motive : List Slice → SliceSeries → Prop} (start : motive [] empty)
    (step : ∀ {inserted : List Slice} {series : SliceSeries} {slice : Slice} (place : SeriesEnd),
      slice.ending ≠ .unset → motive inserted series →
        motive (inserted ++ [slice]) (series.adding place slice))
    (insertions : List Insertion) : motive (added insertions) (run insertions) := by
  induction insertions using List.reverseRecOn with
  | nil => exact start
  | append_singleton insertions insertion inductionHypothesis =>
    rw [run_concat, added_concat]
    cases adds : insertion.added? with
    | none => rwa [after_of_not_added adds, Option.toList_none, List.append_nil]
    | some slice =>
      rw [after_of_added adds]
      exact step insertion.place (added?_eq_some.mp adds).2 inductionHypothesis

/-! ### The slices of a run -/

/-- The slices put in at the front stand in front, the last of them first, and those put in at
the back stand behind them, the last of them last. -/
theorem slices_run (insertions : List Insertion) :
    (run insertions).slices = (addedAt .front insertions).reverse ++ addedAt .back insertions := by
  induction insertions using List.reverseRecOn with
  | nil => rfl
  | append_singleton insertions insertion inductionHypothesis =>
    rw [run_concat, addedAt_concat, addedAt_concat]
    cases adds : insertion.added? with
    | none =>
      rw [after_of_not_added adds, inductionHypothesis]
      simp
    | some slice =>
      rw [after_of_added adds]
      show insertion.place.insert slice (run insertions).slices = _
      rw [inductionHypothesis]
      cases insertion.place <;> simp [SeriesEnd.insert]

/-- The slices of a run are those that were added, in another order. -/
theorem perm_slices_run (insertions : List Insertion) :
    (run insertions).slices.Perm (added insertions) := by
  refine run_induction (motive := fun inserted series => series.slices.Perm inserted) .nil ?_ _
  intro inserted series slice place set same
  cases place with
  | front => exact (same.cons slice).trans (List.perm_append_singleton slice inserted).symm
  | back => exact same.append_right [slice]

theorem set_of_mem_run {insertions : List Insertion} (member : slice ∈ (run insertions).slices) :
    slice.ending ≠ .unset :=
  set_of_mem_added ((perm_slices_run insertions).mem_iff.mp member)

theorem appendAll_of_set {slices : List Slice} (set : ∀ slice ∈ slices, slice.ending ≠ .unset)
    (series : SliceSeries) :
    series.appendAll slices = .ok ((behind slices).foldl after series) := by
  induction slices generalizing series with
  | nil => rfl
  | cons slice rest inductionHypothesis =>
    obtain ⟨setFirst, setRest⟩ := List.forall_mem_cons.mp set
    have adds : Insertion.added? ⟨.back, some slice⟩ = some slice :=
      added?_eq_some.mpr ⟨rfl, setFirst⟩
    have appended : series.append slice = .ok (series.adding .back slice) := perform_of_added adds
    unfold appendAll behind
    rw [appended, List.map_cons, List.foldl_cons, after_of_added adds]
    exact inductionHypothesis setRest _

/-- The series of given slices is what is left after they were put in behind one another. -/
theorem ofSlices_of_set {slices : List Slice} (set : ∀ slice ∈ slices, slice.ending ≠ .unset) :
    ofSlices slices = .ok (run (behind slices)) :=
  appendAll_of_set set empty

theorem slices_run_behind {slices : List Slice} (set : ∀ slice ∈ slices, slice.ending ≠ .unset) :
    (run (behind slices)).slices = slices := by
  have front : addedAt .front (behind slices) = [] := by
    unfold addedAt behind
    rw [List.filter_map]
    simp [added, Function.comp_def]
  have back : addedAt .back (behind slices) = added (behind slices) := by
    unfold addedAt
    rw [List.filter_eq_self.mpr]
    intro insertion member
    obtain ⟨slice, -, rfl⟩ := List.mem_map.mp member
    rfl
  rw [slices_run, front, back, added_behind set]
  rfl

end SliceSeries

end PacketFilter
