/-
This file adds counts up as a series does: a sum that leaves the range of counts stays at its end,
and the next count is added to that. It proves when this is the plain sum of the counts, and when
their order makes no difference: exactly if no count is negative, or none is positive, or neither
the positive counts nor the negative ones leave the range together.
-/

import Mathlib
import PacketFilter.Slice.Series

namespace PacketFilter

/-! ### The range of counts -/

/-- Whether a number is a possible count. -/
def IsCount (number : Int) : Prop :=
  Int32.minValue.toInt ≤ number ∧ number ≤ Int32.maxValue.toInt

instance : DecidablePred IsCount :=
  fun _ => inferInstanceAs (Decidable (_ ∧ _))

/-- The possible count that is nearest to a number. -/
def capped (number : Int) : Int :=
  max Int32.minValue.toInt (min number Int32.maxValue.toInt)

theorem capped_of_isCount {number : Int} (possible : IsCount number) : capped number = number := by
  unfold capped
  rw [min_eq_left possible.2, max_eq_right possible.1]

theorem isCount_capped (number : Int) : IsCount (capped number) := by
  simp only [IsCount, capped, Int32.toInt_minValue, Int32.toInt_maxValue]
  omega

theorem toInt_ofIntClamp_eq_capped (number : Int) :
    (Int32.ofIntClamp number).toInt = capped number := by
  unfold Int32.ofIntClamp
  split
  · rename_i low
    split
    · rename_i high
      rw [Int32.toInt_ofIntLE, capped_of_isCount ⟨low, high⟩]
    · simp only [capped, Int32.toInt_minValue, Int32.toInt_maxValue] at *
      omega
  · simp only [capped, Int32.toInt_minValue, Int32.toInt_maxValue] at *
    omega

theorem SliceSeries.toInt_addCounts (left right : Int32) :
    (addCounts left right).toInt = capped (left.toInt + right.toInt) :=
  toInt_ofIntClamp_eq_capped _

/-! ### The sum of counts -/

/-- The sum of counts; one that leaves the range of counts stays at its end. -/
def cappedSum (counts : List Int) : Int :=
  counts.foldl (fun sum count => capped (sum + count)) 0

theorem cappedSum_concat (counts : List Int) (count : Int) :
    cappedSum (counts ++ [count]) = capped (cappedSum counts + count) :=
  List.foldl_concat _ _ _ _

/-- No sum leaves the range of counts on the way. -/
def SumsWithinRange (counts : List Int) : Prop :=
  ∀ part, part <+: counts → IsCount part.sum

theorem SumsWithinRange.of_prefix {part counts : List Int} (within : SumsWithinRange counts)
    (isPrefix : part <+: counts) : SumsWithinRange part :=
  fun _ shorter => within _ (shorter.trans isPrefix)

/-- While no sum leaves the range, it is the plain sum. -/
theorem cappedSum_of_sumsWithinRange {counts : List Int} (within : SumsWithinRange counts) :
    cappedSum counts = counts.sum := by
  induction counts using List.reverseRecOn with
  | nil => rfl
  | append_singleton counts count inductionHypothesis =>
    have before := inductionHypothesis (within.of_prefix (List.prefix_append counts [count]))
    have possible := within _ (List.prefix_refl (counts ++ [count]))
    rw [List.sum_append, List.sum_singleton] at possible ⊢
    rw [cappedSum_concat, before, capped_of_isCount possible]

/-! ### Gains and losses -/

/-- The sum of the positive counts. -/
def gains (counts : List Int) : Int :=
  (counts.map fun count => max count 0).sum

/-- The sum of the negative counts. -/
def losses (counts : List Int) : Int :=
  (counts.map fun count => min count 0).sum

theorem gains_nonneg (counts : List Int) : 0 ≤ gains counts := by
  refine List.sum_nonneg fun gain member => ?_
  obtain ⟨count, -, rfl⟩ := List.mem_map.mp member
  exact le_max_right count 0

theorem losses_nonpos (counts : List Int) : losses counts ≤ 0 := by
  refine (List.sum_le_card_nsmul _ 0 fun loss member => ?_).trans_eq (nsmul_zero _)
  obtain ⟨count, -, rfl⟩ := List.mem_map.mp member
  exact min_le_right count 0

theorem sum_eq_gains_add_losses (counts : List Int) :
    counts.sum = gains counts + losses counts := by
  unfold gains losses
  rw [← List.sum_map_add]
  simp only [max_add_min, add_zero, List.map_id']

theorem gains_append (first second : List Int) :
    gains (first ++ second) = gains first + gains second := by
  unfold gains
  rw [List.map_append, List.sum_append]

theorem losses_append (first second : List Int) :
    losses (first ++ second) = losses first + losses second := by
  unfold losses
  rw [List.map_append, List.sum_append]

theorem gains_perm {first second : List Int} (same : first.Perm second) :
    gains first = gains second :=
  (same.map _).sum_eq

theorem losses_perm {first second : List Int} (same : first.Perm second) :
    losses first = losses second :=
  (same.map _).sum_eq

theorem gains_eq_zero {counts : List Int} (falling : ∀ count ∈ counts, count ≤ 0) :
    gains counts = 0 := by
  refine List.sum_eq_zero fun gain member => ?_
  obtain ⟨count, inCounts, rfl⟩ := List.mem_map.mp member
  exact max_eq_right (falling count inCounts)

theorem losses_eq_zero {counts : List Int} (rising : ∀ count ∈ counts, 0 ≤ count) :
    losses counts = 0 := by
  refine List.sum_eq_zero fun loss member => ?_
  obtain ⟨count, inCounts, rfl⟩ := List.mem_map.mp member
  exact min_eq_right (rising count inCounts)

/-! ### Sums in any order -/

/-- The counts are free of gains, free of losses, or both stay within the range of counts. -/
def OrderFree (counts : List Int) : Prop :=
  gains counts = 0 ∨ losses counts = 0 ∨
    (gains counts ≤ Int32.maxValue.toInt ∧ Int32.minValue.toInt ≤ losses counts)

theorem OrderFree.perm {first second : List Int} (same : first.Perm second)
    (orderFree : OrderFree first) : OrderFree second := by
  unfold OrderFree at orderFree ⊢
  rwa [← gains_perm same, ← losses_perm same]

/-- Sums that move in one direction leave the range once at most, so capping them on the way is
capping them at the end. -/
theorem foldl_capped_of_oneSign {counts : List Int} (oneSign : gains counts = 0 ∨ losses counts = 0)
    {start : Int} (possible : IsCount start) :
    counts.foldl (fun sum count => capped (sum + count)) start = capped (start + counts.sum) := by
  induction counts generalizing start with
  | nil => rw [List.sum_nil, add_zero, capped_of_isCount possible, List.foldl_nil]
  | cons count rest inductionHypothesis =>
    have rising := gains_nonneg rest
    have falling := losses_nonpos rest
    have total := sum_eq_gains_add_losses rest
    have split : gains (count :: rest) = max count 0 + gains rest ∧
        losses (count :: rest) = min count 0 + losses rest := ⟨rfl, rfl⟩
    rw [split.1, split.2] at oneSign
    -- The first count has the sign of the others: a sum that is capped now would be capped at the
    -- same end later.
    rw [List.foldl_cons, inductionHypothesis (by omega) (isCount_capped _), List.sum_cons]
    simp only [IsCount, capped, Int32.toInt_minValue, Int32.toInt_maxValue] at possible ⊢
    omega

theorem sumsWithinRange_of_gains_losses {counts : List Int}
    (most : gains counts ≤ Int32.maxValue.toInt) (least : Int32.minValue.toInt ≤ losses counts) :
    SumsWithinRange counts := by
  rintro part ⟨rest, rfl⟩
  rw [gains_append] at most
  rw [losses_append] at least
  have total := sum_eq_gains_add_losses part
  have partGains := gains_nonneg part
  have partLosses := losses_nonpos part
  have restGains := gains_nonneg rest
  have restLosses := losses_nonpos rest
  exact ⟨by omega, by omega⟩

/-- The sum of such counts is the plain sum, or the end of the range next to it. -/
theorem cappedSum_of_orderFree {counts : List Int} (orderFree : OrderFree counts) :
    cappedSum counts = capped counts.sum := by
  have zero : IsCount 0 := by decide
  rcases orderFree with noGains | noLosses | ⟨most, least⟩
  · rw [cappedSum, foldl_capped_of_oneSign (.inl noGains) zero, zero_add]
  · rw [cappedSum, foldl_capped_of_oneSign (.inr noLosses) zero, zero_add]
  · have within := sumsWithinRange_of_gains_losses most least
    rw [cappedSum_of_sumsWithinRange within,
      capped_of_isCount (within counts (List.prefix_refl counts))]

theorem cappedSum_perm {first second : List Int} (same : first.Perm second)
    (orderFree : OrderFree first) : cappedSum first = cappedSum second := by
  rw [cappedSum_of_orderFree orderFree, cappedSum_of_orderFree (orderFree.perm same), same.sum_eq]

/-- Counts that come to the same whether the gains or the losses are added first come to the same
in any order. -/
theorem orderFree_of_cappedSum_eq {rising falling : List Int} (noLosses : losses rising = 0)
    (noGains : gains falling = 0)
    (agree : cappedSum (rising ++ falling) = cappedSum (falling ++ rising)) :
    OrderFree (rising ++ falling) := by
  have zero : IsCount 0 := by decide
  have up := gains_nonneg rising
  have down := losses_nonpos falling
  unfold cappedSum at agree
  rw [List.foldl_append, List.foldl_append, foldl_capped_of_oneSign (.inr noLosses) zero,
    foldl_capped_of_oneSign (.inl noGains) zero,
    foldl_capped_of_oneSign (.inl noGains) (isCount_capped _),
    foldl_capped_of_oneSign (.inr noLosses) (isCount_capped _),
    sum_eq_gains_add_losses rising, sum_eq_gains_add_losses falling, noLosses, noGains] at agree
  unfold OrderFree
  rw [gains_append, losses_append, noLosses, noGains]
  simp only [capped, Int32.toInt_minValue, Int32.toInt_maxValue] at agree ⊢
  omega

end PacketFilter
