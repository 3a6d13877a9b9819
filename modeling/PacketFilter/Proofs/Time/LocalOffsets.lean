/-
This file says which offsets a zone offers for a local time. Wherever the two offsets of a zone
differ, those for a local time stand in one of two tables, by the change that comes first in the
year. Either table offers both offsets around the time at which the clocks are set back, the lower
one first, and a single one or none elsewhere. Whether summer time is ahead of standard time or
behind it decides no more than which of the changes sets the clocks back.
-/

import PacketFilter.Time.Zone

namespace PacketFilter.Zone

/-! ### The two tables -/

section Tables

variable {lower higher forward back seconds offset first second : Int}

theorem eq_or_eq_of_mem_offsetsForwardFirst
    (member : offset ∈ offsetsForwardFirst lower higher forward back seconds) :
    offset = lower ∨ offset = higher := by
  unfold offsetsForwardFirst at member
  grind

theorem eq_or_eq_of_mem_offsetsBackFirst
    (member : offset ∈ offsetsBackFirst lower higher forward back seconds) :
    offset = lower ∨ offset = higher := by
  unfold offsetsBackFirst at member
  grind

/-- Two offsets are offered around the time at which the clocks are set back. -/
theorem offsetsForwardFirst_eq_pair
    (both : offsetsForwardFirst lower higher forward back seconds = [first, second]) :
    first = lower ∧ second = higher ∧ back - (higher - lower) ≤ seconds ∧ seconds ≤ back := by
  unfold offsetsForwardFirst at both
  grind

theorem offsetsBackFirst_eq_pair
    (both : offsetsBackFirst lower higher forward back seconds = [first, second]) :
    first = lower ∧ second = higher ∧ back - (higher - lower) ≤ seconds ∧ seconds ≤ back := by
  unfold offsetsBackFirst at both
  grind

end Tables

/-! ### Setting the clocks back -/

/-- How far the clocks are set forward once a year and back again. -/
def gain : Zone → Int
  | .fixed _ => 0
  | .daylight standard summer _ _ => max standard summer - min standard summer

/-- What the clocks show in a year when they are set back. This ends summer time, or begins it if
it is behind standard time. -/
def setBack? : Zone → Int → Option Int
  | .fixed _, _ => none
  | .daylight standard summer starts ends, year =>
    if standard < summer then some (ends.seconds year)
    else if summer < standard then some (starts.seconds year)
    else none

/-- Whether the clocks, which are set back once a year, pass a local time twice: from the time to
which they are set back up to the time at which they are. -/
def IsInFold (zone : Zone) (seconds : Int) : Prop :=
  ∃ back, zone.setBack? (yearOf seconds) = some back ∧ back - zone.gain ≤ seconds ∧ seconds ≤ back

section Daylight

variable {standard summer : Int} {starts ends : YearlyChange}

/-- Where the clocks are changed, one of the tables is asked, of the lower and the higher offset. -/
theorem localOffsets_eq_table (differ : standard ≠ summer) (seconds : Int) :
    ∃ forward back,
      setBack? (.daylight standard summer starts ends) (yearOf seconds) = some back ∧
        (localOffsets (.daylight standard summer starts ends) seconds =
            offsetsForwardFirst (min standard summer) (max standard summer) forward back seconds ∨
          localOffsets (.daylight standard summer starts ends) seconds =
            offsetsBackFirst (min standard summer) (max standard summer) forward back seconds) := by
  rcases Int.lt_or_gt_of_ne differ with ahead | behind
  · refine ⟨starts.seconds (yearOf seconds), ends.seconds (yearOf seconds), if_pos ahead, ?_⟩
    rw [Int.min_eq_left (Int.le_of_lt ahead), Int.max_eq_right (Int.le_of_lt ahead)]
    simp only [localOffsets, if_pos ahead]
    split
    · exact .inl rfl
    · exact .inr rfl
  · have notAhead : ¬standard < summer := Int.lt_asymm behind
    refine ⟨ends.seconds (yearOf seconds), starts.seconds (yearOf seconds),
      (if_neg notAhead).trans (if_pos behind), ?_⟩
    rw [Int.min_eq_right (Int.le_of_lt behind), Int.max_eq_left (Int.le_of_lt behind)]
    simp only [localOffsets, if_neg notAhead, if_pos behind]
    split
    · exact .inr rfl
    · exact .inl rfl

/-- Where they are set forward by nothing, the one offset is offered. -/
theorem localOffsets_self (offset seconds : Int) :
    localOffsets (.daylight offset offset starts ends) seconds = [offset] := by
  simp only [localOffsets, if_neg (Int.lt_irrefl offset)]

/-- Only the two offsets of the zone are offered. -/
theorem eq_or_eq_of_mem_localOffsets {seconds offset : Int}
    (member : offset ∈ localOffsets (.daylight standard summer starts ends) seconds) :
    offset = standard ∨ offset = summer := by
  by_cases same : standard = summer
  · subst same
    rw [localOffsets_self, List.mem_singleton] at member
    exact .inl member
  · obtain ⟨forward, back, -, forwardFirst | backFirst⟩ := localOffsets_eq_table same seconds
    · rw [forwardFirst] at member
      have := eq_or_eq_of_mem_offsetsForwardFirst member
      omega
    · rw [backFirst] at member
      have := eq_or_eq_of_mem_offsetsBackFirst member
      omega

end Daylight

variable {zone : Zone} {seconds first second : Int}

/-- Two offsets are offered in the fold only, the higher one after the lower one. -/
theorem isInFold_of_localOffsets_eq_pair (both : zone.localOffsets seconds = [first, second]) :
    zone.IsInFold seconds ∧ second = first + zone.gain := by
  cases zone with
  | fixed offset => cases both
  | daylight standard summer starts ends =>
    by_cases same : standard = summer
    · subst same
      rw [localOffsets_self] at both
      cases both
    · obtain ⟨forward, back, setBack, table⟩ := localOffsets_eq_table same seconds
      obtain ⟨rfl, rfl, after, before⟩ :
          first = min standard summer ∧ second = max standard summer ∧
            back - (max standard summer - min standard summer) ≤ seconds ∧ seconds ≤ back := by
        rcases table with forwardFirst | backFirst
        · exact offsetsForwardFirst_eq_pair (forwardFirst ▸ both)
        · exact offsetsBackFirst_eq_pair (backFirst ▸ both)
      exact ⟨⟨back, setBack, after, before⟩, by rw [gain]; omega⟩

/-- In Ireland the clocks are set back when the winter begins, from a standard time that is that of
the summer. -/
example : localOffsets (.daylight 3600 0 ⟨.inWeek 10 5 0, 7200⟩ ⟨.inWeek 3 5 0, 3600⟩)
    (WallClock.seconds ⟨⟨2021, 10, 31⟩, 1, 30, 0⟩) = [0, 3600] := rfl

/-! ### Two instants -/

theorem localOffsets_of_instantsOf_eq_ambiguous
    (both : zone.instantsOf seconds = .ambiguous first second) :
    zone.localOffsets seconds = [seconds - first, seconds - second] ∧
      isCoveredInstant first = true ∧ isCoveredInstant second = true := by
  unfold instantsOf at both
  split at both
  · split at both <;> cases both
  · rename_i instants
    split at both
    · rename_i covered
      cases both
      rw [Bool.and_eq_true] at covered
      refine ⟨?_, covered⟩
      have twice : (seconds - ·) ∘ (seconds - ·) = (id : Int → Int) :=
        funext fun offset => Int.sub_sub_self seconds offset
      calc zone.localOffsets seconds
          = ((zone.localOffsets seconds).map (seconds - ·)).map (seconds - ·) := by
            rw [List.map_map, twice, List.map_id]
        _ = [seconds - first, seconds - second] := by rw [instants, List.map_cons, List.map_cons,
            List.map_nil]
    · cases both
  · cases both

/-- Two instants are offered in the fold only, the later one first. -/
theorem isInFold_of_instantsOf_eq_ambiguous
    (both : zone.instantsOf seconds = .ambiguous first second) :
    zone.IsInFold seconds ∧ first = second + zone.gain := by
  obtain ⟨offsets, -⟩ := localOffsets_of_instantsOf_eq_ambiguous both
  obtain ⟨inFold, apart⟩ := isInFold_of_localOffsets_eq_pair offsets
  exact ⟨inFold, by omega⟩

end PacketFilter.Zone
