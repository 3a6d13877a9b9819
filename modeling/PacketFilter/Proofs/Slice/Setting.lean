/-
This file runs sequences of settings of a slice and shows that only the last start offset and the
last ending count. The numbers of earlier endings are still stored, and equality of slices sees
them, but no reading does: a slice reads like the one that is made at once from what was set last,
by itself and in every series. The argument goes through the slice with those numbers cleared.
Each reading is the same before and after clearing, and what is left after clearing is the slice
made at once.
-/

import Mathlib.Data.List.Induction
import PacketFilter.Proofs.Slice.Insertion

namespace PacketFilter

/-! ### Settings -/

/-- An ending with the number that belongs to it. -/
inductive NumberedEnding where
  | length (length : Int32)
  | offset (offset : Int32)
  | toEnd
  deriving DecidableEq

/-- A call that sets a part of a slice. -/
inductive SliceSetting where
  | start (offset : Int32)
  | ending (given : NumberedEnding)
  deriving DecidableEq

namespace SliceSetting

/-- The slice with a part of it set. -/
def perform (slice : Slice) : SliceSetting → Slice
  | .start offset => slice.setStart offset
  | .ending (.length length) => slice.setLength length
  | .ending (.offset offset) => slice.setEndOffset offset
  | .ending .toEnd => slice.setToTheEnd

/-- The start offset that is set, if it is one. -/
def start? : SliceSetting → Option Int32
  | .start offset => some offset
  | .ending _ => none

/-- The ending that is set, if it is one. -/
def ending? : SliceSetting → Option NumberedEnding
  | .start _ => none
  | .ending given => some given

/-- The start offset that is set last. It is zero if none is set. -/
def lastStart (settings : List SliceSetting) : Int32 :=
  (settings.filterMap start?).getLast?.getD 0

/-- The ending that is set last, if one is set. -/
def lastEnding? (settings : List SliceSetting) : Option NumberedEnding :=
  (settings.filterMap ending?).getLast?

section

variable (settings : List SliceSetting)

theorem lastStart_concat_start (offset : Int32) :
    lastStart (settings ++ [.start offset]) = offset := by
  simp [lastStart, start?]

theorem lastStart_concat_ending (given : NumberedEnding) :
    lastStart (settings ++ [.ending given]) = lastStart settings := by
  simp [lastStart, start?]

theorem lastEnding?_concat_start (offset : Int32) :
    lastEnding? (settings ++ [.start offset]) = lastEnding? settings := by
  simp [lastEnding?, ending?]

theorem lastEnding?_concat_ending (given : NumberedEnding) :
    lastEnding? (settings ++ [.ending given]) = some given := by
  simp [lastEnding?, ending?]

end

theorem lastEnding?_eq_none_iff {settings : List SliceSetting} :
    lastEnding? settings = none ↔ ¬ ∃ given, .ending given ∈ settings := by
  unfold lastEnding?
  rw [List.getLast?_eq_none_iff, List.filterMap_eq_nil_iff]
  constructor
  · rintro unset ⟨given, member⟩
    cases unset _ member
  · intro unset setting member
    cases setting with
    | start offset => rfl
    | ending given => exact absurd ⟨given, member⟩ unset

end SliceSetting

/-! ### Clearing a slice -/

namespace Slice

open SliceSetting

/-- What a sequence of settings makes of a slice with nothing set. -/
def ofSettings (settings : List SliceSetting) : Slice :=
  settings.foldl perform blank

/-- The slice that is made at once from a start offset and an ending. -/
def ofEnding (start : Int32) : NumberedEnding → Slice
  | .length length => withLength start length
  | .offset offset => withEndOffset start offset
  | .toEnd => toTheEnd start

/-- The slice that is made at once from what was set last. -/
def ofLast (settings : List SliceSetting) : Slice :=
  match lastEnding? settings with
  | none => blank.setStart (lastStart settings)
  | some ending => ofEnding (lastStart settings) ending

/-- The slice with zero for every number that its ending does not use. -/
def cleared (slice : Slice) : Slice :=
  { slice with
    length := if slice.ending = .length then slice.length else 0
    endOffset := if slice.ending = .offset then slice.endOffset else 0 }

theorem cleared_cleared (slice : Slice) : slice.cleared.cleared = slice.cleared := by
  obtain ⟨start, length, endOffset, ending⟩ := slice
  cases ending <;> rfl

/-- What a setting does to the numbers that are used does not depend on the others. -/
theorem cleared_perform (slice : Slice) (setting : SliceSetting) :
    (setting.perform slice.cleared).cleared = (setting.perform slice).cleared := by
  obtain ⟨start, length, endOffset, ending⟩ := slice
  cases setting with
  | start offset => cases ending <;> rfl
  | ending next => cases next <;> cases ending <;> rfl

/-- After one more setting, the slice made from what was set last is the former one with this
setting, cleared. -/
theorem ofLast_concat (settings : List SliceSetting) (setting : SliceSetting) :
    ofLast (settings ++ [setting]) = (setting.perform (ofLast settings)).cleared := by
  unfold ofLast
  cases setting with
  | start offset =>
    rw [lastEnding?_concat_start, lastStart_concat_start]
    cases lastEnding? settings with
    | none => rfl
    | some ending => cases ending <;> rfl
  | ending next =>
    rw [lastEnding?_concat_ending, lastStart_concat_ending]
    cases lastEnding? settings with
    | none => cases next <;> rfl
    | some ending => cases next <;> cases ending <;> rfl

theorem cleared_ofSettings (settings : List SliceSetting) :
    (ofSettings settings).cleared = ofLast settings := by
  induction settings using List.reverseRecOn with
  | nil => rfl
  | append_singleton settings setting inductionHypothesis =>
    -- The induction is on cleared slices, which the next setting may still leave uncleared.
    have performed : ofSettings (settings ++ [setting]) = setting.perform (ofSettings settings) :=
      List.foldl_concat perform blank setting settings
    rw [performed, ofLast_concat, ← inductionHypothesis, cleared_perform]

/-! ### Reading a cleared slice -/

/-- Two slices that no reading tells apart, neither by its value nor by its fault. -/
structure ReadsLike (first second : Slice) : Prop where
  readStart : first.readStart = second.readStart
  readEnding : first.readEnding = second.readEnding
  readLength : first.readLength = second.readLength
  readEndOffset : first.readEndOffset = second.readEndOffset
  span : first.span = second.span
  resolve : ∀ size, first.resolve size = second.resolve size
  text : first.text = second.text

/-- Every reading looks at the ending first, and then at no number that the ending does not use. -/
theorem readsLike_cleared (slice : Slice) : slice.ReadsLike slice.cleared := by
  obtain ⟨start, length, endOffset, ending⟩ := slice
  cases ending <;> exact ⟨rfl, rfl, rfl, rfl, rfl, fun _ => rfl, rfl⟩

theorem covered?_cleared (slice : Slice) : slice.cleared.covered? = slice.covered? := by
  unfold covered?
  rw [slice.readsLike_cleared.span]

end Slice

/-! ### Clearing a series -/

/-- The insertion with a cleared slice. -/
def Insertion.cleared (insertion : Insertion) : Insertion :=
  { insertion with slice? := insertion.slice?.map Slice.cleared }

theorem Insertion.added?_cleared (insertion : Insertion) :
    insertion.cleared.added? = insertion.added?.map Slice.cleared := by
  obtain ⟨place, slice?⟩ := insertion
  cases slice? with
  | none => rfl
  | some slice =>
    unfold added? cleared
    by_cases set : slice.ending = .unset <;> simp [Option.filter, set, Slice.cleared]

namespace SliceSeries

/-- The series with all of its slices cleared. -/
def cleared (series : SliceSeries) : SliceSeries :=
  { series with slices := series.slices.map Slice.cleared }

theorem cleared_adding (series : SliceSeries) (place : SeriesEnd) (slice : Slice) :
    (series.adding place slice).cleared = series.cleared.adding place slice.cleared := by
  have inserted : (place.insert slice series.slices).map Slice.cleared =
      place.insert slice.cleared (series.slices.map Slice.cleared) := by
    cases place <;> simp [SeriesEnd.insert]
  unfold adding cleared
  rw [slice.covered?_cleared, inserted]
  rfl

theorem cleared_after (series : SliceSeries) (insertion : Insertion) :
    (series.after insertion).cleared = series.cleared.after insertion.cleared := by
  have adds := insertion.added?_cleared
  cases added : insertion.added? with
  | none =>
    rw [added, Option.map_none] at adds
    rw [after_of_not_added added, after_of_not_added adds]
  | some slice =>
    rw [added, Option.map_some] at adds
    rw [after_of_added added, after_of_added adds]
    exact cleared_adding series insertion.place slice

theorem cleared_foldl_after (series : SliceSeries) (insertions : List Insertion) :
    (insertions.foldl after series).cleared =
      (insertions.map Insertion.cleared).foldl after series.cleared := by
  induction insertions generalizing series with
  | nil => rfl
  | cons insertion rest inductionHypothesis =>
    rw [List.foldl_cons, inductionHypothesis, cleared_after, List.map_cons, List.foldl_cons]

/-! ### Reading a cleared series -/

theorem select_map_cleared (data : Bytes) (slices : List Slice) :
    select data (slices.map Slice.cleared) = select data slices := by
  induction slices with
  | nil => rfl
  | cons slice rest inductionHypothesis =>
    rw [List.map_cons, select, select, ← slice.readsLike_cleared.resolve, inductionHypothesis]

theorem length_cleared (series : SliceSeries) :
    series.cleared.slices.length = series.slices.length :=
  List.length_map Slice.cleared

theorem apply_cleared (series : SliceSeries) (data : Bytes) :
    series.cleared.apply data = series.apply data :=
  select_map_cleared data series.slices

theorem text_cleared (series : SliceSeries) : series.cleared.text = series.text := by
  have texts : (series.slices.map Slice.cleared).map Slice.text = series.slices.map Slice.text := by
    rw [List.map_map]
    exact List.map_congr_left fun slice _ => slice.readsLike_cleared.text.symm
  exact congrArg (String.intercalate ",") texts

/-- Two series that no reading tells apart. -/
structure ReadsLike (first second : SliceSeries) : Prop where
  hasTotal : first.hasTotal = second.hasTotal
  total : first.total = second.total
  leastStart : first.leastStart = second.leastStart
  greatestStart : first.greatestStart = second.greatestStart
  length : first.slices.length = second.slices.length
  apply : ∀ data, first.apply data = second.apply data
  text : first.text = second.text

theorem readsLike_of_cleared_eq {first second : SliceSeries}
    (same : first.cleared = second.cleared) : first.ReadsLike second where
  hasTotal := show first.cleared.hasTotal = second.cleared.hasTotal by rw [same]
  total := show first.cleared.total = second.cleared.total by rw [same]
  leastStart := show first.cleared.leastStart = second.cleared.leastStart by rw [same]
  greatestStart := show first.cleared.greatestStart = second.cleared.greatestStart by rw [same]
  length := by rw [← first.length_cleared, same, length_cleared]
  apply := fun data => by rw [← first.apply_cleared, same, apply_cleared]
  text := by rw [← first.text_cleared, same, text_cleared]

/-- Whether a slice or the cleared one is put into a series makes no difference to any reading, now
and after further insertions. -/
theorem exists_perform_cleared (series : SliceSeries) (place : SeriesEnd) {slice : Slice}
    (set : slice.ending ≠ .unset) :
    ∃ first second, Insertion.perform series ⟨place, some slice⟩ = .ok first ∧
      Insertion.perform series ⟨place, some slice.cleared⟩ = .ok second ∧
      ∀ later : List Insertion, (later.foldl after first).ReadsLike (later.foldl after second) := by
  have adds : Insertion.added? ⟨place, some slice⟩ = some slice :=
    Insertion.added?_eq_some.mpr ⟨rfl, set⟩
  have addsCleared : Insertion.added? ⟨place, some slice.cleared⟩ = some slice.cleared :=
    Insertion.added?_eq_some.mpr ⟨rfl, set⟩
  refine ⟨_, _, perform_of_added adds, perform_of_added addsCleared, fun later => ?_⟩
  apply readsLike_of_cleared_eq
  rw [cleared_foldl_after, cleared_foldl_after, cleared_adding, cleared_adding,
    Slice.cleared_cleared]

end SliceSeries

/-! ### What was set last -/

namespace Slice

open SliceSetting

theorem ofLast_of_some {settings : List SliceSetting} {given : NumberedEnding}
    (last : lastEnding? settings = some given) :
    ofLast settings = ofEnding (lastStart settings) given := by
  unfold ofLast
  rw [last]

theorem ofLast_of_none {settings : List SliceSetting} (unset : lastEnding? settings = none) :
    ofLast settings = blank.setStart (lastStart settings) := by
  unfold ofLast
  rw [unset]

theorem ending_ofEnding_ne (start : Int32) (given : NumberedEnding) :
    (ofEnding start given).ending ≠ .unset := by
  cases given <;> exact nofun

/-- Once an ending is set, a slice reads like the one that is made at once from the last start
offset and the last ending, and a series into which one of them was put reads like the series into
which the other one was put. As long as no ending is set, there is nothing to read. -/
theorem ofSettings_readsLike_last (settings : List SliceSetting) :
    ((∃ given, .ending given ∈ settings) → ∃ given, lastEnding? settings = some given ∧
      (ofSettings settings).ReadsLike (ofEnding (lastStart settings) given) ∧
      ∀ (series : SliceSeries) (place : SeriesEnd), ∃ first second,
        Insertion.perform series ⟨place, some (ofSettings settings)⟩ = .ok first ∧
        Insertion.perform series ⟨place, some (ofEnding (lastStart settings) given)⟩ =
          .ok second ∧
        ∀ later : List Insertion, (later.foldl SliceSeries.after first).ReadsLike
          (later.foldl SliceSeries.after second)) ∧
    ((¬ ∃ given, .ending given ∈ settings) →
      (ofSettings settings).readStart = .error .unsetStart ∧
      (ofSettings settings).readEnding = .error .unsetEnding ∧
      (ofSettings settings).readLength = .error (.noLength .unset) ∧
      (ofSettings settings).readEndOffset = .error (.noEndOffset .unset) ∧
      (ofSettings settings).span = .error .unsetEnding) := by
  have cleared := cleared_ofSettings settings
  constructor
  · intro set
    obtain ⟨given, last⟩ := Option.ne_none_iff_exists'.mp fun unset =>
      lastEnding?_eq_none_iff.mp unset set
    rw [ofLast_of_some last] at cleared
    have ended : (ofSettings settings).ending ≠ .unset := by
      show (ofSettings settings).cleared.ending ≠ .unset
      rw [cleared]
      exact ending_ofEnding_ne _ given
    refine ⟨given, last, ?_⟩
    rw [← cleared]
    exact ⟨readsLike_cleared _, fun series place => series.exists_perform_cleared place ended⟩
  · intro unset
    rw [ofLast_of_none (lastEnding?_eq_none_iff.mpr unset)] at cleared
    have alike := readsLike_cleared (ofSettings settings)
    rw [alike.readStart, alike.readEnding, alike.readLength, alike.readEndOffset, alike.span,
      cleared]
    exact ⟨rfl, rfl, rfl, rfl, rfl⟩

/-- A slice whose ending is set three times, and its start offset once before and once after the
last ending. -/
def overwrittenSettings : List SliceSetting :=
  [.ending (.length 4), .start 3, .ending (.offset 9), .ending .toEnd, .start (-2)]

/-- The slice still stores the length 4 and the end offset 9, so it is not equal to `-2:`, but it
reads like it. A slice of which only the start offset is set cannot be read. -/
theorem ofSettings_readsLike_last_overwritten :
    (∃ given, .ending given ∈ overwrittenSettings) ∧
      ofSettings overwrittenSettings ≠ toTheEnd (-2) ∧
      (ofSettings overwrittenSettings).ReadsLike (toTheEnd (-2)) ∧
      (ofSettings [.start (-2)]).readStart = .error .unsetStart := by
  have set : ∃ given, .ending given ∈ overwrittenSettings := ⟨.toEnd, by decide⟩
  have unset : ¬ ∃ given, .ending given ∈ [SliceSetting.start (-2)] := by simp
  obtain ⟨given, last, alike, -⟩ := (ofSettings_readsLike_last overwrittenSettings).1 set
  cases last
  exact ⟨set, by decide, alike, ((ofSettings_readsLike_last [.start (-2)]).2 unset).1⟩

end Slice

end PacketFilter
