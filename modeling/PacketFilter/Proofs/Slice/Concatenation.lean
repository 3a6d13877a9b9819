/-
This file says which bytes a series takes from data: those that its slices take, one after the
other in the order of the series, and none at all if one of the slices lies outside the data. A
slice takes the bytes between the positions that it finds, which lie in the data. What a series
takes is therefore put together as the series is: a slice more at either end, or one series behind
another, puts its own bytes there.
-/

import Mathlib.Data.List.Forall2
import PacketFilter.Proofs.Slice.Insertion

namespace PacketFilter

/-! ### The bytes of a slice -/

namespace Slice

/-- The part of the data that a slice takes: the bytes between the two positions that it finds. -/
def Takes (slice : Slice) (data part : Bytes) : Prop :=
  ∃ before after, data = before ++ part ++ after ∧
    slice.resolve data.length = .ok (some (before.length, before.length + part.length))

variable {slice : Slice} {data part : Bytes}

/-- What a slice takes is what is read from the data between its positions. -/
theorem takes_iff_between :
    slice.Takes data part ↔
      ∃ start stop, slice.resolve data.length = .ok (some (start, stop)) ∧
        data.between start stop = .ok part := by
  constructor
  · rintro ⟨before, after, rfl, resolved⟩
    refine ⟨_, _, resolved, ?_⟩
    rw [Bytes.between_of_bounds (Nat.le_add_right _ _) (bounds_of_resolve resolved).2,
      Nat.add_sub_cancel_left, List.append_assoc, List.drop_left, List.take_left]
  · rintro ⟨start, stop, resolved, read⟩
    obtain ⟨ordered, bounded⟩ := bounds_of_resolve resolved
    rw [Bytes.between_of_bounds ordered bounded] at read
    obtain rfl := Except.ok.inj read
    have first : (data.take start).length = start :=
      List.length_take_of_le (Nat.le_trans ordered bounded)
    have last : start + ((data.drop start).take (stop - start)).length = stop := by
      rw [List.length_take, List.length_drop]
      omega
    refine ⟨data.take start, data.drop stop, ?_, by rw [first, last]; exact resolved⟩
    calc data
        = data.take start ++ data.drop start := (List.take_append_drop start data).symm
      _ = data.take start ++ ((data.drop start).take (stop - start) ++
            (data.drop start).drop (stop - start)) :=
        congrArg _ (List.take_append_drop (stop - start) _).symm
      _ = data.take start ++ (data.drop start).take (stop - start) ++ data.drop stop := by
        rw [List.drop_drop, Nat.add_sub_cancel' ordered, List.append_assoc]

/-- A slice takes bytes wherever it finds positions: they lie in the data. -/
theorem exists_takes_iff :
    (∃ part, slice.Takes data part) ↔
      ∃ positions, slice.resolve data.length = .ok (some positions) := by
  constructor
  · rintro ⟨part, before, after, -, resolved⟩
    exact ⟨_, resolved⟩
  · rintro ⟨⟨start, stop⟩, resolved⟩
    obtain ⟨ordered, bounded⟩ := bounds_of_resolve resolved
    exact ⟨_, takes_iff_between.mpr
      ⟨start, stop, resolved, Bytes.between_of_bounds ordered bounded⟩⟩

end Slice

/-! ### The bytes of slices in order -/

namespace SliceSeries

section

variable {data out : Bytes}

/-- Slices take what the first of them takes and behind it what the others take. -/
theorem select_cons_eq_some_iff {slice : Slice} {rest : List Slice} :
    select data (slice :: rest) = .ok (some out) ↔
      ∃ part others, slice.Takes data part ∧ select data rest = .ok (some others) ∧
        out = part ++ others := by
  constructor
  · intro selected
    obtain ⟨positions?, resolved, followed⟩ := bind_eq_ok.mp selected
    cases positions? with
    | none => cases followed
    | some positions =>
      obtain ⟨part, read, following⟩ := bind_eq_ok.mp followed
      obtain ⟨others?, selectedRest, joined⟩ := bind_eq_ok.mp following
      obtain ⟨others, rfl, rfl⟩ := Option.map_eq_some_iff.mp (Except.ok.inj joined)
      exact ⟨part, others, Slice.takes_iff_between.mpr ⟨_, _, resolved, read⟩, selectedRest, rfl⟩
  · rintro ⟨part, others, takes, selectedRest, rfl⟩
    obtain ⟨start, stop, resolved, read⟩ := Slice.takes_iff_between.mp takes
    unfold select
    rw [resolved]
    show (data.between start stop >>= _) = _
    rw [read, selectedRest]
    rfl

/-- Slices take one part of the data each, and all of these in order. -/
theorem select_eq_some_iff {slices : List Slice} :
    select data slices = .ok (some out) ↔
      ∃ parts, List.Forall₂ (fun slice part => slice.Takes data part) slices parts ∧
        out = parts.flatten := by
  induction slices generalizing out with
  | nil =>
    constructor
    · intro selected
      cases selected
      exact ⟨[], .nil, rfl⟩
    · rintro ⟨parts, nothing, rfl⟩
      cases nothing
      rfl
  | cons slice rest inductionHypothesis =>
    rw [select_cons_eq_some_iff]
    constructor
    · rintro ⟨part, others, takes, selectedRest, rfl⟩
      obtain ⟨parts, each, rfl⟩ := inductionHypothesis.mp selectedRest
      exact ⟨part :: parts, .cons takes each, rfl⟩
    · rintro ⟨parts, each, rfl⟩
      cases each with
      | cons takes each => exact ⟨_, _, takes, inductionHypothesis.mpr ⟨_, each, rfl⟩, rfl⟩

/-- Some slices and others behind them take what the former take, followed by what the latter
take. -/
theorem select_append_eq_some_iff {slices others : List Slice} :
    select data (slices ++ others) = .ok (some out) ↔
      ∃ first second, select data slices = .ok (some first) ∧
        select data others = .ok (some second) ∧ out = first ++ second := by
  induction slices generalizing out with
  | nil =>
    constructor
    · intro selected
      exact ⟨[], out, rfl, selected, rfl⟩
    · rintro ⟨first, second, nothing, selected, rfl⟩
      cases nothing
      exact selected
  | cons slice rest inductionHypothesis =>
    simp only [List.cons_append, select_cons_eq_some_iff, inductionHypothesis]
    constructor
    · rintro ⟨part, _, takes, ⟨first, second, selectedRest, selected, rfl⟩, rfl⟩
      exact ⟨part ++ first, second, ⟨part, first, takes, selectedRest, rfl⟩, selected,
        (List.append_assoc ..).symm⟩
    · rintro ⟨_, second, ⟨part, first, takes, selectedRest, rfl⟩, selected, rfl⟩
      exact ⟨part, first ++ second, takes, ⟨first, second, selectedRest, selected, rfl⟩,
        List.append_assoc ..⟩

theorem select_singleton_eq_some_iff {slice : Slice} :
    select data [slice] = .ok (some out) ↔ slice.Takes data out := by
  rw [select_cons_eq_some_iff]
  constructor
  · rintro ⟨part, others, takes, nothing, rfl⟩
    cases nothing
    rwa [List.append_nil]
  · intro takes
    exact ⟨out, [], takes, rfl, (List.append_nil out).symm⟩

/-- Slices take bytes exactly if each of them finds positions in the data. -/
theorem exists_select_eq_some_iff {slices : List Slice} :
    (∃ out, select data slices = .ok (some out)) ↔
      ∀ slice ∈ slices, ∃ positions, slice.resolve data.length = .ok (some positions) := by
  simp only [← Slice.exists_takes_iff]
  induction slices with
  | nil => exact iff_of_true ⟨[], rfl⟩ nofun
  | cons slice rest inductionHypothesis =>
    rw [List.forall_mem_cons, ← inductionHypothesis]
    constructor
    · rintro ⟨out, selected⟩
      obtain ⟨part, others, takes, selectedRest, -⟩ := select_cons_eq_some_iff.mp selected
      exact ⟨⟨part, takes⟩, others, selectedRest⟩
    · rintro ⟨⟨part, takes⟩, others, selectedRest⟩
      exact ⟨_, select_cons_eq_some_iff.mpr ⟨part, others, takes, selectedRest, rfl⟩⟩

end

/-! ### Putting bytes together -/

theorem Built.apply_eq_none_iff {series : SliceSeries} (built : series.Built) {data : Bytes} :
    series.apply data = .ok none ↔ ¬∃ out, series.apply data = .ok (some out) := by
  obtain ⟨selected?, applied⟩ := built.apply data
  rw [applied]
  cases selected? <;> simp

/-- A selection is that of two parts together, the bytes of the second behind those of the first. It
is missing exactly if one of the two is. -/
structure Joins (whole : Except Fault (Option Bytes)) (First Second : Bytes → Prop) : Prop where
  some_iff : ∀ out, whole = .ok (some out) ↔
    ∃ first second, First first ∧ Second second ∧ out = first ++ second
  none_iff : whole = .ok none ↔ (¬∃ first, First first) ∨ ¬∃ second, Second second

/-- The bytes that a series takes determine when it takes none. -/
theorem Built.joins {series : SliceSeries} (built : series.Built) {data : Bytes}
    {First Second : Bytes → Prop}
    (some_iff : ∀ out, series.apply data = .ok (some out) ↔
      ∃ first second, First first ∧ Second second ∧ out = first ++ second) :
    Joins (series.apply data) First Second where
  some_iff := some_iff
  none_iff := by
    rw [built.apply_eq_none_iff, ← not_and_or, not_iff_not]
    simp only [some_iff]
    constructor
    · rintro ⟨_, first, second, isFirst, isSecond, rfl⟩
      exact ⟨⟨first, isFirst⟩, second, isSecond⟩
    · rintro ⟨⟨first, isFirst⟩, second, isSecond⟩
      exact ⟨first ++ second, first, second, isFirst, isSecond, rfl⟩

section

variable {series longer : SliceSeries} {slice : Slice}

theorem joins_of_append (built : series.Built) (appended : series.append slice = .ok longer)
    (data : Bytes) :
    Joins (longer.apply data) (fun out => series.apply data = .ok (some out))
      (slice.Takes data) := by
  refine (Built.append built appended).joins fun out => ?_
  unfold apply
  rw [slices_of_append appended, select_append_eq_some_iff]
  simp only [select_singleton_eq_some_iff]

theorem joins_of_prepend (built : series.Built) (prepended : series.prepend slice = .ok longer)
    (data : Bytes) :
    Joins (longer.apply data) (slice.Takes data)
      (fun out => series.apply data = .ok (some out)) := by
  refine (Built.prepend built prepended).joins fun out => ?_
  unfold apply
  rw [slices_of_prepend prepended, select_cons_eq_some_iff]

end

/-! ### Series of given slices -/

theorem slices_of_appendAll {series longer : SliceSeries} {slices : List Slice}
    (appended : series.appendAll slices = .ok longer) :
    longer.slices = series.slices ++ slices := by
  induction slices generalizing series with
  | nil =>
    cases appended
    exact (List.append_nil _).symm
  | cons slice rest inductionHypothesis =>
    unfold appendAll at appended
    cases first : series.append slice with
    | error fault =>
      rw [first] at appended
      cases appended
    | ok next =>
      rw [first] at appended
      rw [inductionHypothesis appended, slices_of_append first, List.append_assoc]
      rfl

theorem slices_of_ofSlices {slices : List Slice} {series : SliceSeries}
    (made : ofSlices slices = .ok series) : series.slices = slices :=
  slices_of_appendAll made

/-- The series of some slices and of others behind them takes what the two series of these take. -/
theorem exists_joins_of_ofSlices {slices others : List Slice} {first second : SliceSeries}
    (madeFirst : ofSlices slices = .ok first) (madeSecond : ofSlices others = .ok second) :
    ∃ whole, ofSlices (slices ++ others) = .ok whole ∧ ∀ data,
      Joins (whole.apply data) (fun out => first.apply data = .ok (some out))
        (fun out => second.apply data = .ok (some out)) := by
  have set : ∀ slice ∈ slices ++ others, slice.ending ≠ .unset := by
    rw [← slices_of_ofSlices madeFirst, ← slices_of_ofSlices madeSecond]
    exact List.forall_mem_append.mpr
      ⟨(built_of_ofSlices madeFirst).set, (built_of_ofSlices madeSecond).set⟩
  have made := ofSlices_of_set set
  refine ⟨_, made, fun data => (built_of_ofSlices made).joins fun out => ?_⟩
  unfold apply
  rw [slices_of_ofSlices made, slices_of_ofSlices madeFirst, slices_of_ofSlices madeSecond]
  exact select_append_eq_some_iff

/-- Applying a series that has been put together to data never reads beyond the data. It gives bytes
exactly if each slice finds positions there, and these are the bytes of the slices in order. So
what is put at the front or at the back of the series, a slice or all slices of another series, puts
its bytes there, and leaves no bytes at all if it has none. -/
theorem apply_concatenates {series : SliceSeries} (built : series.Built) (data : Bytes) :
    ((∃ selected?, series.apply data = .ok selected?) ∧
      ((∃ out, series.apply data = .ok (some out)) ↔
        ∀ slice ∈ series.slices, ∃ positions, slice.resolve data.length = .ok (some positions)) ∧
      ∀ out, series.apply data = .ok (some out) ↔
        ∃ parts, List.Forall₂ (fun slice part => slice.Takes data part) series.slices parts ∧
          out = parts.flatten) ∧
    (∀ slice longer, series.append slice = .ok longer →
      Joins (longer.apply data) (fun out => series.apply data = .ok (some out))
        (slice.Takes data)) ∧
    (∀ slice longer, series.prepend slice = .ok longer →
      Joins (longer.apply data) (slice.Takes data)
        (fun out => series.apply data = .ok (some out))) ∧
    ∀ slices others first second, ofSlices slices = .ok first → ofSlices others = .ok second →
      ∃ whole, ofSlices (slices ++ others) = .ok whole ∧
        Joins (whole.apply data) (fun out => first.apply data = .ok (some out))
          (fun out => second.apply data = .ok (some out)) := by
  refine ⟨⟨built.apply data, exists_select_eq_some_iff, fun out => select_eq_some_iff⟩, ?_, ?_, ?_⟩
  · exact fun slice longer appended => joins_of_append built appended data
  · exact fun slice longer prepended => joins_of_prepend built prepended data
  · intro slices others first second madeFirst madeSecond
    obtain ⟨whole, made, joins⟩ := exists_joins_of_ofSlices madeFirst madeSecond
    exact ⟨whole, made, joins data⟩

/-- The first three of four bytes, the last two, and none. -/
def overlapping : SliceSeries :=
  ⟨[.withLength 0 3, .withEndOffset (-2) (-1), .toTheEnd 4], false, 2, -2, 4⟩

theorem built_overlapping : overlapping.Built := by
  have made : ofSlices [.withEndOffset (-2) (-1), .toTheEnd 4] =
      .ok ⟨[.withEndOffset (-2) (-1), .toTheEnd 4], false, 2, -2, 4⟩ := by decide
  have prepended : SliceSeries.prepend ⟨[.withEndOffset (-2) (-1), .toTheEnd 4], false, 2, -2, 4⟩
      (.withLength 0 3) = .ok overlapping := by decide
  exact .prepend (built_of_ofSlices made) prepended

/-- A byte that lies in two slices is taken twice. One more slice, which begins behind the end of
the data, leaves no bytes at all. -/
theorem apply_concatenates_overlapping :
    overlapping.Built ∧ overlapping.apply [7, 8, 9, 10] = .ok (some [7, 8, 9, 9, 10]) ∧
      ∃ longer, overlapping.append (.toTheEnd 5) = .ok longer ∧
        longer.apply [7, 8, 9, 10] = .ok none := by
  obtain ⟨⟨-, -, some_iff⟩, joins, -⟩ := apply_concatenates built_overlapping [7, 8, 9, 10]
  have parts : List.Forall₂ (fun slice part => Slice.Takes slice [7, 8, 9, 10] part)
      overlapping.slices [[7, 8, 9], [9, 10], []] :=
    .cons ⟨[], [10], rfl, by decide⟩ <| .cons ⟨[7, 8], [], rfl, by decide⟩ <|
      .cons ⟨[7, 8, 9, 10], [], rfl, by decide⟩ .nil
  refine ⟨built_overlapping, (some_iff _).mpr ⟨_, parts, rfl⟩, _, rfl, ?_⟩
  refine (joins (.toTheEnd 5) _ rfl).none_iff.mpr (.inr fun takes => ?_)
  obtain ⟨positions, resolved⟩ := Slice.exists_takes_iff.mp takes
  cases resolved

end SliceSeries

end PacketFilter
