/-
This file shows that the slices of a series are told from its text, if each of them was made in one
of the three ways. A slice is read back from its text, which consists of digits, signs and colons.
So the commas in the text of a series are those between its slices.
-/

import PacketFilter.Proofs.CommandLine.SliceText
import PacketFilter.Proofs.Slice.Concatenation

namespace PacketFilter

open CommandLine Text

namespace Slice

/-- A slice that was made with its ending, and not set again. -/
inductive IsPlain : Slice → Prop
  | withLength (start length : Int32) : IsPlain (.withLength start length)
  | withEndOffset (start endOffset : Int32) : IsPlain (.withEndOffset start endOffset)
  | toTheEnd (start : Int32) : IsPlain (.toTheEnd start)

variable {slice : Slice}

theorem IsPlain.isArgument_text (isPlain : slice.IsPlain) : IsArgument slice.text.toList slice := by
  cases isPlain with
  | withLength start length => exact @Slice.isArgument_text (.withLength start length) nofun
  | withEndOffset start endOffset =>
    exact @Slice.isArgument_text (.withEndOffset start endOffset) nofun
  | toTheEnd start => exact @Slice.isArgument_text (.toTheEnd start) nofun

theorem IsPlain.read_text (isPlain : slice.IsPlain) : read slice.text = .ok slice :=
  read_eq_ok_iff.mpr isPlain.isArgument_text

/-! ### The characters of a slice -/

/-- Whether a character can stand in a slice. -/
def isSliceLetter (letter : Char) : Bool :=
  isDecimal letter || letter = '+' || letter = '-' || letter = ':'

variable {letters : List Char}

theorem isSliceLetter_of_mem_offset {offset : Int32} (isOffset : IsOffset letters offset) :
    ∀ letter ∈ letters, isSliceLetter letter = true := by
  obtain ⟨sign, digits, size, rfl, denotes, -⟩ := isOffset
  intro letter member
  rcases List.mem_append.mp member with inSign | inDigits
  · rcases SignForm.eq_of_mem_letters inSign with rfl | rfl <;> rfl
  · rw [isSliceLetter, isDecimal_of_denotes denotes letter inDigits]
    rfl

theorem IsArgument.isSliceLetter_of_mem (argument : IsArgument letters slice) :
    ∀ letter ∈ letters, isSliceLetter letter = true := by
  cases argument with
  | toTheEnd isStart =>
    exact List.forall_mem_append.mpr ⟨isSliceLetter_of_mem_offset isStart,
      List.forall_mem_singleton.mpr rfl⟩
  | withLength isStart isLength =>
    exact List.forall_mem_append.mpr ⟨isSliceLetter_of_mem_offset isStart,
      List.forall_mem_cons.mpr ⟨rfl, isSliceLetter_of_mem_offset isLength⟩⟩
  | withEndOffset isStart isStop =>
    exact List.forall_mem_append.mpr ⟨isSliceLetter_of_mem_offset isStart,
      List.forall_mem_cons.mpr ⟨rfl, isSliceLetter_of_mem_offset isStop⟩⟩
  | single isStart => exact isSliceLetter_of_mem_offset isStart

theorem IsArgument.ne_nil (argument : IsArgument letters slice) : letters ≠ [] := by
  cases argument with
  | toTheEnd | withLength | withEndOffset => exact List.append_ne_nil_of_right_ne_nil _ nofun
  | single isStart => exact isStart.ne_nil

end Slice

namespace SliceSeries

/-! ### The characters of a series -/

/-- The texts of the slices of a series. -/
def rows (series : SliceSeries) : List (List Char) :=
  series.slices.map fun slice => slice.text.toList

theorem toList_text (series : SliceSeries) :
    series.text.toList = [','].intercalate series.rows := by
  rw [text, String.toList_intercalate, List.map_map]
  rfl

/-- Nothing but commas stands between rows. -/
theorem eq_comma_or_exists_row {letter : Char} :
    (rows : List (List Char)) → letter ∈ [','].intercalate rows →
      letter = ',' ∨ ∃ row ∈ rows, letter ∈ row
  | [], member => by cases member
  | [row], member => by
    rw [List.intercalate_singleton] at member
    exact .inr ⟨row, List.mem_cons_self, member⟩
  | row :: next :: rest, member => by
    rw [List.intercalate_cons_cons, List.mem_append, List.mem_append, List.mem_singleton] at member
    rcases member with (inRow | comma) | behind
    · exact .inr ⟨row, List.mem_cons_self, inRow⟩
    · exact .inl comma
    · exact (eq_comma_or_exists_row (next :: rest) behind).imp_right fun ⟨row, inRows, inRow⟩ =>
        ⟨row, List.mem_cons_of_mem _ inRows, inRow⟩

section

variable {series : SliceSeries} (plain : ∀ slice ∈ series.slices, slice.IsPlain)

include plain

/-- Each slice is some text without a comma. -/
theorem isSliceLetter_of_mem_rows :
    ∀ row ∈ series.rows, row ≠ [] ∧ ∀ letter ∈ row, Slice.isSliceLetter letter = true := by
  refine List.forall_mem_map.mpr fun slice member => ?_
  have argument := (plain slice member).isArgument_text
  exact ⟨argument.ne_nil, argument.isSliceLetter_of_mem⟩

/-- Only digits, signs, colons and commas stand in a series. -/
theorem isSliceLetter_or_comma {letter : Char} (member : letter ∈ series.text.toList) :
    Slice.isSliceLetter letter = true ∨ letter = ',' := by
  rw [toList_text] at member
  rcases eq_comma_or_exists_row _ member with comma | ⟨row, inRows, inRow⟩
  · exact .inr comma
  · exact .inl ((isSliceLetter_of_mem_rows plain row inRows).2 letter inRow)

/-- The slices are what their texts are read as. -/
theorem map_read_rows :
    series.rows.map (fun row => Slice.read (String.ofList row)) = series.slices.map .ok := by
  rw [rows, List.map_map]
  refine List.map_congr_left fun slice member => ?_
  rw [Function.comp_apply, String.ofList_toList, (plain slice member).read_text]

end

/-- Rows that are not empty are told from what they are with commas between them. -/
theorem eq_of_intercalate {left right : List (List Char)}
    (leftRows : ∀ row ∈ left, row ≠ [] ∧ ',' ∉ row)
    (rightRows : ∀ row ∈ right, row ≠ [] ∧ ',' ∉ row)
    (same : [','].intercalate left = [','].intercalate right) : left = right := by
  have empty {rows : List (List Char)} (nonempty : ∀ row ∈ rows, row ≠ [] ∧ ',' ∉ row)
      (nothing : [','].intercalate rows = []) : rows = [] := by
    match rows with
    | [] => rfl
    | [row] =>
      rw [List.intercalate_singleton] at nothing
      exact absurd nothing (nonempty row List.mem_cons_self).1
    | row :: next :: rest =>
      rw [List.intercalate_cons_cons] at nothing
      simp at nothing
  by_cases left_nil : left = []
  · subst left_nil
    exact (empty rightRows same.symm).symm
  · have right_ne_nil : right ≠ [] := by
      rintro rfl
      exact left_nil (empty leftRows same)
    rw [← List.splitOn_intercalate ',' (fun row member => (leftRows row member).2) left_nil, same,
      List.splitOn_intercalate ',' (fun row member => (rightRows row member).2) right_ne_nil]

/-- A series keeps the slices that it is made of. -/
theorem isPlain_of_ofSlices {series : SliceSeries} {slices : List Slice}
    (plain : ∀ slice ∈ slices, slice.IsPlain) (made : ofSlices slices = .ok series) :
    ∀ slice ∈ series.slices, slice.IsPlain := by
  have same : series.slices = slices := slices_of_ofSlices made
  rwa [same]

/-- A series is told from its text. -/
theorem slices_eq_of_text_eq {left right : SliceSeries}
    (leftPlain : ∀ slice ∈ left.slices, slice.IsPlain)
    (rightPlain : ∀ slice ∈ right.slices, slice.IsPlain) (same : left.text = right.text) :
    left.slices = right.slices := by
  have separated {series : SliceSeries} (plain : ∀ slice ∈ series.slices, slice.IsPlain) :
      ∀ row ∈ series.rows, row ≠ [] ∧ ',' ∉ row := fun row member =>
    have ⟨nonempty, letters⟩ := isSliceLetter_of_mem_rows plain row member
    ⟨nonempty, fun comma => nomatch letters ',' comma⟩
  have sameRows : left.rows = right.rows := by
    refine eq_of_intercalate (separated leftPlain) (separated rightPlain) ?_
    rw [← toList_text, ← toList_text, same]
  have sameSlices := map_read_rows leftPlain
  rw [sameRows, map_read_rows rightPlain] at sameSlices
  exact ((List.map_inj_right fun _ _ => Except.ok.inj).mp sameSlices).symm

/-- Series of given slices are equal if their texts are. -/
theorem eq_of_text_eq {left right : SliceSeries} {leftSlices rightSlices : List Slice}
    (leftPlain : ∀ slice ∈ leftSlices, slice.IsPlain)
    (rightPlain : ∀ slice ∈ rightSlices, slice.IsPlain) (leftMade : ofSlices leftSlices = .ok left)
    (rightMade : ofSlices rightSlices = .ok right) (same : left.text = right.text) :
    left = right := by
  have leftSame : left.slices = leftSlices := slices_of_ofSlices leftMade
  have rightSame : right.slices = rightSlices := slices_of_ofSlices rightMade
  have sameSlices := slices_eq_of_text_eq (leftSame ▸ leftPlain) (rightSame ▸ rightPlain) same
  rw [leftSame, rightSame] at sameSlices
  rw [sameSlices, rightMade] at leftMade
  exact (Except.ok.inj leftMade).symm

end SliceSeries

end PacketFilter
