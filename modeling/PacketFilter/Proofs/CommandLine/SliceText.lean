/-
This file says exactly which texts are slices. Behind a sign an offset has digits only, so what
stands in front of a separator is never mistaken for it: a colon is no part of an offset, and a
hyphen only its first character. The hyphen between two offsets is found behind a first character
of one byte, and the text is cut on both sides of it between two characters, whatever else it
consists of. A slice is read back from what is written for it.
-/

import PacketFilter.CommandLine.SliceText
import PacketFilter.Proofs.CommandLine.Number
import PacketFilter.Proofs.Text.BytePosition

namespace PacketFilter.Slice

open CommandLine Text

/-- The ways in which a text is a slice. -/
inductive IsArgument : List Char → Slice → Prop
  | toTheEnd {start : List Char} {first : Int32} (isStart : IsOffset start first) :
      IsArgument (start ++ [':']) (.toTheEnd first)
  | withLength {start length : List Char} {first count : Int32} (isStart : IsOffset start first)
      (isLength : IsOffset length count) :
      IsArgument (start ++ ':' :: length) (.withLength first count)
  | withEndOffset {start stop : List Char} {first last : Int32} (isStart : IsOffset start first)
      (isStop : IsOffset stop last) : IsArgument (start ++ '-' :: stop) (.withEndOffset first last)
  | single {start : List Char} {first : Int32} (isStart : IsOffset start first) :
      IsArgument start (.withLength first 1)

/-! ### Offsets -/

section

variable {text : String} {letters others : List Char}

theorem readOffsetOf_eq_ok_iff {offset : Int32} :
    readOffsetOf text letters = .ok offset ↔ IsOffset letters offset :=
  mapError_eq_ok.trans readOffset_eq_ok_iff

/-- What is wrong with an offset is an error that names the slice, and no violated contract. -/
theorem refusal_of_readOffsetOf {failure : Failure OffsetError}
    (failed : readOffsetOf text letters = .error failure) :
    ∃ refusal, failure = .error refusal ∧ refusal.slice = text := by
  obtain ⟨cause, -, rfl⟩ := mapError_eq_error.mp failed
  exact ⟨_, rfl, rfl⟩

/-- A slice of one offset that is read. -/
def readOne (text : String) (letters : List Char) (build : Int32 → Slice) :
    Except (Failure OffsetError) Slice :=
  (readOffsetOf text letters).bind fun offset => .ok (build offset)

/-- A slice of two offsets that are read one after the other. -/
def readTwo (text : String) (letters others : List Char) (build : Int32 → Int32 → Slice) :
    Except (Failure OffsetError) Slice :=
  (readOffsetOf text letters).bind fun offset => readOne text others (build offset)

variable {slice : Slice}

theorem readOne_eq_ok {build : Int32 → Slice} :
    readOne text letters build = .ok slice ↔
      ∃ offset, IsOffset letters offset ∧ build offset = slice := by
  simp only [readOne, bind_eq_ok, readOffsetOf_eq_ok_iff, Except.ok.injEq]

theorem readTwo_eq_ok {build : Int32 → Int32 → Slice} :
    readTwo text letters others build = .ok slice ↔
      ∃ offset, IsOffset letters offset ∧
        ∃ other, IsOffset others other ∧ build offset other = slice := by
  simp only [readTwo, bind_eq_ok, readOffsetOf_eq_ok_iff, readOne_eq_ok]

theorem refusal_of_readOne {build : Int32 → Slice} {failure : Failure OffsetError}
    (failed : readOne text letters build = .error failure) :
    ∃ refusal, failure = .error refusal ∧ refusal.slice = text := by
  rcases bind_eq_error.mp failed with first | ⟨_, -, impossible⟩
  · exact refusal_of_readOffsetOf first
  · cases impossible

theorem refusal_of_readTwo {build : Int32 → Int32 → Slice} {failure : Failure OffsetError}
    (failed : readTwo text letters others build = .error failure) :
    ∃ refusal, failure = .error refusal ∧ refusal.slice = text := by
  rcases bind_eq_error.mp failed with first | ⟨_, -, second⟩
  · exact refusal_of_readOffsetOf first
  · exact refusal_of_readOne second

end

/-! ### The four forms -/

section

variable {text : String} {start : List Char}

theorem read_of_toTheEnd (letters : text.toList = start ++ [':']) (noColon : ':' ∉ start) :
    read text = readOne text start toTheEnd := by
  rw [read, letters, splitFirst_of_not_mem noColon]
  rfl

theorem read_of_withLength {length : List Char} (letters : text.toList = start ++ ':' :: length)
    (noColon : ':' ∉ start) (more : length ≠ []) :
    read text = readTwo text start length withLength := by
  rw [read, letters, splitFirst_of_not_mem noColon]
  cases length with
  | nil => exact absurd rfl more
  | cons letter rest => rfl

/-- The hyphen is looked for behind a first character of one byte. -/
theorem hyphenPosition?_eq {first : Char} {behind : List Char}
    (letters : text.toList = first :: behind) (ascii : first.toNat < 0x80) :
    hyphenPosition? text = positionOf? '-' behind := by
  have behindFirst := cutAt?_byteSize [first] behind
  rw [byteSize_singleton, byteCount_eq_one_iff.mpr ascii, List.singleton_append] at behindFirst
  rw [hyphenPosition?, letters, behindFirst]

/-- A text is cut without fault behind any of its characters. -/
theorem cut_eq_ok {before behind : List Char} (letters : text.toList = before ++ behind)
    {position : Nat} (size : byteSize before = position) :
    cut text position = .ok (before, behind) := by
  rw [cut, letters, ← size, cutAt?_byteSize]

/-- The hyphen between two offsets is found behind a first character of one byte, and there the text
can be cut. -/
theorem read_of_withEndOffset {first : Char} {before stop : List Char}
    (letters : text.toList = first :: before ++ '-' :: stop) (noColon : ':' ∉ text.toList)
    (ascii : first.toNat < 0x80) (noHyphen : '-' ∉ before) :
    read text = readTwo text (first :: before) stop withEndOffset := by
  have hyphen : hyphenPosition? text = some (byteSize before) :=
    (hyphenPosition?_eq letters ascii).trans (positionOf?_append noHyphen stop)
  have cutBefore : cut text (byteSize before + 1) = .ok (first :: before, '-' :: stop) := by
    refine cut_eq_ok letters ?_
    rw [byteSize_cons, byteCount_eq_one_iff.mpr ascii, Nat.add_comm]
  have cutBehind : cut text (byteSize before + 2) = .ok (first :: before ++ ['-'], stop) := by
    refine cut_eq_ok (by rw [letters, List.append_assoc, List.singleton_append]) ?_
    rw [byteSize_append, byteSize_cons, byteCount_eq_one_iff.mpr ascii]
    show 1 + byteSize before + 1 = _
    omega
  rw [read, splitFirst_of_absent noColon]
  simp only [hyphen, cutBefore, cutBehind]
  rfl

theorem read_of_no_hyphen (noColon : ':' ∉ text.toList) (noHyphen : hyphenPosition? text = none) :
    read text = readOne text text.toList (withLength · 1) := by
  rw [read, splitFirst_of_absent noColon]
  simp only [noHyphen]
  rfl

/-- Every text has one of the four forms, and is read in that form. -/
theorem read_eq (text : String) :
    (∃ start, text.toList = start ++ [':'] ∧ read text = readOne text start toTheEnd) ∨
    (∃ start length, text.toList = start ++ ':' :: length ∧
      read text = readTwo text start length withLength) ∨
    (∃ start stop, text.toList = start ++ '-' :: stop ∧
      read text = readTwo text start stop withEndOffset) ∨
    read text = readOne text text.toList (withLength · 1) := by
  by_cases colon : ':' ∈ text.toList
  · obtain ⟨start, length, letters, noColon⟩ := List.eq_append_cons_of_mem colon
    cases length with
    | nil => exact .inl ⟨start, letters, read_of_toTheEnd letters noColon⟩
    | cons letter rest =>
      exact .inr (.inl ⟨start, _, letters,
        read_of_withLength letters noColon (List.cons_ne_nil letter rest)⟩)
  · refine .inr (.inr ?_)
    cases hyphen : hyphenPosition? text with
    | none => exact .inr (read_of_no_hyphen colon hyphen)
    | some position =>
      rw [hyphenPosition?] at hyphen
      split at hyphen
      · rename_i front behind cutFirst
        obtain ⟨letters, size⟩ := eq_append_of_cutAt? cutFirst
        obtain ⟨first, rfl, ascii⟩ := exists_ascii_of_byteSize size
        have member : '-' ∈ behind := by
          by_contra absent
          cases (positionOf?_of_not_mem absent).symm.trans hyphen
        obtain ⟨before, stop, rfl, noHyphen⟩ := List.eq_append_cons_of_mem member
        exact .inl ⟨first :: before, stop, letters,
          read_of_withEndOffset letters colon ascii noHyphen⟩
      · cases hyphen

end

/-! ### Reading -/

/-- A text that is not read is refused with an error that names it. -/
theorem refusal_of_read {text : String} {failure : Failure OffsetError}
    (failed : read text = .error failure) :
    ∃ refusal, failure = .error refusal ∧ refusal.slice = text := by
  rcases read_eq text with ⟨_, -, read⟩ | ⟨_, _, -, read⟩ | ⟨_, _, -, read⟩ | read
  · exact refusal_of_readOne (read.symm.trans failed)
  · exact refusal_of_readTwo (read.symm.trans failed)
  · exact refusal_of_readTwo (read.symm.trans failed)
  · exact refusal_of_readOne (read.symm.trans failed)

/-- The slices that are read are those that the text is. -/
theorem read_eq_ok_iff {text : String} {slice : Slice} :
    read text = .ok slice ↔ IsArgument text.toList slice := by
  constructor
  · intro isRead
    rcases read_eq text with
      ⟨_, letters, read⟩ | ⟨_, _, letters, read⟩ | ⟨_, _, letters, read⟩ | read
    · rw [read, readOne_eq_ok] at isRead
      obtain ⟨_, isStart, rfl⟩ := isRead
      exact letters ▸ .toTheEnd isStart
    · rw [read, readTwo_eq_ok] at isRead
      obtain ⟨_, isStart, _, isLength, rfl⟩ := isRead
      exact letters ▸ .withLength isStart isLength
    · rw [read, readTwo_eq_ok] at isRead
      obtain ⟨_, isStart, _, isStop, rfl⟩ := isRead
      exact letters ▸ .withEndOffset isStart isStop
    · rw [read, readOne_eq_ok] at isRead
      obtain ⟨_, isStart, rfl⟩ := isRead
      exact .single isStart
  · intro argument
    generalize letters : text.toList = written at argument
    cases argument with
    | toTheEnd isStart =>
      rw [read_of_toTheEnd letters isStart.colon_not_mem, readOne_eq_ok]
      exact ⟨_, isStart, rfl⟩
    | withLength isStart isLength =>
      rw [read_of_withLength letters isStart.colon_not_mem isLength.ne_nil, readTwo_eq_ok]
      exact ⟨_, isStart, _, isLength, rfl⟩
    | @withEndOffset start stop _ _ isStart isStop =>
      have noColon : ':' ∉ text.toList := by
        simp [letters, isStart.colon_not_mem, isStop.colon_not_mem]
      obtain ⟨first, before, rfl, ascii, -, decimal⟩ := isStart.exists_first
      have noHyphen : '-' ∉ before := fun member => nomatch decimal '-' member
      rw [read_of_withEndOffset letters noColon ascii noHyphen, readTwo_eq_ok]
      exact ⟨_, isStart, _, isStop, rfl⟩
    | single isStart =>
      have noColon : ':' ∉ text.toList := letters ▸ isStart.colon_not_mem
      obtain ⟨first, behind, rfl, ascii, -, decimal⟩ := isStart.exists_first
      have noHyphen : hyphenPosition? text = none :=
        (hyphenPosition?_eq letters ascii).trans
          (positionOf?_of_not_mem fun member => nomatch decimal '-' member)
      rw [read_of_no_hyphen noColon noHyphen, letters, readOne_eq_ok]
      exact ⟨_, isStart, rfl⟩

/-- A text is one slice at most. -/
theorem IsArgument.unique {letters : List Char} {slice other : Slice}
    (argument : IsArgument letters slice) (otherwise : IsArgument letters other) :
    slice = other := by
  have isRead {slice : Slice} (argument : IsArgument letters slice) :
      read (String.ofList letters) = .ok slice :=
    read_eq_ok_iff.mpr (String.toList_ofList.symm ▸ argument)
  exact Except.ok.inj ((isRead argument).symm.trans (isRead otherwise))

/-! ### Writing -/

/-- A slice with what its ending says and nothing that was set before. -/
def plain (slice : Slice) : Slice :=
  match slice.ending with
  | .unset => blank
  | .length => withLength slice.start slice.length
  | .offset => withEndOffset slice.start slice.endOffset
  | .toEnd => toTheEnd slice.start

/-- What is written for a slice is an argument for it. -/
theorem isArgument_text {slice : Slice} (set : slice.ending ≠ .unset) :
    IsArgument slice.text.toList slice.plain := by
  have isStart := isOffset_offsetText slice.start
  unfold text plain
  cases ending : slice.ending with
  | unset => exact absurd ending set
  | length =>
    simp only [String.toList_append, List.append_assoc]
    exact .withLength isStart (isOffset_offsetText slice.length)
  | offset =>
    simp only [String.toList_append, List.append_assoc]
    exact .withEndOffset isStart (isOffset_offsetText slice.endOffset)
  | toEnd =>
    simp only [String.toList_append]
    exact .toTheEnd isStart

/-- What a slice without old settings keeps. -/
theorem plain_spec {slice : Slice} (set : slice.ending ≠ .unset) :
    slice.plain.ending = slice.ending ∧ slice.plain.start = slice.start ∧
      (slice.ending = .length → slice.plain.length = slice.length) ∧
      (slice.ending = .offset → slice.plain.endOffset = slice.endOffset) := by
  unfold plain
  cases ending : slice.ending with
  | unset => exact absurd ending set
  | length => exact ⟨rfl, rfl, fun _ => rfl, nofun⟩
  | offset => exact ⟨rfl, rfl, nofun, fun _ => rfl⟩
  | toEnd => exact ⟨rfl, rfl, nofun, nofun⟩

/-- A text is read as a slice exactly if it is one of the four forms with offsets in their places,
and as the slice of that form, of which there is one at most. Every other text is refused with an
error that names it, and no text is a fault. What is written for a slice whose ending is set is
read as a slice with that ending, the same start and the same length or end offset. -/
theorem read_argument :
    (∀ text slice, read text = .ok slice ↔ IsArgument text.toList slice) ∧
    (∀ letters slice other, IsArgument letters slice → IsArgument letters other → slice = other) ∧
    (∀ text, (¬∃ slice, IsArgument text.toList slice) →
      ∃ refusal : OffsetError, read text = .error (.error refusal) ∧ refusal.slice = text) ∧
    (∀ text fault, read text ≠ .error (.fault fault)) ∧
    ∀ slice : Slice, slice.ending ≠ .unset →
      ∃ again, read slice.text = .ok again ∧ again.ending = slice.ending ∧
        again.start = slice.start ∧ (slice.ending = .length → again.length = slice.length) ∧
        (slice.ending = .offset → again.endOffset = slice.endOffset) := by
  refine ⟨fun text slice => read_eq_ok_iff, fun _ _ _ => IsArgument.unique, fun text other => ?_,
    fun text fault faulty => ?_,
    fun slice set => ⟨slice.plain, read_eq_ok_iff.mpr (isArgument_text set), plain_spec set⟩⟩
  · cases outcome : read text with
    | ok slice => exact absurd ⟨slice, read_eq_ok_iff.mp outcome⟩ other
    | error failure =>
      obtain ⟨refusal, rfl, same⟩ := refusal_of_read outcome
      exact ⟨refusal, rfl, same⟩
  · obtain ⟨_, impossible, -⟩ := refusal_of_read faulty
    cases impossible

/-- A hyphen is a sign in front of an offset and behind another hyphen, and no separator is looked
for behind a first character of two bytes. The length that was set before the end offset is not
written. -/
theorem read_argument_signed :
    IsArgument "-4--1".toList (.withEndOffset (-4) (-1)) ∧
    IsArgument "-3".toList (.withLength (-3) 1) ∧
    (¬∃ slice, IsArgument "é-1".toList slice) ∧
    (∃ refusal : OffsetError, read "é-1" = .error (.error refusal) ∧ refusal.slice = "é-1") ∧
    ((withLength (-4) 7).setEndOffset (-1)).ending ≠ .unset ∧
    ∃ again, read ((withLength (-4) 7).setEndOffset (-1)).text = .ok again ∧
      again.ending = .offset ∧
      again.start = -4 ∧ again.endOffset = -1 := by
  obtain ⟨reads, -, refused, -, written⟩ := read_argument
  have noArgument : ¬∃ slice, IsArgument "é-1".toList slice := by
    rintro ⟨slice, argument⟩
    have failed : read "é-1" = .error (.error ⟨"é-1", "é-1", .invalidDigit⟩) := by decide
    cases failed.symm.trans ((reads _ _).mpr argument)
  obtain ⟨again, isRead, ending, start, -, endOffset⟩ :=
    written ((withLength (-4) 7).setEndOffset (-1)) (by decide)
  exact ⟨(reads _ _).mp (by decide), (reads _ _).mp (by decide), noArgument, refused _ noArgument,
    by decide, again, isRead, ending, start, endOffset rfl⟩

end PacketFilter.Slice
