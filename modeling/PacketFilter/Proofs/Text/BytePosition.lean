/-
This file says which places of a text are found by their bytes. A text is cut at a position exactly
if the characters in front of it take as many bytes, and the position of a character is that of its
first occurrence. So a text can be cut where a character is found, and behind it.
-/

import PacketFilter.Proofs.Text.Utf8

namespace PacketFilter.Text

/-! ### Sizes -/

/-- How many bytes some characters take. -/
def byteSize (letters : List Char) : Nat :=
  (letters.flatMap encodeCharacter).length

theorem byteSize_cons (letter : Char) (rest : List Char) :
    byteSize (letter :: rest) = byteCount letter + byteSize rest := by
  rw [byteSize, List.flatMap_cons, List.length_append]
  rfl

theorem byteSize_append (before behind : List Char) :
    byteSize (before ++ behind) = byteSize before + byteSize behind := by
  rw [byteSize, List.flatMap_append, List.length_append]
  rfl

/-- Exactly the ASCII characters take a single byte. -/
theorem byteCount_eq_one_iff {letter : Char} : byteCount letter = 1 ↔ letter.toNat < 0x80 := by
  constructor
  · intro single
    refine Nat.lt_of_not_le fun large => ?_
    obtain ⟨byte, rest, encoded, -, more⟩ := exists_leadByte large
    rw [byteCount, encoded, List.length_cons] at single
    exact more (List.eq_nil_of_length_eq_zero (Nat.succ.inj single))
  · intro ascii
    rw [byteCount, encodeCharacter_of_lt ascii, List.length_singleton]

theorem byteCount_pos (letter : Char) : 0 < byteCount letter := by
  by_cases ascii : letter.toNat < 0x80
  · rw [byteCount_eq_one_iff.mpr ascii]
    exact Nat.one_pos
  · obtain ⟨byte, rest, encoded, -, -⟩ := exists_leadByte (Nat.le_of_not_lt ascii)
    rw [byteCount, encoded]
    exact Nat.succ_pos _

theorem byteSize_singleton (letter : Char) : byteSize [letter] = byteCount letter := by
  rw [byteSize, List.flatMap_singleton, byteCount]

/-- Characters that take a single byte are one ASCII character. -/
theorem exists_ascii_of_byteSize {letters : List Char} (single : byteSize letters = 1) :
    ∃ letter, letters = [letter] ∧ letter.toNat < 0x80 := by
  match letters with
  | [] => cases single
  | [letter] =>
    rw [byteSize_singleton] at single
    exact ⟨letter, rfl, byteCount_eq_one_iff.mp single⟩
  | letter :: next :: rest =>
    have first := byteCount_pos letter
    have second := byteCount_pos next
    rw [byteSize_cons, byteSize_cons] at single
    omega

/-! ### Cutting -/

theorem cutAt?_zero (letters : List Char) : cutAt? 0 letters = some ([], letters) := by
  cases letters <;> rfl

/-- A text can be cut behind any of its characters. -/
theorem cutAt?_byteSize (before behind : List Char) :
    cutAt? (byteSize before) (before ++ behind) = some (before, behind) := by
  induction before with
  | nil => exact cutAt?_zero behind
  | cons letter rest inductionHypothesis =>
    have positive := byteCount_pos letter
    obtain ⟨position, size⟩ := Nat.exists_eq_succ_of_ne_zero
      (by omega : byteCount letter + byteSize rest ≠ 0)
    have others : position + 1 - byteCount letter = byteSize rest := by omega
    rw [byteSize_cons, size, Nat.succ_eq_add_one, List.cons_append, cutAt?, if_neg (by omega),
      others, inductionHypothesis]
    rfl

/-- A text is cut between two characters, and the position counts the bytes of the first part. -/
theorem eq_append_of_cutAt? {position : Nat} {letters before behind : List Char}
    (cut : cutAt? position letters = some (before, behind)) :
    letters = before ++ behind ∧ byteSize before = position := by
  induction letters generalizing position before with
  | nil =>
    cases position with
    | zero =>
      cases cut
      exact ⟨rfl, rfl⟩
    | succ position => cases cut
  | cons letter rest inductionHypothesis =>
    cases position with
    | zero =>
      cases cut
      exact ⟨rfl, rfl⟩
    | succ position =>
      rw [cutAt?] at cut
      split at cut
      · cases cut
      · obtain ⟨⟨others, last⟩, cutOthers, same⟩ := Option.map_eq_some_iff.mp cut
        cases same
        obtain ⟨rfl, size⟩ := inductionHypothesis cutOthers
        rw [byteSize_cons]
        exact ⟨rfl, by omega⟩

/-! ### Finding a character -/

/-- The position of a character counts the bytes in front of its first occurrence. -/
theorem positionOf?_append {wanted : Char} {before : List Char} (absent : wanted ∉ before)
    (behind : List Char) :
    positionOf? wanted (before ++ wanted :: behind) = some (byteSize before) := by
  induction before with
  | nil => exact if_pos rfl
  | cons letter rest inductionHypothesis =>
    rw [List.mem_cons, not_or] at absent
    rw [List.cons_append, positionOf?, if_neg (Ne.symm absent.1), inductionHypothesis absent.2,
      byteSize_cons]
    rfl

theorem positionOf?_of_not_mem {wanted : Char} {letters : List Char} (absent : wanted ∉ letters) :
    positionOf? wanted letters = none := by
  induction letters with
  | nil => rfl
  | cons letter rest inductionHypothesis =>
    rw [List.mem_cons, not_or] at absent
    rw [positionOf?, if_neg (Ne.symm absent.1), inductionHypothesis absent.2]
    rfl

end PacketFilter.Text
