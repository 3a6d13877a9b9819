/-
This file says exactly which rows of characters are offsets: a sign or none and digits, of a number
of 32 bits. What an offset is written as is one of them.
-/

import PacketFilter.CommandLine.SliceText
import PacketFilter.Proofs.Outcome
import PacketFilter.Proofs.Text.WholeNumber

namespace PacketFilter.CommandLine

open Text

/-- Whether a row of characters is an offset: a sign, which may be left out, and digits. -/
def IsOffset (letters : List Char) (offset : Int32) : Prop :=
  ∃ (sign : SignForm) (digits : List Char) (size : Nat), letters = sign.letters ++ digits ∧
    Denotes 10 digits size ∧ offset.toInt = if sign.negative then -(size : Int) else size

section

variable {letters : List Char} {offset : Int32}

/-! ### Reading -/

/-- Digits without a minus sign are read as the number that they denote. -/
theorem readMagnitude_map_ofNat_iff :
    (readMagnitude 10 (Nat.pow 2 31 - 1) .tooLarge letters).map Int32.ofNat = .ok offset ↔
      ∃ size, Denotes 10 letters size ∧ offset.toInt = size := by
  have atMost := offset.toInt_lt
  have limit : Nat.pow 2 31 - 1 = 2147483647 := by decide
  simp only [map_eq_ok, readMagnitude_eq_ok_iff (by decide : 0 < 10),
    natOfDigits?_eq_some_iff_denotes (by decide : 10 ≤ 16)]
  constructor
  · rintro ⟨size, ⟨denotes, fits⟩, rfl⟩
    exact ⟨size, denotes, Int32.toInt_ofNat_of_lt (by omega)⟩
  · rintro ⟨size, denotes, same⟩
    refine ⟨size, ⟨denotes, by omega⟩, Int32.toInt_inj.mp ?_⟩
    rw [same, Int32.toInt_ofNat_of_lt (by omega)]

/-- Digits behind a minus sign are read as the negative of the number that they denote. -/
theorem readMagnitude_map_neg_iff :
    ((readMagnitude 10 (Nat.pow 2 31) .tooSmall letters).map fun (number : Nat) =>
        Int32.ofInt (-number)) = .ok offset ↔
      ∃ size, Denotes 10 letters size ∧ offset.toInt = -(size : Int) := by
  have atLeast := offset.le_toInt
  have limit : Nat.pow 2 31 = 2147483648 := by decide
  simp only [map_eq_ok, readMagnitude_eq_ok_iff (by decide : 0 < 10),
    natOfDigits?_eq_some_iff_denotes (by decide : 10 ≤ 16)]
  constructor
  · rintro ⟨size, ⟨denotes, fits⟩, rfl⟩
    exact ⟨size, denotes, Int32.toInt_ofInt_of_le (by omega) (by omega)⟩
  · rintro ⟨size, denotes, same⟩
    refine ⟨size, ⟨denotes, by omega⟩, Int32.toInt_inj.mp ?_⟩
    rw [same, Int32.toInt_ofInt_of_le (by omega) (by omega)]

theorem isDecimal_of_denotes {number : Nat} (denotes : Denotes 10 letters number) :
    ∀ letter ∈ letters, isDecimal letter = true :=
  have read := (natOfDigits?_eq_some_iff_denotes (by decide : 10 ≤ 16)).mpr denotes
  (isDecimal_of_natOfDigits? read).2

/-- An offset is read from exactly the rows of characters that are one. -/
theorem readOffset_eq_ok_iff : readOffset letters = .ok offset ↔ IsOffset letters offset := by
  constructor
  · intro read
    unfold readOffset at read
    split at read
    · cases read
    · obtain ⟨size, denotes, same⟩ := readMagnitude_map_ofNat_iff.mp read
      exact ⟨.plus, _, size, rfl, denotes, same⟩
    · obtain ⟨size, denotes, same⟩ := readMagnitude_map_neg_iff.mp read
      exact ⟨.minus, _, size, rfl, denotes, same⟩
    · obtain ⟨size, denotes, same⟩ := readMagnitude_map_ofNat_iff.mp read
      exact ⟨.absent, _, size, rfl, denotes, same⟩
  · rintro ⟨sign, digits, size, rfl, denotes, same⟩
    cases sign with
    | plus => exact readMagnitude_map_ofNat_iff.mpr ⟨size, denotes, same⟩
    | minus => exact readMagnitude_map_neg_iff.mpr ⟨size, denotes, same⟩
    | absent =>
      have decimal := isDecimal_of_denotes denotes
      show readOffset digits = .ok offset
      unfold readOffset
      split
      · exact absurd rfl denotes.1
      · cases decimal '+' List.mem_cons_self
      · cases decimal '-' List.mem_cons_self
      · exact readMagnitude_map_ofNat_iff.mpr ⟨size, denotes, same⟩

/-! ### The characters of an offset -/

/-- An offset has an ASCII character in front, a digit or a sign, and digits behind it. -/
theorem IsOffset.exists_first (isOffset : IsOffset letters offset) :
    ∃ first rest, letters = first :: rest ∧ first.toNat < 0x80 ∧ first ≠ ':' ∧
      ∀ letter ∈ rest, isDecimal letter = true := by
  obtain ⟨sign, digits, size, rfl, denotes, -⟩ := isOffset
  have decimal := isDecimal_of_denotes denotes
  cases sign with
  | plus => exact ⟨'+', digits, rfl, by decide, by decide, decimal⟩
  | minus => exact ⟨'-', digits, rfl, by decide, by decide, decimal⟩
  | absent =>
    cases digits with
    | nil => exact absurd rfl denotes.1
    | cons first rest =>
      obtain ⟨firstDecimal, others⟩ := List.forall_mem_cons.mp decimal
      refine ⟨first, rest, rfl, ?_, ?_, others⟩
      · simp only [isDecimal, Bool.and_eq_true, decide_eq_true_eq] at firstDecimal
        have atMost : first.toNat ≤ 57 := firstDecimal.2
        omega
      · rintro rfl
        cases firstDecimal

theorem IsOffset.ne_nil (isOffset : IsOffset letters offset) : letters ≠ [] := by
  obtain ⟨first, rest, rfl, -⟩ := isOffset.exists_first
  exact List.cons_ne_nil first rest

theorem IsOffset.colon_not_mem (isOffset : IsOffset letters offset) : ':' ∉ letters := by
  obtain ⟨first, rest, rfl, -, noColon, decimal⟩ := isOffset.exists_first
  rintro (_ | ⟨_, member⟩)
  · exact noColon rfl
  · cases decimal ':' member

end

/-! ### Writing -/

/-- The text of an offset is one that it is read from. -/
theorem isOffset_offsetText (offset : Int32) :
    IsOffset (Slice.offsetText offset).toList offset := by
  have denotes := denotes_toDigits (by decide : 1 < 10) (by decide : 10 ≤ 16) offset.toInt.natAbs
  unfold Slice.offsetText intText
  by_cases negative : offset.toInt < 0
  · simp only [if_pos negative, String.toList_append, natText, String.toList_ofList]
    refine ⟨.minus, decimalDigits _, _, rfl, denotes, ?_⟩
    show offset.toInt = -(offset.toInt.natAbs : Int)
    omega
  · rw [if_neg negative, natText, String.toList_ofList]
    refine ⟨.absent, decimalDigits _, _, rfl, denotes, ?_⟩
    show offset.toInt = (offset.toInt.natAbs : Int)
    omega

end PacketFilter.CommandLine
