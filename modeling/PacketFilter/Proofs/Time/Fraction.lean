/-
This file says which texts are fractions of a second, and how many nanoseconds they denote: as many
as the number of their digits with zeros behind it, up to nine digits.
-/

import PacketFilter.Proofs.Text.Digits
import PacketFilter.Time.Basic

namespace PacketFilter

open Text

namespace NanoTime

/-- Whether a text is a fraction of a second: one to nine digits. -/
def IsFraction (letters : List Char) : Prop :=
  1 ≤ letters.length ∧ letters.length ≤ 9 ∧ ∀ letter ∈ letters, isDecimal letter = true

instance : DecidablePred IsFraction :=
  fun _ => inferInstanceAs (Decidable (_ ∧ _ ∧ _))

/-- The nanoseconds that the digits behind a point denote. -/
def fractionNanoseconds (letters : List Char) : Nat :=
  Nat.ofDigitChars 10 letters 0 * Nat.pow 10 (9 - letters.length)

variable {letters : List Char} {nanoseconds : Nat}

/-- The fractions are read, and as the nanoseconds that they denote. -/
theorem readFraction?_eq_some_iff :
    readFraction? letters = some nanoseconds ↔
      IsFraction letters ∧ nanoseconds = fractionNanoseconds letters := by
  unfold readFraction? IsFraction fractionNanoseconds
  rw [Nat.succ_le_iff, List.length_pos_iff]
  split
  · rename_i short
    rw [Option.map_eq_some_iff]
    constructor
    · rintro ⟨number, isNumber, rfl⟩
      obtain ⟨nonempty, decimal, rfl⟩ := natOfDigits?_eq_some_iff.mp isNumber
      exact ⟨⟨nonempty, short, decimal⟩, rfl⟩
    · rintro ⟨⟨nonempty, -, decimal⟩, rfl⟩
      exact ⟨_, natOfDigits?_eq_some_iff.mpr ⟨nonempty, decimal, rfl⟩, rfl⟩
  · rename_i long
    exact iff_of_false nofun fun read => long read.1.2.1

theorem isFraction_of_readFraction? (read : readFraction? letters = some nanoseconds) :
    IsFraction letters :=
  (readFraction?_eq_some_iff.mp read).1

/-- Up to nine digits behind a point denote less than a second. -/
theorem fractionNanoseconds_lt (short : letters.length ≤ 9)
    (decimal : ∀ letter ∈ letters, isDecimal letter = true) :
    fractionNanoseconds letters < 1000000000 :=
  calc Nat.ofDigitChars 10 letters 0 * Nat.pow 10 (9 - letters.length)
    _ < Nat.pow 10 letters.length * Nat.pow 10 (9 - letters.length) :=
      Nat.mul_lt_mul_of_pos_right (ofDigitChars_lt decimal) (Nat.pow_pos (by decide))
    _ = Nat.pow 10 (letters.length + (9 - letters.length)) := (Nat.pow_add ..).symm
    _ = 1000000000 := by rw [Nat.add_sub_cancel' short]

theorem optionalNanoseconds_lt {fraction? : Option (List Char)}
    (each : ∀ digits, fraction? = some digits →
      digits.length ≤ 9 ∧ ∀ letter ∈ digits, isDecimal letter = true) :
    (fraction?.map fractionNanoseconds).getD 0 < 1000000000 := by
  cases fraction? with
  | none => decide
  | some digits =>
    obtain ⟨short, decimal⟩ := each digits rfl
    exact fractionNanoseconds_lt short decimal

theorem readFraction?_lt (read : readFraction? letters = some nanoseconds) :
    nanoseconds < 1000000000 := by
  obtain ⟨⟨-, short, decimal⟩, rfl⟩ := readFraction?_eq_some_iff.mp read
  exact fractionNanoseconds_lt short decimal

end NanoTime

end PacketFilter
