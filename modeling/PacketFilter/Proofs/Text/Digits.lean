/-
This file shows that a number written in decimal digits is read back, whatever zeros stand in
front of it, and that its digits are all there is in its text. A row of digits, as of characters of
any kind, ends where something else begins.
-/

import Mathlib.Algebra.Order.Ring.Rat
import Mathlib.Tactic.Positivity
import PacketFilter.Proofs.Outcome
import PacketFilter.Text.Digits

namespace PacketFilter.Text

/-! ### Rows of one kind -/

/-- Characters of a kind at the front end where one of another kind or nothing follows. -/
theorem takeWhile_append_of_head? {test : Char → Bool} {front rest : List Char}
    (holds : ∀ letter ∈ front, test letter = true)
    (stops : ∀ letter ∈ rest.head?, test letter = false) :
    (front ++ rest).takeWhile test = front ∧ (front ++ rest).dropWhile test = rest := by
  rw [List.takeWhile_append_of_pos holds, List.dropWhile_append_of_pos holds]
  cases rest with
  | nil => exact ⟨List.append_nil _, rfl⟩
  | cons letter others =>
    have ends : ¬test letter = true := by simp [stops letter rfl]
    rw [List.takeWhile_cons_of_neg ends, List.dropWhile_cons_of_neg ends, List.append_nil]
    exact ⟨rfl, rfl⟩

/-- Characters of a kind at the front are told from those behind them. -/
theorem eq_of_append_of_head? {test : Char → Bool} {front otherFront rest otherRest : List Char}
    (holds : ∀ letter ∈ front, test letter = true)
    (otherHolds : ∀ letter ∈ otherFront, test letter = true)
    (stops : ∀ letter ∈ rest.head?, test letter = false)
    (otherStops : ∀ letter ∈ otherRest.head?, test letter = false)
    (same : front ++ rest = otherFront ++ otherRest) : front = otherFront ∧ rest = otherRest := by
  obtain ⟨isFront, isRest⟩ := takeWhile_append_of_head? holds stops
  obtain ⟨isOtherFront, isOtherRest⟩ := takeWhile_append_of_head? otherHolds otherStops
  rw [same] at isFront isRest
  exact ⟨isFront.symm.trans isOtherFront, isRest.symm.trans isOtherRest⟩

/-! ### Reading digits -/

/-- Whether a text consists of digits is decided by looking at each of its characters. -/
instance decidableForallIsDecimal (letters : List Char) :
    Decidable (∀ letter ∈ letters, isDecimal letter = true) :=
  decidable_of_iff (letters.all isDecimal = true) List.all_eq_true

theorem digitIn?_of_isDecimal {letter : Char} (decimal : isDecimal letter = true) :
    digitIn? 10 letter = some (letter.toNat - '0'.toNat) := by
  simp only [isDecimal, Bool.and_eq_true, decide_eq_true_eq] at decimal
  have bound : letter.toNat ≤ 57 := decimal.2
  have small : letter.toNat - '0'.toNat < 10 := by
    show letter.toNat - 48 < 10
    omega
  unfold digitIn? digitValue?
  rw [if_pos decimal, Option.filter_some, if_pos (decide_eq_true small)]

/-- Only the decimal digits are digits of base ten. -/
theorem isDecimal_of_digitIn? {letter : Char} {digit : Nat}
    (read : digitIn? 10 letter = some digit) : isDecimal letter = true := by
  obtain ⟨value, small⟩ := Option.filter_eq_some_iff.mp read
  rw [decide_eq_true_eq] at small
  unfold digitValue? at value
  split at value
  · rename_i decimal
    rw [isDecimal, Bool.and_eq_true, decide_eq_true_eq, decide_eq_true_eq]
    exact decimal
  · -- a letter counts at least ten
    split at value
    · cases value
      omega
    · split at value
      · cases value
        omega
      · cases value

theorem mapM_digitIn? {letters : List Char}
    (decimal : ∀ letter ∈ letters, isDecimal letter = true) :
    letters.mapM (digitIn? 10) = some (letters.map fun letter => letter.toNat - '0'.toNat) := by
  induction letters with
  | nil => rfl
  | cons letter rest inductionHypothesis =>
    have first := digitIn?_of_isDecimal (decimal letter List.mem_cons_self)
    have others := inductionHypothesis fun other inRest =>
      decimal other (List.mem_cons_of_mem _ inRest)
    simp [List.mapM_cons, first, others]

/-- A row of decimal digits denotes a number. -/
theorem natOfDigits?_of_isDecimal {letters : List Char} (nonempty : letters ≠ [])
    (decimal : ∀ letter ∈ letters, isDecimal letter = true) :
    natOfDigits? 10 letters = some (Nat.ofDigitChars 10 letters 0) := by
  unfold natOfDigits? numberOfDigits
  rw [if_neg (by simpa using nonempty), mapM_digitIn? decimal, Option.map_some,
    Nat.ofDigitChars_eq_foldl, List.foldl_map]
  simp only [Nat.mul_comm]

/-- A number is smaller than the power of the base for its count of digits. -/
theorem foldl_digits_lt {base : Nat} {digits : List Nat} (lt : ∀ digit ∈ digits, digit < base)
    (number : Nat) :
    digits.foldl (fun number digit => number * base + digit) number <
      (number + 1) * Nat.pow base digits.length := by
  induction digits generalizing number with
  | nil => exact Nat.lt_of_lt_of_eq (Nat.lt_succ_self number) (Nat.mul_one _).symm
  | cons digit rest inductionHypothesis =>
    have first : digit < base := lt digit List.mem_cons_self
    have restLt : ∀ other ∈ rest, other < base :=
      fun other inRest => lt other (List.mem_cons_of_mem _ inRest)
    have others := inductionHypothesis restLt (number * base + digit)
    have step : number * base + digit + 1 ≤ (number + 1) * base := by
      rw [Nat.succ_mul]
      omega
    calc rest.foldl (fun number digit => number * base + digit) (number * base + digit)
      _ < (number * base + digit + 1) * Nat.pow base rest.length := others
      _ ≤ (number + 1) * base * Nat.pow base rest.length := Nat.mul_le_mul_right _ step
      _ = (number + 1) * (Nat.pow base rest.length * base) := by
        rw [Nat.mul_assoc, Nat.mul_comm base]

/-- A row of digit characters gives as many digits of the base. -/
theorem length_and_lt_of_mapM_digitIn? {base : Nat} {letters : List Char} {digits : List Nat}
    (read : letters.mapM (digitIn? base) = some digits) :
    digits.length = letters.length ∧ ∀ digit ∈ digits, digit < base := by
  induction letters generalizing digits with
  | nil =>
    cases read
    exact ⟨rfl, nofun⟩
  | cons letter rest inductionHypothesis =>
    obtain ⟨first, others, isFirst, areOthers, rfl⟩ := mapM_cons_eq_some.mp read
    obtain ⟨length, lt⟩ := inductionHypothesis areOthers
    exact ⟨congrArg (· + 1) length, List.forall_mem_cons.mpr ⟨digitIn?_lt isFirst, lt⟩⟩

/-- Each character of a row of digits is one. -/
theorem exists_digitIn?_of_mapM {base : Nat} {letters : List Char} {digits : List Nat}
    (read : letters.mapM (digitIn? base) = some digits) {letter : Char}
    (member : letter ∈ letters) :
    ∃ digit, digitIn? base letter = some digit := by
  induction letters generalizing digits with
  | nil => cases member
  | cons other rest inductionHypothesis =>
    obtain ⟨first, others, isFirst, areOthers, rfl⟩ := mapM_cons_eq_some.mp read
    rcases List.mem_cons.mp member with rfl | inRest
    · exact ⟨first, isFirst⟩
    · exact inductionHypothesis areOthers inRest

theorem natOfDigits?_lt {base number : Nat} {letters : List Char}
    (read : natOfDigits? base letters = some number) : number < Nat.pow base letters.length := by
  unfold natOfDigits? at read
  split at read
  · cases read
  · obtain ⟨digits, isDigits, rfl⟩ := Option.map_eq_some_iff.mp read
    have ⟨length, lt⟩ := length_and_lt_of_mapM_digitIn? isDigits
    have bound := foldl_digits_lt lt 0
    rwa [Nat.zero_add, Nat.one_mul, length] at bound

/-- A row of characters denotes a number only if it is one of decimal digits. -/
theorem isDecimal_of_natOfDigits? {letters : List Char} {number : Nat}
    (read : natOfDigits? 10 letters = some number) :
    letters ≠ [] ∧ ∀ letter ∈ letters, isDecimal letter = true := by
  unfold natOfDigits? at read
  split at read
  · cases read
  · rename_i nonempty
    obtain ⟨digits, areDigits, -⟩ := Option.map_eq_some_iff.mp read
    refine ⟨by simpa using nonempty, fun letter member => ?_⟩
    obtain ⟨digit, isDigit⟩ := exists_digitIn?_of_mapM areDigits member
    exact isDecimal_of_digitIn? isDigit

/-- The rows of characters that denote a number are those of decimal digits, and they denote what
their digits count. -/
theorem natOfDigits?_eq_some_iff {letters : List Char} {number : Nat} :
    natOfDigits? 10 letters = some number ↔
      letters ≠ [] ∧ (∀ letter ∈ letters, isDecimal letter = true) ∧
        number = Nat.ofDigitChars 10 letters 0 := by
  constructor
  · intro read
    obtain ⟨nonempty, decimal⟩ := isDecimal_of_natOfDigits? read
    rw [natOfDigits?_of_isDecimal nonempty decimal] at read
    exact ⟨nonempty, decimal, (Option.some.inj read).symm⟩
  · rintro ⟨nonempty, decimal, rfl⟩
    exact natOfDigits?_of_isDecimal nonempty decimal

/-- A row of digits, which may be empty, counts less than the power of ten for its length. -/
theorem ofDigitChars_lt {letters : List Char}
    (decimal : ∀ letter ∈ letters, isDecimal letter = true) :
    Nat.ofDigitChars 10 letters 0 < Nat.pow 10 letters.length := by
  cases letters with
  | nil => decide
  | cons letter rest =>
    exact natOfDigits?_lt (natOfDigits?_of_isDecimal (List.cons_ne_nil letter rest) decimal)

/-- A row of digits counts something if one of them is not zero. -/
theorem any_nonzero_iff {letters : List Char}
    (decimal : ∀ letter ∈ letters, isDecimal letter = true) :
    (letters.any fun letter => '1' ≤ letter && letter ≤ '9') = true ↔
      0 < Nat.ofDigitChars 10 letters 0 := by
  induction letters with
  | nil => decide
  | cons letter rest inductionHypothesis =>
    obtain ⟨first, others⟩ := List.forall_mem_cons.mp decimal
    simp only [isDecimal, Bool.and_eq_true, decide_eq_true_eq] at first
    have atMost : letter ≤ '9' := first.2
    have digit : '1' ≤ letter ↔ 0 < letter.toNat - '0'.toNat := by
      show 49 ≤ letter.toNat ↔ 0 < letter.toNat - 48
      omega
    have number : Nat.ofDigitChars 10 (letter :: rest) 0 =
        10 ^ rest.length * (letter.toNat - '0'.toNat) + Nat.ofDigitChars 10 rest 0 := by
      rw [Nat.ofDigitChars_cons, Nat.mul_zero, Nat.zero_add]
      exact Nat.ofDigitChars_eq_ofDigitChars_zero
    have power : 0 < 10 ^ rest.length := Nat.pow_pos (by decide)
    rw [List.any_cons, Bool.or_eq_true, inductionHypothesis others, number,
      Nat.add_pos_iff_pos_or_pos, Nat.mul_pos_iff_of_pos_left power, ← digit]
    simp [atMost]

/-! ### Written numbers -/

theorem isDecimal_of_mem_decimalDigits {number : Nat} {letter : Char}
    (member : letter ∈ decimalDigits number) : isDecimal letter = true :=
  Nat.isDigit_of_mem_toDigits (by decide) (by decide) member

theorem isDecimal_of_mem_paddedDigits {width number : Nat} {letter : Char}
    (member : letter ∈ paddedDigits width number) : isDecimal letter = true := by
  rcases List.mem_append.mp member with zero | digit
  · rw [(List.mem_replicate.mp zero).2]
    rfl
  · exact isDecimal_of_mem_decimalDigits digit

theorem decimalDigits_ne_nil (number : Nat) : decimalDigits number ≠ [] :=
  Nat.toDigits_ne_nil

theorem paddedDigits_ne_nil (width number : Nat) : paddedDigits width number ≠ [] :=
  List.append_ne_nil_of_right_ne_nil _ (decimalDigits_ne_nil number)

/-- A number has as many digits as it is padded to, if it does not need more. -/
theorem length_paddedDigits {width number : Nat} (positive : 0 < width)
    (fits : number < Nat.pow 10 width) : (paddedDigits width number).length = width := by
  have short : (decimalDigits number).length ≤ width :=
    (Nat.length_toDigits_le_iff (by decide) positive).mpr fits
  rw [paddedDigits, List.length_leftpad, Nat.max_eq_left short]

theorem natOfDigits?_decimalDigits (number : Nat) :
    natOfDigits? 10 (decimalDigits number) = some number := by
  rw [natOfDigits?_of_isDecimal (decimalDigits_ne_nil number)
    fun _ => isDecimal_of_mem_decimalDigits]
  exact congrArg some Nat.ofDigitChars_ten_toDigits

/-- Reading gives back the number that was written. -/
theorem natOfDigits?_paddedDigits (width number : Nat) :
    natOfDigits? 10 (paddedDigits width number) = some number := by
  rw [natOfDigits?_of_isDecimal (paddedDigits_ne_nil width number)
    fun _ => isDecimal_of_mem_paddedDigits]
  unfold paddedDigits List.leftpad
  rw [Nat.ofDigitChars_append, Nat.ofDigitChars_replicate_zero, Nat.mul_zero]
  exact congrArg some Nat.ofDigitChars_ten_toDigits

/-! ### Digits behind a point -/

/-- What the digits behind a point add to the number in front of it. -/
def fractionNumber (digits : List Char) : ℚ :=
  Nat.ofDigitChars 10 digits 0 / 10 ^ digits.length

/-- A number with a fraction has the digits of both parts, and as many of them behind the point as
the fraction has. -/
theorem ofDigitChars_append_div (whole fraction : List Char) :
    (Nat.ofDigitChars 10 (whole ++ fraction) 0 : ℚ) / 10 ^ fraction.length =
      Nat.ofDigitChars 10 whole 0 + fractionNumber fraction := by
  have power : (10 : ℚ) ^ fraction.length ≠ 0 := by positivity
  rw [Nat.ofDigitChars_append, Nat.ofDigitChars_eq_ofDigitChars_zero, fractionNumber]
  push_cast
  rw [add_div, mul_div_cancel_left₀ _ power]

end PacketFilter.Text
