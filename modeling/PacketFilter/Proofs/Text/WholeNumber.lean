/-
This file says which rows of characters are whole numbers, and shows that they are read exactly if
they do not exceed the limit. The digits are read one after the other and the number read so far is
held against the limit at each of them. As it never becomes smaller, it exceeds the limit at some
digit exactly if the whole number does.
-/

import Mathlib.Data.List.Forall2
import Mathlib.Data.Nat.Digits.Defs
import PacketFilter.Proofs.Text.Digits
import PacketFilter.Text.WholeNumber

namespace PacketFilter

/-- A sign as it is written, which may be left out. -/
inductive SignForm where
  | absent
  | plus
  | minus

namespace SignForm

def letters : SignForm → List Char
  | absent => []
  | plus => ['+']
  | minus => ['-']

def negative : SignForm → Bool
  | minus => true
  | absent | plus => false

theorem eq_of_mem_letters {sign : SignForm} {letter : Char} (member : letter ∈ sign.letters) :
    letter = '+' ∨ letter = '-' := by
  cases sign with
  | absent => cases member
  | plus => exact .inl (List.mem_singleton.mp member)
  | minus => exact .inr (List.mem_singleton.mp member)

end SignForm

namespace Text

/-! ### Digits -/

/-- Whether a character is the digit of a value in a base. Letters may be of either case. -/
def IsDigit (base : Nat) (letter : Char) (digit : Nat) : Prop :=
  digit < base ∧ letter.toLower = Nat.digitChar digit

/-- Capital letters have the values of small ones. -/
theorem digitValue?_toLower (letter : Char) : digitValue? letter.toLower = digitValue? letter := by
  have capitals : ∀ code < 91, 65 ≤ code →
      digitValue? (Char.ofNat code).toLower = digitValue? (Char.ofNat code) := by decide
  by_cases capital : letter.toNat ≥ 65 ∧ letter.toNat ≤ 90
  · have same := capitals letter.toNat (Nat.lt_succ_of_le capital.2) capital.1
    rwa [Char.ofNat_toNat] at same
  · have same : letter.toLower = letter := dif_neg capital
    rw [same]

theorem digitValue?_digitChar {digit : Nat} (small : digit < 16) :
    digitValue? (Nat.digitChar digit) = some digit := by
  have written : ∀ digit < 16, digitValue? (Nat.digitChar digit) = some digit := by decide
  exact written digit small

/-- Digits stand at three places among the characters. -/
theorem toNat_of_digitValue? {letter : Char} {digit : Nat}
    (value : digitValue? letter = some digit) :
    letter.toNat < 103 := by
  unfold digitValue? at value
  split at value
  · rename_i decimal
    have atMost : letter.toNat ≤ 57 := decimal.2
    omega
  · split at value
    · rename_i small
      exact Nat.lt_succ_of_le small.2
    · split at value
      · rename_i capital
        have atMost : letter.toNat ≤ 70 := capital.2
        omega
      · cases value

/-- In lower case, a digit is the character that its value is written as. -/
theorem toLower_of_digitValue? {letter : Char} {digit : Nat}
    (value : digitValue? letter = some digit) : letter.toLower = Nat.digitChar digit := by
  have written : ∀ code < 103, ∀ digit ∈ digitValue? (Char.ofNat code),
      (Char.ofNat code).toLower = Nat.digitChar digit := by decide
  have same := written letter.toNat (toNat_of_digitValue? value)
  rw [Char.ofNat_toNat] at same
  exact same digit value

/-- The characters that are read as digits are those of values below the base. -/
theorem digitIn?_eq_some_iff {base digit : Nat} {letter : Char} (base_le : base ≤ 16) :
    digitIn? base letter = some digit ↔ IsDigit base letter digit := by
  rw [digitIn?, Option.filter_eq_some_iff, decide_eq_true_eq]
  constructor
  · rintro ⟨value, small⟩
    exact ⟨small, toLower_of_digitValue? value⟩
  · rintro ⟨small, written⟩
    rw [← digitValue?_toLower, written]
    exact ⟨digitValue?_digitChar (Nat.lt_of_lt_of_le small base_le), small⟩

/-! ### Rows of digits -/

/-- Whether a row of characters is a number written in a base, with or without zeros in front. -/
def Denotes (base : Nat) (letters : List Char) (number : Nat) : Prop :=
  letters ≠ [] ∧ ∃ digits : List Nat,
    List.Forall₂ (IsDigit base) letters digits ∧ Nat.ofDigits base digits.reverse = number

theorem numberOfDigits_eq (base : Nat) (digits : List Nat) :
    numberOfDigits base digits = Nat.ofDigits base digits.reverse := by
  rw [numberOfDigits, Nat.ofDigits_eq_foldr, List.foldr_reverse]
  refine congrArg (List.foldl · 0 digits) (funext fun number => funext fun digit => ?_)
  rw [Nat.mul_comm, Nat.add_comm]
  rfl

/-- A row of characters is read as digits exactly if each of them is one. -/
theorem mapM_digitIn?_eq_some_iff {base : Nat} {letters : List Char} {digits : List Nat}
    (base_le : base ≤ 16) :
    letters.mapM (digitIn? base) = some digits ↔ List.Forall₂ (IsDigit base) letters digits := by
  induction letters generalizing digits with
  | nil =>
    constructor
    · rintro ⟨⟩
      exact .nil
    · rintro ⟨⟩
      rfl
  | cons letter rest inductionHypothesis =>
    simp only [mapM_cons_eq_some, digitIn?_eq_some_iff base_le, inductionHypothesis]
    constructor
    · rintro ⟨digit, others, isDigit, areDigits, rfl⟩
      exact .cons isDigit areDigits
    · rintro (_ | ⟨isDigit, areDigits⟩)
      exact ⟨_, _, isDigit, areDigits, rfl⟩

theorem natOfDigits?_eq_some_iff_denotes {base number : Nat} {letters : List Char}
    (base_le : base ≤ 16) :
    natOfDigits? base letters = some number ↔ Denotes base letters number := by
  unfold natOfDigits? Denotes
  by_cases nothing : letters = []
  · simp [nothing]
  · rw [if_neg (by simpa using nothing), Option.map_eq_some_iff]
    simp only [mapM_digitIn?_eq_some_iff base_le, numberOfDigits_eq, ne_eq, nothing,
      not_false_eq_true, true_and]

/-- A row of characters denotes a number exactly if there is one and all of them are digits. -/
theorem isSome_natOfDigits? (base : Nat) (letters : List Char) :
    (natOfDigits? base letters).isSome =
      (!letters.isEmpty && letters.all fun letter => (digitIn? base letter).isSome) := by
  have areDigits : (letters.mapM (digitIn? base)).isSome =
      letters.all fun letter => (digitIn? base letter).isSome := by
    induction letters with
    | nil => rfl
    | cons letter rest inductionHypothesis =>
      rw [List.all_cons, ← inductionHypothesis, List.mapM_cons]
      cases digitIn? base letter with
      | none => rfl
      | some digit => cases rest.mapM (digitIn? base) <;> rfl
  unfold natOfDigits?
  cases letters.isEmpty with
  | true => rfl
  | false =>
    rw [if_neg Bool.false_ne_true, Option.isSome_map, areDigits, Bool.not_false, Bool.true_and]

/-! ### Written numbers -/

theorem isDigit_digitChar {base digit : Nat} (base_le : base ≤ 16) (small : digit < base) :
    IsDigit base (Nat.digitChar digit) digit := by
  have written : ∀ digit < 16, (Nat.digitChar digit).toLower = Nat.digitChar digit := by decide
  exact ⟨small, written digit (Nat.lt_of_lt_of_le small base_le)⟩

/-- A digit behind a number counts ones, and what is in front of it counts as many times the base.
-/
theorem Denotes.concat {base number digit : Nat} {letters : List Char} {letter : Char}
    (denotes : Denotes base letters number) (isDigit : IsDigit base letter digit) :
    Denotes base (letters ++ [letter]) (number * base + digit) := by
  obtain ⟨-, digits, areDigits, rfl⟩ := denotes
  refine ⟨List.append_ne_nil_of_right_ne_nil _ (List.cons_ne_nil _ _), digits ++ [digit],
    List.rel_append areDigits (.cons isDigit .nil), ?_⟩
  rw [List.reverse_append, List.reverse_singleton, List.singleton_append, Nat.ofDigits_cons,
    Nat.add_comm, Nat.mul_comm]

/-- A number is written in its digits. -/
theorem denotes_toDigits {base : Nat} (base_gt : 1 < base) (base_le : base ≤ 16) (number : Nat) :
    Denotes base (Nat.toDigits base number) number := by
  induction number using Nat.strongRecOn with
  | ind number inductionHypothesis =>
    by_cases small : number < base
    · rw [Nat.toDigits_of_lt_base small]
      refine ⟨List.cons_ne_nil _ _, [number], .cons (isDigit_digitChar base_le small) .nil, ?_⟩
      rw [List.reverse_singleton, Nat.ofDigits_singleton]
    · have positive : 0 < number := by omega
      have last := isDigit_digitChar base_le (Nat.mod_lt number (by omega : 0 < base))
      have front := inductionHypothesis (number / base) (Nat.div_lt_self positive base_gt)
      have whole := front.concat last
      rwa [Nat.div_add_mod', ← Nat.toDigits_of_base_le base_gt (Nat.le_of_not_lt small)] at whole

/-- A number that is not zero is written without a zero in front. -/
theorem head?_toDigits_ne {base number : Nat} (base_gt : 1 < base) (base_le : base ≤ 16)
    (positive : 0 < number) : (Nat.toDigits base number).head? ≠ some '0' := by
  induction number using Nat.strongRecOn with
  | ind number inductionHypothesis =>
    by_cases small : number < base
    · have nonzero : ∀ digit < 16, 0 < digit → Nat.digitChar digit ≠ '0' := by decide
      rw [Nat.toDigits_of_lt_base small, List.head?_cons, ne_eq, Option.some.injEq]
      exact nonzero number (Nat.lt_of_lt_of_le small base_le) positive
    · have more := Nat.le_of_not_lt small
      rw [Nat.toDigits_of_base_le base_gt more, List.head?_append_of_ne_nil _ Nat.toDigits_ne_nil]
      exact inductionHypothesis _ (Nat.div_lt_self positive base_gt)
        (Nat.div_pos more (Nat.lt_of_succ_lt base_gt))

/-! ### Reading up to a limit -/

/-- A number does not become smaller by more digits. -/
theorem le_foldl_digits {base : Nat} (positive : 0 < base) (digits : List Nat) (number : Nat) :
    number ≤ digits.foldl (fun number digit => number * base + digit) number := by
  induction digits generalizing number with
  | nil => exact Nat.le_refl number
  | cons digit rest inductionHypothesis =>
    calc number
      _ ≤ number * base := Nat.le_mul_of_pos_right number positive
      _ ≤ number * base + digit := Nat.le_add_right ..
      _ ≤ _ := inductionHypothesis _

section

variable {base limit : Nat} {excess : NumberError} {letters : List Char}

/-- Digits are read if the number that they lead to does not exceed the limit. -/
theorem readDigitsUpTo_of_mapM (positive : 0 < base) {digits : List Nat}
    (areDigits : letters.mapM (digitIn? base) = some digits) {number : Nat}
    (number_le : number ≤ limit) :
    readDigitsUpTo base limit excess number letters =
      if digits.foldl (fun number digit => number * base + digit) number ≤ limit then
        .ok (digits.foldl (fun number digit => number * base + digit) number)
      else .error excess := by
  induction letters generalizing digits number with
  | nil =>
    cases areDigits
    exact (if_pos number_le).symm
  | cons letter rest inductionHypothesis =>
    obtain ⟨digit, others, isDigit, areOthers, rfl⟩ := mapM_cons_eq_some.mp areDigits
    rw [readDigitsUpTo, isDigit]
    show (if limit < number * base + digit then _ else _) = _
    by_cases exceeds : limit < number * base + digit
    · -- the digits that follow do not bring the number back below the limit
      have ends := le_foldl_digits positive others (number * base + digit)
      rw [if_pos exceeds, List.foldl_cons, if_neg (by omega)]
    · rw [if_neg exceeds, inductionHypothesis areOthers (Nat.le_of_not_lt exceeds), List.foldl_cons]

/-- Nothing is read from a row in which something is no digit. -/
theorem readDigitsUpTo_ne_ok (noDigits : letters.mapM (digitIn? base) = none)
    (number total : Nat) : readDigitsUpTo base limit excess number letters ≠ .ok total := by
  induction letters generalizing number with
  | nil => cases noDigits
  | cons letter rest inductionHypothesis =>
    rw [readDigitsUpTo]
    cases isDigit : digitIn? base letter with
    | none => exact nofun
    | some digit =>
      have others : rest.mapM (digitIn? base) = none := by
        cases areDigits : rest.mapM (digitIn? base) with
        | none => rfl
        | some digits => simp [List.mapM_cons, isDigit, areDigits] at noDigits
      show (if limit < number * base + digit then _ else _) ≠ _
      split
      · exact nofun
      · exact inductionHypothesis others _

/-- A number is read if it does not exceed the limit. -/
theorem readMagnitude_of_natOfDigits? (positive : 0 < base) {number : Nat}
    (denotes : natOfDigits? base letters = some number) :
    readMagnitude base limit excess letters =
      if number ≤ limit then .ok number else .error excess := by
  cases letters with
  | nil => cases denotes
  | cons letter rest =>
    obtain ⟨digits, areDigits, rfl⟩ := Option.map_eq_some_iff.mp denotes
    exact readDigitsUpTo_of_mapM positive areDigits (Nat.zero_le limit)

/-- The numbers that are read are those that the row denotes, up to the limit. -/
theorem readMagnitude_eq_ok_iff (positive : 0 < base) {number : Nat} :
    readMagnitude base limit excess letters = .ok number ↔
      natOfDigits? base letters = some number ∧ number ≤ limit := by
  cases denotes : natOfDigits? base letters with
  | some total =>
    rw [readMagnitude_of_natOfDigits? positive denotes]
    by_cases fits : total ≤ limit
    · rw [if_pos fits, Except.ok.injEq, Option.some.injEq]
      exact ⟨fun same => ⟨same, same ▸ fits⟩, fun read => read.1⟩
    · rw [if_neg fits, Option.some.injEq]
      exact ⟨nofun, fun ⟨same, within⟩ => absurd (same ▸ within) fits⟩
  | none =>
    refine iff_of_false ?_ nofun
    cases letters with
    | nil => exact nofun
    | cons letter rest => exact readDigitsUpTo_ne_ok (Option.map_eq_none_iff.mp denotes) 0 number

end

/-- No digit is a sign, so a row of digits is read as a number without one. -/
theorem readNatural_of_natOfDigits? {base limit number : Nat} {letters : List Char}
    (positive : 0 < base) (denotes : natOfDigits? base letters = some number) :
    readNatural base limit letters =
      if number ≤ limit then .ok number else .error .tooLarge := by
  rw [← readMagnitude_of_natOfDigits? positive denotes]
  have areDigits := isSome_natOfDigits? base letters
  rw [denotes, Option.isSome_some] at areDigits
  unfold readNatural
  split
  · cases areDigits
  · cases areDigits
  · rfl

end Text

end PacketFilter
