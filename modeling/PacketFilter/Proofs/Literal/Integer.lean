/-
This file says exactly which texts are integer literals, and which numbers they denote. A literal
has the base that it begins with: hexadecimal digits follow `0x`, octal ones follow a zero, and
decimal ones do not begin with a zero. As `x` is no octal digit, a text has one form at most. What
has none is refused, also if it is too long for a number, and a number is refused for its size only.
-/

import PacketFilter.Literal.Integer
import PacketFilter.Proofs.Text.WholeNumber

namespace PacketFilter

open Text

/-! ### The form of a literal -/

/-- How an integer literal is written: in which base and with which digits. -/
inductive IntegerForm where
  | hexadecimal (marker : Char) (digits : List Char)
  | octal (digits : List Char)
  | decimal (digits : List Char)

namespace IntegerForm

def base : IntegerForm → Nat
  | hexadecimal _ _ => 16
  | octal _ => 8
  | decimal _ => 10

def digits : IntegerForm → List Char
  | hexadecimal _ digits | octal digits | decimal digits => digits

/-- The parts one after the other. -/
def letters : IntegerForm → List Char
  | hexadecimal marker digits => '0' :: marker :: digits
  | octal digits => '0' :: digits
  | decimal digits => digits

/-- The marker is an `x` of either case, and a decimal number has no zero in front. -/
def IsSpelled : IntegerForm → Prop
  | hexadecimal marker _ => marker = 'x' ∨ marker = 'X'
  | octal _ => True
  | decimal digits => digits.head? = some '0' → digits.length = 1

/-- Whether a text is a literal of the given form for a number. -/
def Spells (form : IntegerForm) (text : String) (number : Nat) : Prop :=
  form.IsSpelled ∧ form.letters = text.toList ∧ Denotes form.base form.digits number

theorem base_le (form : IntegerForm) : form.base ≤ 16 := by
  cases form with
  | hexadecimal => exact Nat.le_refl 16
  | octal => exact (by decide : 8 ≤ 16)
  | decimal => exact (by decide : 10 ≤ 16)

end IntegerForm

namespace Literal

/-! ### Finding the base -/

theorem integerParts_octal {digit : Char} (rest : List Char)
    (noMarker : digit ≠ 'x' ∧ digit ≠ 'X') :
    integerParts ('0' :: digit :: rest) = (8, digit :: rest) := by
  rw [integerParts]
  · exact noMarker.1
  · exact noMarker.2

theorem integerParts_decimal {digits : List Char}
    (noZero : digits.head? = some '0' → digits.length = 1) :
    integerParts digits = (10, digits) := by
  unfold integerParts
  split
  · cases noZero rfl
  · cases noZero rfl
  · cases noZero rfl
  · rfl

/-- The base and the digits of a form are found again. -/
theorem integerParts_letters {form : IntegerForm} (spelled : form.IsSpelled) {number : Nat}
    (denotes : Denotes form.base form.digits number) :
    integerParts form.letters = (form.base, form.digits) := by
  match form with
  | .hexadecimal marker digits => rcases spelled with rfl | rfl <;> rfl
  | .decimal digits => exact integerParts_decimal spelled
  | .octal digits =>
    obtain ⟨nonempty, _, areDigits, -⟩ := denotes
    cases areDigits with
    | nil => exact absurd rfl nonempty
    | cons isDigit others =>
      have read := (digitIn?_eq_some_iff (by decide : 8 ≤ 16)).mpr isDigit
      refine integerParts_octal _ ⟨?_, ?_⟩ <;>
      · rintro rfl
        cases read

/-- The base and the digits that are found are those of a form. -/
theorem exists_form_of_integerParts (letters : List Char) :
    ∃ form : IntegerForm, form.IsSpelled ∧ form.letters = letters ∧
      integerParts letters = (form.base, form.digits) := by
  unfold integerParts
  split
  · exact ⟨.hexadecimal 'x' _, .inl rfl, rfl, rfl⟩
  · exact ⟨.hexadecimal 'X' _, .inr rfl, rfl, rfl⟩
  · exact ⟨.octal _, trivial, rfl, rfl⟩
  · rename_i otherwise
    refine ⟨.decimal letters, fun zero => ?_, rfl, rfl⟩
    obtain ⟨rest, rfl⟩ := List.head?_eq_some_iff.mp zero
    cases rest with
    | nil => rfl
    | cons digit rest => exact absurd rfl (otherwise digit rest)

/-- The number that an integer literal denotes, however large it is. -/
def integerNumber? (text : String) : Option Nat :=
  natOfDigits? (integerParts text.toList).1 (integerParts text.toList).2

/-- A text denotes the numbers of its forms. -/
theorem integerNumber?_eq_some_iff {text : String} {number : Nat} :
    integerNumber? text = some number ↔ ∃ form : IntegerForm, form.Spells text number := by
  unfold integerNumber?
  constructor
  · intro denotes
    obtain ⟨form, spelled, letters, parts⟩ := exists_form_of_integerParts text.toList
    rw [parts] at denotes
    exact ⟨form, spelled, letters, (natOfDigits?_eq_some_iff_denotes form.base_le).mp denotes⟩
  · rintro ⟨form, spelled, letters, denotes⟩
    rw [← letters, integerParts_letters spelled denotes]
    exact (natOfDigits?_eq_some_iff_denotes form.base_le).mpr denotes

/-! ### Reading -/

theorem integerParts_base_pos (letters : List Char) : 0 < (integerParts letters).1 := by
  obtain ⟨form, -, -, parts⟩ := exists_form_of_integerParts letters
  rw [parts]
  cases form <;> exact Nat.succ_pos _

/-- A literal is refused for its size only if it has digits and nothing else. -/
theorem readInteger_eq (text : String) :
    readInteger text =
      match integerNumber? text with
      | none => .error (.invalidNumber text)
      | some number =>
        if number ≤ Nat.pow 2 32 - 1 then .ok (UInt32.ofNat number)
        else .error (.integerOverflow text) := by
  have positive := integerParts_base_pos text.toList
  unfold readInteger integerNumber?
  generalize integerParts text.toList = parts at positive
  obtain ⟨base, digits⟩ := parts
  have refused : (digits.isEmpty || !digits.all fun digit => (digitIn? base digit).isSome) =
      !(natOfDigits? base digits).isSome := by
    rw [isSome_natOfDigits?, Bool.not_and, Bool.not_not]
  simp only [refused]
  cases denotes : natOfDigits? base digits with
  | none => rfl
  | some number =>
    rw [readNatural_of_natOfDigits? positive denotes]
    by_cases fits : number ≤ Nat.pow 2 32 - 1
    · simp only [if_pos fits]
      rfl
    · simp only [if_neg fits]
      rfl

section

variable {text : String}

theorem readInteger_eq_ok_iff {value : UInt32} :
    readInteger text = .ok value ↔ integerNumber? text = some value.toNat := by
  have within := value.toNat_lt_size
  rw [readInteger_eq]
  cases integerNumber? text with
  | none => exact ⟨nofun, nofun⟩
  | some number =>
    simp only [Option.some.injEq]
    by_cases fits : number ≤ Nat.pow 2 32 - 1
    · rw [if_pos fits, Except.ok.injEq]
      constructor
      · rintro rfl
        exact (UInt32.toNat_ofNat_of_lt (Nat.lt_of_le_pred (by decide) fits)).symm
      · rintro rfl
        exact UInt32.ofNat_toNat
    · rw [if_neg fits]
      exact iff_of_false nofun fun same => fits (Nat.le_pred_of_lt (same ▸ within))

theorem readInteger_eq_integerOverflow_iff :
    readInteger text = .error (.integerOverflow text) ↔
      ∃ number, integerNumber? text = some number ∧ UInt32.size ≤ number := by
  have size : UInt32.size = Nat.pow 2 32 - 1 + 1 := by decide
  rw [readInteger_eq, size]
  cases integerNumber? text with
  | none => exact ⟨nofun, nofun⟩
  | some number =>
    simp only [Option.some.injEq, exists_eq_left']
    by_cases fits : number ≤ Nat.pow 2 32 - 1
    · rw [if_pos fits]
      exact iff_of_false nofun (Nat.not_lt.mpr fits)
    · rw [if_neg fits]
      exact iff_of_true rfl (Nat.lt_of_not_le fits)

theorem readInteger_eq_invalidNumber_iff :
    readInteger text = .error (.invalidNumber text) ↔ integerNumber? text = none := by
  rw [readInteger_eq]
  cases integerNumber? text with
  | none => exact iff_of_true rfl rfl
  | some number =>
    refine iff_of_false ?_ nofun
    simp only []
    split <;> exact nofun

end

/-! ### Written numbers -/

section

variable (number : Nat)

theorem spells_hexadecimal {marker : Char} (isMarker : marker = 'x' ∨ marker = 'X') :
    (IntegerForm.hexadecimal marker (Nat.toDigits 16 number)).Spells
      (String.ofList ('0' :: marker :: Nat.toDigits 16 number)) number :=
  ⟨isMarker, String.toList_ofList.symm,
    denotes_toDigits (by decide : 1 < 16) (Nat.le_refl 16) number⟩

theorem spells_octal :
    (IntegerForm.octal (Nat.toDigits 8 number)).Spells
      (String.ofList ('0' :: Nat.toDigits 8 number)) number :=
  ⟨trivial, String.toList_ofList.symm,
    denotes_toDigits (by decide : 1 < 8) (by decide : 8 ≤ 16) number⟩

theorem spells_decimal :
    (IntegerForm.decimal (Nat.toDigits 10 number)).Spells
      (String.ofList (Nat.toDigits 10 number)) number := by
  refine ⟨fun zero => ?_, String.toList_ofList.symm,
    denotes_toDigits (by decide : 1 < 10) (by decide : 10 ≤ 16) number⟩
  cases number with
  | zero => rfl
  | succ before =>
    exact absurd zero (head?_toDigits_ne (by decide) (by decide) (Nat.succ_pos before))

end

/-- A number of 32 bits is read from each of its forms. -/
theorem readInteger_of_spells {form : IntegerForm} {text : String} {value : UInt32}
    (spelled : form.Spells text value.toNat) : readInteger text = .ok value :=
  readInteger_eq_ok_iff.mpr (integerNumber?_eq_some_iff.mpr ⟨form, spelled⟩)

/-- Exactly the texts of a form are read as integers, as the numbers that they denote, if these have
32 bits. A number that has more bits is an overflow, and what has no form is no number at all.
The decimal, hexadecimal and octal forms of every integer of 32 bits are read back as it. -/
theorem readInteger_exact (text : String) :
    (∀ value : UInt32, readInteger text = .ok value ↔
      ∃ form : IntegerForm, form.Spells text value.toNat) ∧
    (readInteger text = .error (.integerOverflow text) ↔
      ∃ (form : IntegerForm) (number : Nat), form.Spells text number ∧ UInt32.size ≤ number) ∧
    (readInteger text = .error (.invalidNumber text) ↔
      ¬∃ (form : IntegerForm) (number : Nat), form.Spells text number) ∧
    ∀ value : UInt32,
      readInteger (String.ofList (Nat.toDigits 10 value.toNat)) = .ok value ∧
      readInteger (String.ofList ('0' :: 'x' :: Nat.toDigits 16 value.toNat)) = .ok value ∧
      readInteger (String.ofList ('0' :: 'X' :: Nat.toDigits 16 value.toNat)) = .ok value ∧
      readInteger (String.ofList ('0' :: Nat.toDigits 8 value.toNat)) = .ok value := by
  refine ⟨fun value => readInteger_eq_ok_iff.trans integerNumber?_eq_some_iff, ?_, ?_,
    fun value => ⟨readInteger_of_spells (spells_decimal _),
      readInteger_of_spells (spells_hexadecimal _ (.inl rfl)),
      readInteger_of_spells (spells_hexadecimal _ (.inr rfl)),
      readInteger_of_spells (spells_octal _)⟩⟩
  · rw [readInteger_eq_integerOverflow_iff]
    simp only [integerNumber?_eq_some_iff]
    constructor
    · rintro ⟨number, ⟨form, spelled⟩, large⟩
      exact ⟨form, number, spelled, large⟩
    · rintro ⟨form, number, spelled, large⟩
      exact ⟨number, ⟨form, spelled⟩, large⟩
  · rw [readInteger_eq_invalidNumber_iff, Option.eq_none_iff_forall_ne_some]
    constructor
    · rintro noNumber ⟨form, number, spelled⟩
      exact noNumber number (integerNumber?_eq_some_iff.mpr ⟨form, spelled⟩)
    · intro noForm number denotes
      obtain ⟨form, spelled⟩ := integerNumber?_eq_some_iff.mp denotes
      exact noForm ⟨form, number, spelled⟩

end Literal

end PacketFilter
