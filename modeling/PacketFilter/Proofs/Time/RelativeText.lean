/-
This file says which relative times are read back from their own text. The text has one sign for
both parts, so the parts must not have opposite signs; at most nine digits are read behind the
point, so the nanoseconds must make up less than a second; and the least number of seconds has no
opposite among the seconds. Every time that is read from some text is of this sort.
-/

import PacketFilter.Proofs.Time.Relative

namespace PacketFilter

open Text

namespace NanoTime

/-- The times that have a text of their own: the seconds are not the least there are, the
nanoseconds make up less than a second, and the parts do not have opposite signs. -/
structure IsSigned (time : NanoTime) : Prop where
  seconds : Int64.minValue.toInt < time.seconds.toInt
  nanoseconds : time.nanoseconds.toInt.natAbs < 1000000000
  notMixed : ¬(time.seconds.toInt < 0 ∧ 0 < time.nanoseconds.toInt) ∧
    ¬(0 < time.seconds.toInt ∧ time.nanoseconds.toInt < 0)

variable {time : NanoTime}

/-! ### Times that are read -/

/-- A form that is a literal makes a time whose parts both have its sign. -/
theorem isSigned_ofParts {form : RelativeForm} (literal : form.IsLiteral) :
    (ofParts form.negative form.seconds form.nanoseconds).IsSigned := by
  obtain ⟨seconds, nanoseconds⟩ := toInt_ofParts literal
  have inRange := literal.seconds_le
  have small := nanoseconds_lt literal
  unfold RelativeForm.signed at seconds nanoseconds
  rw [Int64.toInt_maxValue] at inRange
  refine ⟨?_, ?_, ?_, ?_⟩ <;> simp only [seconds, nanoseconds, Int64.toInt_minValue] <;>
    split <;> omega

theorem isSigned_of_readRelative {text : String} (read : readRelative text = .ok time) :
    time.IsSigned := by
  obtain ⟨form, literal, -, rfl⟩ :=
    ofRelativeText?_eq_some_iff.mp (readRelative_eq_ok_iff.mp read)
  exact isSigned_ofParts literal

/-! ### Cutting the text of a time -/

/-- The sign is cut off, for the digits of the seconds do not begin with one. -/
theorem splitMinus_relativeText (time : NanoTime) :
    splitMinus time.relativeText.toList =
      (time.isNegative, decimalDigits time.seconds.toInt.natAbs ++
        '.' :: paddedDigits 9 time.nanoseconds.toInt.natAbs) := by
  have unsigned : (decimalDigits time.seconds.toInt.natAbs ++
      '.' :: paddedDigits 9 time.nanoseconds.toInt.natAbs).head? ≠ some '-' := by
    intro minus
    cases digits : decimalDigits time.seconds.toInt.natAbs with
    | nil => exact decimalDigits_ne_nil _ digits
    | cons digit rest =>
      rw [digits] at minus
      obtain rfl := Option.some.inj minus
      have decimal : isDecimal '-' = true :=
        isDecimal_of_mem_decimalDigits (digits ▸ List.mem_cons_self)
      cases decimal
  unfold relativeText
  cases time.isNegative with
  | true => simp [natText, paddedText, splitMinus]
  | false => simpa [natText, paddedText] using splitMinus_of_head?_ne unsigned

theorem splitFirst_decimalDigits (number : Nat) (digits : List Char) :
    splitFirst '.' (decimalDigits number ++ '.' :: digits) = (decimalDigits number, some digits) :=
  splitFirst_of_not_mem
    (fun member => absurd (isDecimal_of_mem_decimalDigits member) (by decide)) digits

/-! ### Reading the parts -/

/-- The seconds are read from their digits if they are in range. -/
theorem readSeconds?_decimalDigits {number seconds : Nat} :
    readSeconds? true (decimalDigits number) = some seconds ↔
      (number : Int) ≤ Int64.maxValue.toInt ∧ seconds = number := by
  obtain ⟨-, decimal, digits⟩ := natOfDigits?_eq_some_iff.mp (natOfDigits?_decimalDigits number)
  rw [readSeconds?_eq_some_iff, ← digits]
  constructor
  · rintro ⟨-, -, rfl, inRange⟩
    exact ⟨inRange, rfl⟩
  · rintro ⟨inRange, rfl⟩
    exact ⟨decimal, fun _ => rfl, rfl, inRange⟩

/-- The nanoseconds are read from their digits if they need no more than nine. -/
theorem readOptionalFraction?_paddedDigits {number nanoseconds : Nat} :
    readOptionalFraction? (some (paddedDigits 9 number)) = some nanoseconds ↔
      number < 1000000000 ∧ nanoseconds = number := by
  obtain ⟨-, decimal, digits⟩ := natOfDigits?_eq_some_iff.mp (natOfDigits?_paddedDigits 9 number)
  have length : (paddedDigits 9 number).length = max 9 (decimalDigits number).length :=
    List.length_leftpad ..
  have short : (paddedDigits 9 number).length ≤ 9 ↔ number < 1000000000 := by
    rw [length, Nat.max_le, and_iff_right (Nat.le_refl 9)]
    exact Nat.length_toDigits_le_iff (by decide) (by decide)
  have value : fractionNanoseconds (paddedDigits 9 number) = number := by
    have unscaled : 9 - (paddedDigits 9 number).length = 0 := by
      rw [length]
      omega
    rw [fractionNanoseconds, ← digits, unscaled]
    exact Nat.mul_one number
  rw [readOptionalFraction?_eq_some_iff, Option.map_some, Option.getD_some, value, ← short]
  constructor
  · rintro ⟨each, rfl⟩
    exact ⟨(each _ rfl).1, rfl⟩
  · rintro ⟨isShort, rfl⟩
    refine ⟨?_, rfl⟩
    rintro digits ⟨⟩
    exact ⟨isShort, decimal⟩

/-- The text of a time is read as the time with the same sizes of its parts and its sign on both of
them, if the sizes are in range. -/
theorem ofRelativeText?_relativeText {other : NanoTime} :
    ofRelativeText? time.relativeText = some other ↔
      (time.seconds.toInt.natAbs : Int) ≤ Int64.maxValue.toInt ∧
        time.nanoseconds.toInt.natAbs < 1000000000 ∧
        other = ofParts time.isNegative time.seconds.toInt.natAbs
          time.nanoseconds.toInt.natAbs := by
  unfold ofRelativeText?
  simp only [splitMinus_relativeText, splitFirst_decimalDigits, Option.isSome_some,
    Option.bind_eq_bind, Option.pure_def, Option.bind_eq_some_iff, Option.some.injEq,
    readSeconds?_decimalDigits, readOptionalFraction?_paddedDigits]
  constructor
  · rintro ⟨_, ⟨inRange, rfl⟩, _, ⟨small, rfl⟩, rfl⟩
    exact ⟨inRange, small, rfl⟩
  · rintro ⟨inRange, small, rfl⟩
    exact ⟨_, ⟨inRange, rfl⟩, _, ⟨small, rfl⟩, rfl⟩

/-! ### The time that is read back -/

theorem isNegative_iff_toInt :
    time.isNegative = true ↔ time.seconds.toInt < 0 ∨ time.nanoseconds.toInt < 0 := by
  simp [isNegative, Int64.lt_iff_toInt_lt, Int32.lt_iff_toInt_lt]

/-- A time is made of its sign and the sizes of its parts if the parts do not have opposite signs:
one sign for both parts turns the sign of one of them otherwise. -/
theorem eq_ofParts_natAbs_iff
    (inRange : (time.seconds.toInt.natAbs : Int) ≤ Int64.maxValue.toInt)
    (small : time.nanoseconds.toInt.natAbs < 1000000000) :
    time = ofParts time.isNegative time.seconds.toInt.natAbs time.nanoseconds.toInt.natAbs ↔
      ¬(time.seconds.toInt < 0 ∧ 0 < time.nanoseconds.toInt) ∧
        ¬(0 < time.seconds.toInt ∧ time.nanoseconds.toInt < 0) := by
  obtain ⟨seconds, nanoseconds⟩ := toInt_ofParts_of_le time.isNegative inRange small
  have sign : time.isNegative = true ↔ _ := isNegative_iff_toInt
  have same (other : NanoTime) : time = other ↔ time.seconds.toInt = other.seconds.toInt ∧
      time.nanoseconds.toInt = other.nanoseconds.toInt := by
    rw [Int64.toInt_inj, Int32.toInt_inj, NanoTime.mk.injEq]
  rw [same, seconds, nanoseconds]
  cases negative : time.isNegative with
  | true =>
    have before := sign.mp negative
    rw [if_pos rfl, if_pos rfl]
    omega
  | false =>
    have notBefore := mt sign.mpr (Bool.eq_false_iff.mp negative)
    rw [if_neg Bool.false_ne_true, if_neg Bool.false_ne_true]
    omega

/-- The sizes of seconds other than the least are seconds as well. -/
theorem natAbs_seconds_le_iff :
    (time.seconds.toInt.natAbs : Int) ≤ Int64.maxValue.toInt ↔
      Int64.minValue.toInt < time.seconds.toInt := by
  have low := time.seconds.minValue_le_toInt
  have high := time.seconds.toInt_le
  rw [Int64.toInt_minValue, Int64.toInt_maxValue] at *
  omega

theorem readRelative_relativeText_eq_ok_iff :
    readRelative time.relativeText = .ok time ↔ time.IsSigned := by
  rw [readRelative_eq_ok_iff, ofRelativeText?_relativeText, natAbs_seconds_le_iff]
  constructor
  · rintro ⟨notLeast, small, same⟩
    have inRange := natAbs_seconds_le_iff.mpr notLeast
    exact ⟨notLeast, small, (eq_ofParts_natAbs_iff inRange small).mp same⟩
  · rintro ⟨notLeast, small, notMixed⟩
    have inRange := natAbs_seconds_le_iff.mpr notLeast
    exact ⟨notLeast, small, (eq_ofParts_natAbs_iff inRange small).mpr notMixed⟩

/-- A time is read back from its text exactly if its seconds are not the least, its nanoseconds make
up less than a second and its parts do not have opposite signs. So it is if it was read from any
text. -/
theorem readRelative_relativeText (time : NanoTime) :
    (readRelative time.relativeText = .ok time ↔ time.IsSigned) ∧
    ∀ text, readRelative text = .ok time → readRelative time.relativeText = .ok time := by
  refine ⟨readRelative_relativeText_eq_ok_iff, fun text read => ?_⟩
  exact readRelative_relativeText_eq_ok_iff.mpr (isSigned_of_readRelative read)

/-- Half a second before zero is read from `-.5`, and from its own text, which has more digits. -/
theorem readRelative_relativeText_halfBefore :
    readRelative "-.5" = .ok ⟨0, -500000000⟩ ∧
      relativeText ⟨0, -500000000⟩ = "-0.500000000" ∧
      readRelative "-0.500000000" = .ok ⟨0, -500000000⟩ := by
  have read : readRelative "-.5" = .ok ⟨0, -500000000⟩ :=
    readRelative_eq_ok_iff.mpr (by decide +kernel)
  have text : relativeText ⟨0, -500000000⟩ = "-0.500000000" := by decide +kernel
  exact ⟨read, text, text ▸ (readRelative_relativeText ⟨0, -500000000⟩).2 "-.5" read⟩

end NanoTime

end PacketFilter
