/-
This file says how floating-point literals are classified. A literal is read as the value that is
nearest to the number it writes down, unless the number is lost on the way: from the middle behind
the greatest value on it is too great, up to half of the least value it is too small, and in between
it has to have all its bits. The classes are decided on the rounded value and on the text, and three
bounds on the exact number decide them as well.
-/

import PacketFilter.Proofs.Binary64.LiteralForm
import PacketFilter.Proofs.Binary64.Thresholds

namespace PacketFilter.Binary64

open Text DoubleLiteral

/-! ### What the text shows -/

section

variable {text : String} {sign : SignForm}

/-- Behind the sign, a text names infinity if it begins with its three letters. -/
theorem namesInfinity_eq (body : DoubleBody) (spelled : body.IsSpelled)
    (letters : sign.letters ++ body.letters = text.toList) :
    namesInfinity text = ['i', 'n', 'f'].isPrefixOf (body.letters.map Char.toLower) := by
  have signs : ∀ letter ∈ sign.letters, (letter = '+' || letter = '-') = true := by
    intro letter member
    simpa using SignForm.eq_of_mem_letters member
  have plain : ∀ letter ∈ body.letters.head?, (letter = '+' || letter = '-') = false := by
    simpa using plain_of_isSpelled spelled
  unfold namesInfinity
  rw [← letters, (takeWhile_append_of_head? signs plain).2]

theorem namesInfinity_decimal {form : DecimalForm} (spelled : form.IsSpelled)
    (letters : sign.letters ++ form.letters = text.toList) : namesInfinity text = false := by
  obtain ⟨first, rest, begins, kind⟩ := DecimalForm.exists_first_letters spelled
  have body : (DoubleBody.decimal form).letters = first :: rest := begins
  rw [namesInfinity_eq (.decimal form) spelled letters, body]
  have other : first.toLower ≠ 'i' := by
    rcases kind with decimal | rfl
    · rw [toLower_of_isDecimal decimal]
      rintro rfl
      cases decimal
    · decide
  simp [List.isPrefixOf, other.symm]

theorem namesInfinity_infinity {name : List Char} (spelled : (DoubleBody.infinity name).IsSpelled)
    (letters : sign.letters ++ name = text.toList) : namesInfinity text = true := by
  rw [namesInfinity_eq (.infinity name) spelled letters]
  rcases spelled with short | long
  · rw [DoubleBody.letters, short]
    rfl
  · rw [DoubleBody.letters, long]
    rfl

/-- A digit other than zero stands in front of the power of ten if the number is not zero. -/
theorem hasNonzeroMantissa_iff {form : DecimalForm} (spelled : form.IsSpelled)
    (letters : sign.letters ++ form.letters = text.toList) :
    hasNonzeroMantissa text = true ↔ 0 < form.mantissa := by
  have front : ∀ letter ∈
      sign.letters ++ (form.whole ++ DecimalForm.fractionLetters form.fraction?),
      (letter ≠ 'e' && letter ≠ 'E') = true := by
    refine List.forall_mem_append.mpr ⟨fun letter member => ?_, fun letter member => ?_⟩
    · rcases SignForm.eq_of_mem_letters member with rfl | rfl <;> rfl
    · rcases DecimalForm.isDecimal_or_point spelled letter member with decimal | rfl
      · rw [Bool.and_eq_true, decide_eq_true_eq, decide_eq_true_eq]
        constructor <;> (rintro rfl; cases decimal)
      · rfl
  have stops : ∀ letter ∈ (DecimalForm.powerLetters form.power?).head?,
      (letter ≠ 'e' && letter ≠ 'E') = false := by
    intro letter first
    rcases DecimalForm.head?_powerLetters spelled letter first with rfl | rfl <;> rfl
  have digits : ∀ letter ∈ form.whole ++ form.fraction, isDecimal letter = true :=
    List.forall_mem_append.mpr ⟨spelled.whole, spelled.fraction⟩
  -- neither the sign nor the point is a digit
  have signs : (sign.letters.any fun letter => '1' ≤ letter && letter ≤ '9') = false := by
    cases sign <;> rfl
  have point : ((DecimalForm.fractionLetters form.fraction?).any fun letter =>
      '1' ≤ letter && letter ≤ '9') =
        form.fraction.any fun letter => '1' ≤ letter && letter ≤ '9' := by
    unfold DecimalForm.fraction
    cases form.fraction? <;> rfl
  rw [DecimalForm.mantissa, ← any_nonzero_iff digits]
  unfold hasNonzeroMantissa
  rw [← letters, DecimalForm.letters, ← List.append_assoc, ← List.append_assoc,
    List.append_assoc sign.letters, (takeWhile_append_of_head? front stops).1, List.any_append,
    List.any_append, List.any_append, signs, point, Bool.false_or]

end

/-! ### Finite values -/

/-- Whether a value is a number and not infinite. -/
def IsFinite (value : Binary64) : Prop :=
  value.magnitude < infinityMagnitude

/-- A finite value that is nearest to a number. If another one is as near, its magnitude is the even
one. -/
structure IsNearestValue (number : ℚ) (value : Binary64) : Prop where
  finite : value.IsFinite
  closest : ∀ other : Binary64, other.IsFinite → |value.toRat - number| ≤ |other.toRat - number|
  even : ∀ other : Binary64, other.IsFinite →
    |other.toRat - number| = |value.toRat - number| →
      other.toRat = value.toRat ∨ value.magnitude % 2 = 0

section

variable {size : ℚ} {nearest : Nat} {value : Binary64} (isNearest : IsNearest size nearest)
  (rounded : value.magnitude = min infinityMagnitude nearest)

include isNearest rounded

theorem isInfinite_iff : value.isInfinite = true ↔ 2 ^ (1024 : ℤ) - 2 ^ (970 : ℤ) ≤ size := by
  rw [isInfinite, decide_eq_true_eq, rounded, ← isNearest.infinite_iff]
  omega

theorem isZero_iff : value.isZero = true ↔ size ≤ 2 ^ (-1075 : ℤ) := by
  have positive : 0 < infinityMagnitude := by decide
  rw [isZero, decide_eq_true_eq, rounded, ← isNearest.eq_zero_iff]
  omega

theorem isSubnormal_iff : value.isSubnormal = true ↔
    2 ^ (-1075 : ℤ) < size ∧ size < 2 ^ (-1022 : ℤ) - 2 ^ (-1075 : ℤ) := by
  have normal : leastNormalMagnitude ≤ infinityMagnitude := by decide
  rw [← not_le, ← not_le, ← isNearest.eq_zero_iff, ← isNearest.normal_iff, isSubnormal,
    Bool.and_eq_true, decide_eq_true_eq, decide_eq_true_eq, rounded]
  omega

/-- With the sign of a number, the magnitude nearest to its size gives the value nearest to it: a
value of the other sign is no nearer than its opposite. -/
theorem isNearestValue (nonneg : 0 ≤ size) (small : size < 2 ^ (1024 : ℤ) - 2 ^ (970 : ℤ)) :
    IsNearestValue (signed value.negative size) value := by
  have finite : nearest < infinityMagnitude := by
    by_contra infinite
    exact absurd (isNearest.infinite_iff.mp (not_lt.mp infinite)) (not_le.mpr small)
  have same : value.magnitude = nearest := by omega
  have distance : |value.toRat - signed value.negative size| = |magnitudeValue nearest - size| := by
    rw [toRat, same, abs_signed_sub_signed]
  have further (other : Binary64) :
      |magnitudeValue other.magnitude - size| ≤ |other.toRat - signed value.negative size| := by
    have apart := abs_abs_sub_abs_le other.toRat (signed value.negative size)
    rwa [abs_toRat, abs_signed _ nonneg] at apart
  refine ⟨by unfold IsFinite; omega, fun other _ => ?_, fun other _ equal => ?_⟩
  · calc |value.toRat - signed value.negative size|
      _ = |magnitudeValue nearest - size| := distance
      _ ≤ |magnitudeValue other.magnitude - size| := isNearest.closest other.magnitude
      _ ≤ |other.toRat - signed value.negative size| := further other
  · have between : |magnitudeValue other.magnitude - size| = |magnitudeValue nearest - size| :=
      le_antisymm (by rw [← distance, ← equal]; exact further other)
        (isNearest.closest other.magnitude)
    rcases isNearest.even other.magnitude between with sameMagnitude | even
    · have sameSize : |other.toRat| = |value.toRat| := by
        rw [abs_toRat, abs_toRat, sameMagnitude, same]
      rcases abs_eq_abs.mp sameSize with sameValue | opposite
      · exact .inl sameValue
      · -- a value and its opposite are as near only if they are zero or the number is
        rw [opposite] at equal
        have product : value.toRat * signed value.negative size = 0 := by
          linarith [(sq_eq_sq_iff_abs_eq_abs _ _).mpr equal]
        rcases mul_eq_zero.mp product with zero | zero
        · rw [opposite, zero, neg_zero]
          exact .inl rfl
        · have noSize : size = 0 := by rw [← abs_signed value.negative nonneg, zero, abs_zero]
          have least : nearest = 0 := isNearest.eq_zero_iff.mpr (by rw [noSize]; positivity)
          exact .inr (by omega)
    · exact .inr (by omega)

end

/-! ### What is read -/

theorem not_isInfinite_of_isZero {value : Binary64} (zero : value.isZero = true) :
    value.isInfinite = false := by
  rw [isZero, decide_eq_true_eq] at zero
  rw [isInfinite, zero]
  rfl

theorem isSubnormal_exclusive {value : Binary64} (subnormal : value.isSubnormal = true) :
    value.isInfinite = false ∧ value.isZero = false := by
  have normal : leastNormalMagnitude < infinityMagnitude := by decide
  rw [isSubnormal, Bool.and_eq_true, decide_eq_true_eq, decide_eq_true_eq] at subnormal
  rw [isInfinite, isZero, decide_eq_false_iff_not, decide_eq_false_iff_not]
  omega

section

variable {text : String} {literal : DoubleLiteral} (isLiteral : ofText? text = some literal)

include isLiteral

theorem read_of_ofText? : read text =
    if (ofLiteral literal).isInfinite && !namesInfinity text then .error (.floatOverflow text)
    else if (ofLiteral literal).isZero && hasNonzeroMantissa text then
      .error (.floatUnderflow text)
    else if (ofLiteral literal).isSubnormal then .error (.invalidFloat text)
    else .ok (ofLiteral literal) := by
  rw [read, isLiteral]

theorem read_eq_floatOverflow_iff : read text = .error (.floatOverflow text) ↔
    (ofLiteral literal).isInfinite = true ∧ namesInfinity text = false := by
  rw [read_of_ofText? isLiteral]
  grind

theorem read_eq_floatUnderflow_iff : read text = .error (.floatUnderflow text) ↔
    (ofLiteral literal).isZero = true ∧ hasNonzeroMantissa text = true := by
  have finite : (ofLiteral literal).isZero = true → _ := not_isInfinite_of_isZero
  rw [read_of_ofText? isLiteral]
  grind

theorem read_eq_invalidFloat_iff : read text = .error (.invalidFloat text) ↔
    (ofLiteral literal).isSubnormal = true := by
  have finite : (ofLiteral literal).isSubnormal = true → _ := isSubnormal_exclusive
  rw [read_of_ofText? isLiteral]
  grind

/-- A literal that is not refused for its size is read as its value. -/
theorem read_eq_ok_of_ne (noOverflow : read text ≠ .error (.floatOverflow text))
    (noUnderflow : read text ≠ .error (.floatUnderflow text))
    (fullBits : read text ≠ .error (.invalidFloat text)) :
    read text = .ok (ofLiteral literal) := by
  rw [read_of_ofText? isLiteral] at *
  grind

end

theorem read_eq_invalidNumber_iff {text : String} :
    read text = .error (.invalidNumber text) ↔ ¬∃ form : DoubleForm, form.Spells text := by
  cases isLiteral : ofText? text with
  | none =>
    have noForm : ¬∃ form : DoubleForm, form.Spells text := by
      rintro ⟨form, spells⟩
      cases isLiteral.symm.trans (ofText?_eq_some_iff.mpr ⟨form, spells, rfl⟩)
    rw [read, isLiteral]
    exact iff_of_true rfl noForm
  | some literal =>
    obtain ⟨form, spells, -⟩ := ofText?_eq_some_iff.mp isLiteral
    rw [read_of_ofText? isLiteral]
    refine iff_of_false ?_ (not_not_intro ⟨form, spells⟩)
    grind

/-! ### Names -/

section

variable {text : String} {sign : SignForm} {name : List Char}

theorem read_infinity (spelled : (DoubleBody.infinity name).IsSpelled)
    (letters : sign.letters ++ name = text.toList) :
    read text = .ok (infinity sign.negative) := by
  have isLiteral : ofText? text = some (.infinity sign.negative) :=
    ofText?_eq_some_iff.mpr ⟨⟨sign, .infinity name⟩, ⟨spelled, letters⟩, rfl⟩
  have classes : (ofLiteral (.infinity sign.negative)).isZero = false ∧
      (ofLiteral (.infinity sign.negative)).isSubnormal = false := by
    cases sign <;> decide
  have named := namesInfinity_infinity spelled letters
  refine read_eq_ok_of_ne isLiteral ?_ ?_ ?_
  · simp [read_eq_floatOverflow_iff isLiteral, named]
  · simp [read_eq_floatUnderflow_iff isLiteral, classes]
  · simp [read_eq_invalidFloat_iff isLiteral, classes]

theorem read_notANumber (spelled : (DoubleBody.notANumber name).IsSpelled)
    (letters : sign.letters ++ name = text.toList) :
    ∃ value, read text = .ok value ∧ value.isNaN = true ∧ value.negative = sign.negative := by
  have isLiteral : ofText? text = some (.notANumber sign.negative) :=
    ofText?_eq_some_iff.mpr ⟨⟨sign, .notANumber name⟩, ⟨spelled, letters⟩, rfl⟩
  have classes : (ofLiteral (.notANumber sign.negative)).isInfinite = false ∧
      (ofLiteral (.notANumber sign.negative)).isZero = false ∧
      (ofLiteral (.notANumber sign.negative)).isSubnormal = false := by
    cases sign <;> decide
  have isNotANumber : (ofLiteral (.notANumber sign.negative)).isNaN = true ∧
      (ofLiteral (.notANumber sign.negative)).negative = sign.negative := by
    cases sign <;> decide
  refine ⟨_, read_eq_ok_of_ne isLiteral ?_ ?_ ?_, isNotANumber⟩
  · simp [read_eq_floatOverflow_iff isLiteral, classes]
  · simp [read_eq_floatUnderflow_iff isLiteral, classes]
  · simp [read_eq_invalidFloat_iff isLiteral, classes]

end

/-! ### Decimals -/

/-- A decimal is rounded to a magnitude nearest to its size, or to infinity, and keeps its sign. -/
theorem exists_isNearest_size (negative : Bool) (form : DecimalForm) :
    ∃ nearest, IsNearest form.size nearest ∧
      (ofDecimal negative form.mantissa (form.power - form.fraction.length)).magnitude =
        min infinityMagnitude nearest ∧
      (ofDecimal negative form.mantissa (form.power - form.fraction.length)).negative =
        negative := by
  obtain ⟨nearest, isNearest, rounded⟩ :=
    exists_isNearest_decimal form.mantissa (form.power - form.fraction.length)
  have small : min infinityMagnitude nearest < Nat.pow 2 63 :=
    Nat.lt_of_le_of_lt (Nat.min_le_left ..) (by decide)
  rw [← form.size_eq] at isNearest
  rw [← rounded] at small
  exact ⟨nearest, isNearest, (magnitude_ofMagnitude negative small).trans rounded,
    negative_ofMagnitude negative small⟩

/-- Half of the least value lies below the values that have all their bits. -/
theorem half_least_lt : (2 : ℚ) ^ (-1075 : ℤ) < 2 ^ (-1022 : ℤ) - 2 ^ (-1075 : ℤ) := by
  have twice : (2 : ℚ) ^ (-1074 : ℤ) = 2 ^ (-1075 : ℤ) * 2 := zpow_add_one₀ two_ne_zero (-1075)
  have below : (2 : ℚ) ^ (-1074 : ℤ) < 2 ^ (-1022 : ℤ) := zpow_lt_zpow_right₀ one_lt_two (by decide)
  linarith

section

variable {text : String} {sign : SignForm} {form : DecimalForm} (spelled : form.IsSpelled)
  (letters : sign.letters ++ form.letters = text.toList)

include spelled letters

theorem ofText?_decimal : ofText? text =
    some (.decimal sign.negative form.mantissa (form.power - form.fraction.length)) :=
  ofText?_eq_some_iff.mpr ⟨⟨sign, .decimal form⟩, ⟨spelled, letters⟩, rfl⟩

theorem read_decimal_eq_floatOverflow_iff : read text = .error (.floatOverflow text) ↔
    2 ^ (1024 : ℤ) - 2 ^ (970 : ℤ) ≤ form.size := by
  obtain ⟨nearest, isNearest, rounded, -⟩ := exists_isNearest_size sign.negative form
  rw [read_eq_floatOverflow_iff (ofText?_decimal spelled letters),
    and_iff_left (namesInfinity_decimal spelled letters)]
  exact isInfinite_iff isNearest rounded

theorem read_decimal_eq_floatUnderflow_iff : read text = .error (.floatUnderflow text) ↔
    0 < form.size ∧ form.size ≤ 2 ^ (-1075 : ℤ) := by
  obtain ⟨nearest, isNearest, rounded, -⟩ := exists_isNearest_size sign.negative form
  rw [read_eq_floatUnderflow_iff (ofText?_decimal spelled letters),
    hasNonzeroMantissa_iff spelled letters, DecimalForm.mantissa_pos_iff, and_comm]
  exact and_congr_right fun _ => isZero_iff isNearest rounded

theorem read_decimal_eq_invalidFloat_iff : read text = .error (.invalidFloat text) ↔
    2 ^ (-1075 : ℤ) < form.size ∧ form.size < 2 ^ (-1022 : ℤ) - 2 ^ (-1075 : ℤ) := by
  obtain ⟨nearest, isNearest, rounded, -⟩ := exists_isNearest_size sign.negative form
  rw [read_eq_invalidFloat_iff (ofText?_decimal spelled letters)]
  exact isSubnormal_iff isNearest rounded

/-- The bounds of the refused sizes leave zero and an interval. -/
theorem exists_read_decimal_iff :
    (∃ value, read text = .ok value ∧ IsNearestValue (signed sign.negative form.size) value ∧
        value.negative = sign.negative) ↔
      (form.size = 0 ∨ 2 ^ (-1022 : ℤ) - 2 ^ (-1075 : ℤ) ≤ form.size) ∧
        form.size < 2 ^ (1024 : ℤ) - 2 ^ (970 : ℤ) := by
  have overflows := read_decimal_eq_floatOverflow_iff spelled letters
  have underflows := read_decimal_eq_floatUnderflow_iff spelled letters
  have losesBits := read_decimal_eq_invalidFloat_iff spelled letters
  constructor
  · rintro ⟨value, isRead, -, -⟩
    have notGreat := overflows.not.mp (by rw [isRead]; exact nofun)
    have notSmall := underflows.not.mp (by rw [isRead]; exact nofun)
    have notBetween := losesBits.not.mp (by rw [isRead]; exact nofun)
    refine ⟨?_, not_le.mp notGreat⟩
    rcases form.size_nonneg.eq_or_lt with isZero | positive
    · exact .inl isZero.symm
    · refine .inr (not_lt.mp fun below => ?_)
      rcases lt_or_ge (2 ^ (-1075 : ℤ)) form.size with more | less
      · exact notBetween ⟨more, below⟩
      · exact notSmall ⟨positive, less⟩
  · rintro ⟨zeroOrNormal, notGreat⟩
    have notSmall : ¬(0 < form.size ∧ form.size ≤ 2 ^ (-1075 : ℤ)) := by
      rintro ⟨positive, less⟩
      rcases zeroOrNormal with zero | normal
      · exact positive.ne' zero
      · exact absurd (half_least_lt.trans_le normal) (not_lt.mpr less)
    have notBetween :
        ¬(2 ^ (-1075 : ℤ) < form.size ∧ form.size < 2 ^ (-1022 : ℤ) - 2 ^ (-1075 : ℤ)) := by
      rintro ⟨more, below⟩
      rcases zeroOrNormal with zero | normal
      · exact absurd (zero ▸ more) (not_lt.mpr (by positivity))
      · exact absurd below (not_lt.mpr normal)
    obtain ⟨nearest, isNearest, rounded, hasSign⟩ := exists_isNearest_size sign.negative form
    have nearestValue := isNearestValue isNearest rounded form.size_nonneg notGreat
    rw [hasSign] at nearestValue
    exact ⟨_, read_eq_ok_of_ne (ofText?_decimal spelled letters)
      (overflows.not.mpr (not_le.mpr notGreat)) (underflows.not.mpr notSmall)
      (losesBits.not.mpr notBetween), nearestValue, hasSign⟩

end

/-! ### All literals -/

/-- A text is refused as no number exactly if it is not spelled like a literal. The names of
infinity and of what is not a number stand for these values, with their sign. A decimal is refused
by the exact number that it writes down: as too great from the middle behind the greatest value
on, as too small up to half of the least value unless it is zero, and as not valid in between as
long as it is rounded to a value with fewer bits. Any other decimal is the value nearest to it,
with its sign also on zero. -/
theorem read_classified (text : String) :
    (read text = .error (.invalidNumber text) ↔ ¬∃ form : DoubleForm, form.Spells text) ∧
    ∀ form : DoubleForm, form.Spells text →
      match form.body with
      | .infinity _ => read text = .ok (infinity form.sign.negative)
      | .notANumber _ => ∃ value, read text = .ok value ∧ value.isNaN = true ∧
          value.negative = form.sign.negative
      | .decimal parts =>
        let number := signed form.sign.negative parts.size
        (read text = .error (.floatOverflow text) ↔ 2 ^ (1024 : ℤ) - 2 ^ (970 : ℤ) ≤ |number|) ∧
        (read text = .error (.floatUnderflow text) ↔
          0 < |number| ∧ |number| ≤ 2 ^ (-1075 : ℤ)) ∧
        (read text = .error (.invalidFloat text) ↔
          2 ^ (-1075 : ℤ) < |number| ∧ |number| < 2 ^ (-1022 : ℤ) - 2 ^ (-1075 : ℤ)) ∧
        ((∃ value, read text = .ok value ∧ IsNearestValue number value ∧
            value.negative = form.sign.negative) ↔
          (number = 0 ∨ 2 ^ (-1022 : ℤ) - 2 ^ (-1075 : ℤ) ≤ |number|) ∧
            |number| < 2 ^ (1024 : ℤ) - 2 ^ (970 : ℤ)) := by
  refine ⟨read_eq_invalidNumber_iff, fun form ⟨spelled, letters⟩ => ?_⟩
  obtain ⟨sign, body⟩ := form
  match body with
  | .infinity name => exact read_infinity spelled letters
  | .notANumber name => exact read_notANumber spelled letters
  | .decimal parts =>
    have size := abs_signed sign.negative parts.size_nonneg
    have number : signed sign.negative parts.size = 0 ↔ parts.size = 0 := by
      rw [← abs_eq_zero, size]
    simp only [size, number]
    exact ⟨read_decimal_eq_floatOverflow_iff spelled letters,
      read_decimal_eq_floatUnderflow_iff spelled letters,
      read_decimal_eq_invalidFloat_iff spelled letters, exists_read_decimal_iff spelled letters⟩

/-- A zero with a power of ten. -/
def scaledZero : DecimalForm :=
  ⟨['0'], some ['0'], some ⟨'e', .minus, ['9', '9', '9']⟩⟩

theorem isSpelled_scaledZero : scaledZero.IsSpelled where
  whole := by decide
  fraction := by decide
  nonempty := by decide
  power := by
    rintro _ ⟨⟩
    exact ⟨.inl rfl, by decide, by decide⟩

/-- A zero keeps its sign, and its power of ten makes no difference. -/
theorem read_classified_negativeZero :
    DoubleForm.Spells ⟨.minus, .decimal scaledZero⟩ "-0.0e-999" ∧
      ∃ value, read "-0.0e-999" = .ok value ∧ IsNearestValue 0 value ∧ value.negative = true := by
  have spells : DoubleForm.Spells ⟨.minus, .decimal scaledZero⟩ "-0.0e-999" :=
    ⟨isSpelled_scaledZero, by decide⟩
  have zero : scaledZero.size = 0 := by
    have noDigits : scaledZero.mantissa = 0 := by decide
    rw [DecimalForm.size_eq, noDigits, Nat.cast_zero, zero_mul]
  have number : signed SignForm.minus.negative scaledZero.size = 0 := by
    rw [zero]
    exact neg_zero
  obtain ⟨-, -, -, reads⟩ := (read_classified "-0.0e-999").2 _ spells
  have bound : |signed SignForm.minus.negative scaledZero.size| <
      2 ^ (1024 : ℤ) - 2 ^ (970 : ℤ) := by
    rw [number, abs_zero, sub_pos]
    exact zpow_lt_zpow_right₀ one_lt_two (by decide)
  obtain ⟨value, isRead, nearest, negative⟩ := reads.mpr ⟨.inl number, bound⟩
  rw [← number]
  exact ⟨spells, value, isRead, nearest, negative⟩

end PacketFilter.Binary64
