/-
This file says exactly which texts are floating-point literals and what they write down. A literal
has a sign or none, and behind it a name or a decimal. The digits of a decimal may stand on either
side of a point, and a power of ten may follow them.
-/

import Mathlib.Algebra.Order.Field.Power
import PacketFilter.Binary64.Literal
import PacketFilter.Proofs.Text.WholeNumber

namespace PacketFilter

open Text

/-! ### The form of a literal -/

/-- The power of ten behind a decimal as it is written: the letter `e`, a sign and digits. -/
structure PowerForm where
  marker : Char
  sign : SignForm
  digits : List Char

namespace PowerForm

def letters (form : PowerForm) : List Char :=
  form.marker :: (form.sign.letters ++ form.digits)

def number (form : PowerForm) : Int :=
  let size := Nat.ofDigitChars 10 form.digits 0
  if form.sign.negative then -(size : Int) else size

structure IsSpelled (form : PowerForm) : Prop where
  marker : form.marker = 'e' ∨ form.marker = 'E'
  nonempty : form.digits ≠ []
  decimal : ∀ letter ∈ form.digits, isDecimal letter = true

end PowerForm

/-- The parts of a decimal behind its sign: the digits in front of the point, those behind it if
there is a point, and the power of ten if there is one. -/
structure DecimalForm where
  whole : List Char
  fraction? : Option (List Char)
  power? : Option PowerForm

namespace DecimalForm

/-- The digits behind the point, none without a point. -/
def fraction (form : DecimalForm) : List Char :=
  form.fraction?.getD []

def fractionLetters : Option (List Char) → List Char
  | none => []
  | some digits => '.' :: digits

def powerLetters : Option PowerForm → List Char
  | none => []
  | some power => power.letters

/-- The parts one after the other. -/
def letters (form : DecimalForm) : List Char :=
  form.whole ++ (fractionLetters form.fraction? ++ powerLetters form.power?)

/-- The power of ten as it is written, zero if there is none. -/
def power (form : DecimalForm) : Int :=
  (form.power?.map PowerForm.number).getD 0

/-- The number that is written down, without its sign. -/
def size (form : DecimalForm) : ℚ :=
  (Nat.ofDigitChars 10 form.whole 0 + fractionNumber form.fraction) * 10 ^ form.power

/-- The number that all the digits are without the point. -/
def mantissa (form : DecimalForm) : Nat :=
  Nat.ofDigitChars 10 (form.whole ++ form.fraction) 0

/-- There is a digit on one side of the point at least. -/
structure IsSpelled (form : DecimalForm) : Prop where
  whole : ∀ letter ∈ form.whole, isDecimal letter = true
  fraction : ∀ letter ∈ form.fraction, isDecimal letter = true
  nonempty : form.whole ++ form.fraction ≠ []
  power : ∀ power, form.power? = some power → power.IsSpelled

/-- A decimal without its point is its digits times a power of ten that makes up for the point. -/
theorem size_eq (form : DecimalForm) :
    form.size = form.mantissa * 10 ^ (form.power - form.fraction.length) := by
  have ten : (10 : ℚ) ≠ 0 := by norm_num
  rw [size, mantissa, ← ofDigitChars_append_div, zpow_sub₀ ten, zpow_natCast, div_mul_eq_mul_div,
    mul_div_assoc]

theorem size_nonneg (form : DecimalForm) : 0 ≤ form.size := by
  rw [form.size_eq]
  positivity

theorem mantissa_pos_iff (form : DecimalForm) : 0 < form.mantissa ↔ 0 < form.size := by
  have power : (0 : ℚ) < 10 ^ (form.power - form.fraction.length) := by positivity
  rw [form.size_eq, mul_pos_iff_of_pos_right power, Nat.cast_pos]

end DecimalForm

/-- What stands behind the sign of a literal: one of the names, or a decimal. -/
inductive DoubleBody where
  | infinity (name : List Char)
  | notANumber (name : List Char)
  | decimal (form : DecimalForm)

namespace DoubleBody

def letters : DoubleBody → List Char
  | infinity name => name
  | notANumber name => name
  | decimal form => form.letters

/-- The letters of a name may be of either case. -/
def IsSpelled : DoubleBody → Prop
  | infinity name =>
    name.map Char.toLower = "inf".toList ∨ name.map Char.toLower = "infinity".toList
  | notANumber name => name.map Char.toLower = "nan".toList
  | decimal form => form.IsSpelled

end DoubleBody

/-- How a floating-point literal is written. -/
structure DoubleForm where
  sign : SignForm
  body : DoubleBody

namespace DoubleForm

/-- Whether a text is a literal of the given form. -/
def Spells (form : DoubleForm) (text : String) : Prop :=
  form.body.IsSpelled ∧ form.sign.letters ++ form.body.letters = text.toList

/-- What a form writes down. -/
def literal (form : DoubleForm) : DoubleLiteral :=
  match form.body with
  | .infinity _ => .infinity form.sign.negative
  | .notANumber _ => .notANumber form.sign.negative
  | .decimal decimal =>
    .decimal form.sign.negative decimal.mantissa (decimal.power - decimal.fraction.length)

end DoubleForm

/-! ### Letters at the front -/

/-- Decimal digits are no letters, so they have no other case. -/
theorem toLower_of_isDecimal {letter : Char} (decimal : isDecimal letter = true) :
    letter.toLower = letter := by
  simp only [isDecimal, Bool.and_eq_true, decide_eq_true_eq] at decimal
  have atMost : letter.toNat ≤ 57 := decimal.2
  unfold Char.toLower
  refine dif_neg fun upper => ?_
  have atLeast : 65 ≤ letter.toNat := upper.1
  omega

namespace DecimalForm

variable {form : DecimalForm} (spelled : form.IsSpelled)

include spelled

/-- A power of ten begins with its letter. -/
theorem head?_powerLetters :
    ∀ letter ∈ (powerLetters form.power?).head?, letter = 'e' ∨ letter = 'E' := by
  cases isPower : form.power? with
  | none => exact nofun
  | some power =>
    rintro letter ⟨⟩
    exact (spelled.power power isPower).marker

/-- The digits in front of the point are not followed by more of them. -/
theorem head?_fractionLetters :
    ∀ letter ∈ (fractionLetters form.fraction? ++ powerLetters form.power?).head?,
      isDecimal letter = false := by
  have markers := head?_powerLetters spelled
  cases form.fraction? with
  | none =>
    intro letter first
    rcases markers letter first with rfl | rfl <;> rfl
  | some digits =>
    rintro letter ⟨⟩
    rfl

/-- In front of the power of ten there are only digits and the point. -/
theorem isDecimal_or_point : ∀ letter ∈ form.whole ++ fractionLetters form.fraction?,
    isDecimal letter = true ∨ letter = '.' := by
  intro letter member
  rcases List.mem_append.mp member with inWhole | behind
  · exact .inl (spelled.whole letter inWhole)
  · have decimal := spelled.fraction
    unfold fraction at decimal
    match isFraction : form.fraction? with
    | none =>
      rw [isFraction] at behind
      cases behind
    | some digits =>
      rw [isFraction] at behind decimal
      rcases List.mem_cons.mp behind with point | inDigits
      · exact .inr point
      · exact .inl (decimal letter inDigits)

/-- A decimal begins with a digit or with the point. -/
theorem exists_first_letters :
    ∃ letter rest, form.letters = letter :: rest ∧ (isDecimal letter = true ∨ letter = '.') := by
  unfold letters
  cases whole : form.whole with
  | cons digit rest =>
    exact ⟨digit, _, rfl, .inl (spelled.whole digit (whole ▸ List.mem_cons_self))⟩
  | nil =>
    cases fraction : form.fraction? with
    | none =>
      have behind := spelled.nonempty
      rw [whole, DecimalForm.fraction, fraction] at behind
      exact absurd rfl behind
    | some digits => exact ⟨'.', _, rfl, .inr rfl⟩

end DecimalForm

namespace DoubleLiteral

/-! ### Signs -/

/-- A sign is cut off from what does not begin with another one. -/
theorem splitSign_letters (sign : SignForm) {body : List Char}
    (plain : ∀ letter ∈ body.head?, letter ≠ '+' ∧ letter ≠ '-') :
    splitSign (sign.letters ++ body) = (sign.negative, body) := by
  cases sign with
  | plus => rfl
  | minus => rfl
  | absent =>
    show splitSign body = (false, body)
    unfold splitSign
    split
    · exact absurd rfl (plain _ rfl).2
    · exact absurd rfl (plain _ rfl).1
    · rfl

/-- Cutting the sign off loses nothing. -/
theorem exists_sign_of_splitSign {letters body : List Char} {negative : Bool}
    (cut : splitSign letters = (negative, body)) :
    ∃ sign : SignForm, letters = sign.letters ++ body ∧ sign.negative = negative := by
  unfold splitSign at cut
  split at cut
  · cases cut
    exact ⟨.minus, rfl, rfl⟩
  · cases cut
    exact ⟨.plus, rfl, rfl⟩
  · cases cut
    exact ⟨.absent, rfl, rfl⟩

theorem plain_of_isDecimal {letter : Char} (decimal : isDecimal letter = true) :
    letter ≠ '+' ∧ letter ≠ '-' := by
  constructor <;> (rintro rfl; cases decimal)

/-! ### Decimals -/

/-- A power of ten is read from nothing or from what spells one. -/
theorem readPower?_eq_some_iff {letters : List Char} {power : Int} :
    readPower? letters = some power ↔
      letters = [] ∧ power = 0 ∨
        ∃ form : PowerForm, form.IsSpelled ∧ form.letters = letters ∧ power = form.number := by
  constructor
  · intro read
    unfold readPower? at read
    split at read
    · exact .inl ⟨rfl, (Option.some.inj read).symm⟩
    · rename_i marker rest
      split at read
      · rename_i isMarker
        rcases cut : splitSign rest with ⟨negative, digits⟩
        simp only [cut, Option.map_eq_some_iff, natOfDigits?_eq_some_iff] at read
        obtain ⟨_, ⟨nonempty, decimal, rfl⟩, rfl⟩ := read
        obtain ⟨sign, rfl, rfl⟩ := exists_sign_of_splitSign cut
        exact .inr ⟨⟨marker, sign, digits⟩, ⟨by simpa using isMarker, nonempty, decimal⟩, rfl, rfl⟩
      · cases read
  · rintro (⟨rfl, rfl⟩ | ⟨form, spelled, rfl, rfl⟩)
    · rfl
    · have plain : ∀ letter ∈ form.digits.head?, letter ≠ '+' ∧ letter ≠ '-' := fun letter first =>
        plain_of_isDecimal (spelled.decimal letter (List.mem_of_head? first))
      have digits := natOfDigits?_of_isDecimal spelled.nonempty spelled.decimal
      have marker : (form.marker = 'e' || form.marker = 'E') = true := by
        simpa using spelled.marker
      unfold PowerForm.letters
      simp only [readPower?, marker, if_true, splitSign_letters form.sign plain, digits]
      rfl

theorem splitFraction_of_head?_ne {letters : List Char} (other : letters.head? ≠ some '.') :
    splitFraction letters = ([], letters) := by
  unfold splitFraction
  split
  · exact absurd rfl other
  · rfl

section

variable {form : DecimalForm} (spelled : form.IsSpelled)

include spelled

theorem splitFraction_letters :
    splitFraction (DecimalForm.fractionLetters form.fraction? ++
        DecimalForm.powerLetters form.power?) =
      (form.fraction, DecimalForm.powerLetters form.power?) := by
  have markers := DecimalForm.head?_powerLetters spelled
  have decimal := spelled.fraction
  unfold DecimalForm.fraction at decimal ⊢
  cases fraction : form.fraction? with
  | none =>
    refine splitFraction_of_head?_ne fun point => ?_
    rcases markers _ point with impossible | impossible <;> cases impossible
  | some digits =>
    rw [fraction] at decimal
    have stops : ∀ letter ∈ (DecimalForm.powerLetters form.power?).head?,
        isDecimal letter = false := by
      intro letter first
      rcases markers letter first with rfl | rfl <;> rfl
    obtain ⟨taken, dropped⟩ := takeWhile_append_of_head? decimal stops
    exact Prod.ext taken dropped

theorem readPower?_letters :
    readPower? (DecimalForm.powerLetters form.power?) = some form.power := by
  rw [readPower?_eq_some_iff]
  unfold DecimalForm.power
  cases isPower : form.power? with
  | none => exact .inl ⟨rfl, rfl⟩
  | some power => exact .inr ⟨power, spelled.power power isPower, rfl, rfl⟩

/-- A decimal is read as the number that its digits are without the point, at the power of ten that
makes up for it. -/
theorem readDecimal?_letters :
    readDecimal? form.letters = some (form.mantissa, form.power - form.fraction.length) := by
  obtain ⟨taken, dropped⟩ :=
    takeWhile_append_of_head? spelled.whole (DecimalForm.head?_fractionLetters spelled)
  have mantissa : natOfDigits? 10 (form.whole ++ form.fraction) = some form.mantissa :=
    natOfDigits?_of_isDecimal spelled.nonempty fun letter member =>
      (List.mem_append.mp member).elim (spelled.whole letter) (spelled.fraction letter)
  unfold readDecimal? DecimalForm.letters
  simp only [taken, dropped, splitFraction_letters spelled, mantissa, readPower?_letters spelled,
    Option.bind_eq_bind, Option.bind_some, Option.pure_def]

end

/-- Cutting the fraction off loses nothing. -/
theorem exists_fraction_of_splitFraction {letters fraction tail : List Char}
    (cut : splitFraction letters = (fraction, tail)) :
    (∀ letter ∈ fraction, isDecimal letter = true) ∧
      ∃ fraction? : Option (List Char), fraction?.getD [] = fraction ∧
        DecimalForm.fractionLetters fraction? ++ tail = letters := by
  unfold splitFraction at cut
  split at cut
  · cases cut
    refine ⟨List.all_eq_true.mp List.all_takeWhile, some _, rfl, ?_⟩
    exact congrArg ('.' :: ·) List.takeWhile_append_dropWhile
  · cases cut
    exact ⟨nofun, none, rfl, rfl⟩

/-- What is read as a decimal is spelled as one. -/
theorem exists_form_of_readDecimal? {letters : List Char} {mantissa : Nat} {power : Int}
    (read : readDecimal? letters = some (mantissa, power)) :
    ∃ form : DecimalForm, form.IsSpelled ∧ form.letters = letters ∧ form.mantissa = mantissa ∧
      form.power - form.fraction.length = power := by
  unfold readDecimal? at read
  rcases cut : splitFraction (letters.dropWhile isDecimal) with ⟨fraction, tail⟩
  simp only [cut, Option.bind_eq_bind, Option.pure_def, Option.bind_eq_some_iff, Option.some.injEq,
    Prod.mk.injEq, natOfDigits?_eq_some_iff, readPower?_eq_some_iff] at read
  obtain ⟨_, ⟨nonempty, -, rfl⟩, _, isPower, rfl, rfl⟩ := read
  obtain ⟨decimal, fraction?, rfl, rest⟩ := exists_fraction_of_splitFraction cut
  have whole : ∀ letter ∈ letters.takeWhile isDecimal, isDecimal letter = true :=
    List.all_eq_true.mp List.all_takeWhile
  have all : letters.takeWhile isDecimal ++ (DecimalForm.fractionLetters fraction? ++ tail) =
      letters := by
    rw [rest, List.takeWhile_append_dropWhile]
  rcases isPower with ⟨rfl, rfl⟩ | ⟨power, powerSpelled, rfl, rfl⟩
  · exact ⟨⟨_, fraction?, none⟩, ⟨whole, decimal, nonempty, nofun⟩, all, rfl, rfl⟩
  · refine ⟨⟨_, fraction?, some power⟩, ⟨whole, decimal, nonempty, ?_⟩, all, rfl, rfl⟩
    rintro _ ⟨⟩
    exact powerSpelled

/-! ### Literals -/

/-- A name begins with the first letter of its name in lower case, in one of its cases. -/
theorem exists_first_name {name letters : List Char} {initial : Char}
    (named : name.map Char.toLower = initial :: letters) :
    ∃ letter rest, name = letter :: rest ∧ letter.toLower = initial := by
  obtain ⟨letter, rest, same, lower, -⟩ := List.map_eq_cons_iff.mp named
  exact ⟨letter, rest, same, lower⟩

/-- A name is not read as a decimal: its first letter is neither a digit nor a point. -/
theorem readDecimal?_name {name letters : List Char} {initial : Char}
    (named : name.map Char.toLower = initial :: letters) (letter : isDecimal initial = false)
    (noPoint : initial ≠ '.') : readDecimal? name = none := by
  rw [Option.eq_none_iff_forall_ne_some]
  rintro ⟨mantissa, power⟩ read
  obtain ⟨form, spelled, rfl, -⟩ := exists_form_of_readDecimal? read
  obtain ⟨first, rest, begins, kind⟩ := DecimalForm.exists_first_letters spelled
  rw [begins, List.map_cons, List.cons.injEq] at named
  obtain ⟨rfl, -⟩ := named
  rcases kind with decimal | rfl
  · rw [toLower_of_isDecimal decimal, decimal] at letter
    cases letter
  · exact noPoint rfl

/-- What stands behind the sign does not begin with another one. -/
theorem plain_of_isSpelled {body : DoubleBody} (spelled : body.IsSpelled) :
    ∀ letter ∈ body.letters.head?, letter ≠ '+' ∧ letter ≠ '-' := by
  have named {name letters : List Char} {initial : Char}
      (same : name.map Char.toLower = initial :: letters) (plain : initial ≠ '+' ∧ initial ≠ '-') :
      ∀ letter ∈ name.head?, letter ≠ '+' ∧ letter ≠ '-' := by
    obtain ⟨first, rest, rfl, lower⟩ := exists_first_name same
    rintro letter ⟨⟩
    constructor
    · rintro rfl
      exact plain.1 lower.symm
    · rintro rfl
      exact plain.2 lower.symm
  match body with
  | .infinity name =>
    rcases spelled with short | long
    · exact named short (by decide)
    · exact named long (by decide)
  | .notANumber name => exact named spelled (by decide)
  | .decimal form =>
    obtain ⟨first, rest, begins, kind⟩ := DecimalForm.exists_first_letters spelled
    rintro letter inFront
    rw [DoubleBody.letters, begins] at inFront
    cases inFront
    rcases kind with decimal | rfl
    · exact plain_of_isDecimal decimal
    · decide

/-- The literals are the texts that spell one, and each writes down what its form does. -/
theorem ofText?_eq_some_iff {text : String} {literal : DoubleLiteral} :
    ofText? text = some literal ↔
      ∃ form : DoubleForm, form.Spells text ∧ literal = form.literal := by
  constructor
  · intro read
    unfold ofText? at read
    rcases cut : splitSign text.toList with ⟨negative, letters⟩
    obtain ⟨sign, whole, rfl⟩ := exists_sign_of_splitSign cut
    simp only [cut] at read
    split at read
    · rename_i mantissa power isDecimal
      obtain ⟨form, spelled, rfl, rfl, rfl⟩ := exists_form_of_readDecimal? isDecimal
      exact ⟨⟨sign, .decimal form⟩, ⟨spelled, whole.symm⟩, (Option.some.inj read).symm⟩
    · have lower {name : String} (same : String.ofList (letters.map Char.toLower) = name) :
          letters.map Char.toLower = name.toList := by
        rw [← same, String.toList_ofList]
      split at read
      · rename_i name
        exact ⟨⟨sign, .infinity letters⟩, ⟨.inl (lower name), whole.symm⟩,
          (Option.some.inj read).symm⟩
      · rename_i name
        exact ⟨⟨sign, .infinity letters⟩, ⟨.inr (lower name), whole.symm⟩,
          (Option.some.inj read).symm⟩
      · rename_i name
        exact ⟨⟨sign, .notANumber letters⟩, ⟨lower name, whole.symm⟩,
          (Option.some.inj read).symm⟩
      · cases read
  · rintro ⟨⟨sign, body⟩, ⟨spelled, letters⟩, rfl⟩
    unfold ofText?
    rw [← letters, splitSign_letters sign (plain_of_isSpelled spelled)]
    match body with
    | .decimal form =>
      simp only [DoubleBody.letters, readDecimal?_letters spelled]
      rfl
    | .infinity name =>
      rcases spelled with short | long
      · simp only [DoubleBody.letters, readDecimal?_name short rfl (by decide), short]
        rfl
      · simp only [DoubleBody.letters, readDecimal?_name long rfl (by decide), long]
        rfl
    | .notANumber name =>
      have named : name.map Char.toLower = "nan".toList := spelled
      simp only [DoubleBody.letters, readDecimal?_name named rfl (by decide), named]
      rfl

end DoubleLiteral

end PacketFilter
