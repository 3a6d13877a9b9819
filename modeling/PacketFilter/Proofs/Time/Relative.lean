/-
This file says exactly which texts are relative times and which times they denote. A relative time
has a sign or none, digits of its seconds, and behind a point those of a fraction; either the digits
of the seconds or the point may be missing, and the seconds have to be in the range of a time.
Whatever else a text looks like, it is refused. The numbers that are computed on the way stay in
range.
-/

import PacketFilter.Proofs.Time.Fraction
import PacketFilter.Time.Relative

namespace PacketFilter

open Text

/-! ### The form of a literal -/

/-- The parts of a relative time as it is written: whether there is a minus sign, the digits of the
seconds, and those behind the point if there is one. -/
structure RelativeForm where
  negative : Bool
  whole : List Char
  fraction? : Option (List Char)

namespace RelativeForm

/-- What follows the sign. -/
def body (form : RelativeForm) : List Char :=
  match form.fraction? with
  | none => form.whole
  | some digits => form.whole ++ '.' :: digits

/-- The parts one after the other. -/
def letters (form : RelativeForm) : List Char :=
  if form.negative then '-' :: form.body else form.body

/-- The number in front of the point, zero if there are no digits. -/
def seconds (form : RelativeForm) : Nat :=
  Nat.ofDigitChars 10 form.whole 0

/-- The nanoseconds that the digits behind the point denote, zero if there are none. -/
def nanoseconds (form : RelativeForm) : Nat :=
  (form.fraction?.map NanoTime.fractionNanoseconds).getD 0

/-- A number with the sign of the form. -/
def signed (form : RelativeForm) (number : Nat) : Int :=
  if form.negative then -number else number

/-- The parts have the digits that they need, and the number of seconds is in range. -/
structure IsLiteral (form : RelativeForm) : Prop where
  whole : ∀ letter ∈ form.whole, isDecimal letter = true
  fraction : ∀ digits, form.fraction? = some digits →
    digits.length ≤ 9 ∧ ∀ letter ∈ digits, isDecimal letter = true
  notEmpty : form.whole = [] → form.fraction?.isSome = true
  seconds_le : (form.seconds : Int) ≤ Int64.maxValue.toInt

/-- The numbers that are computed from the seconds. -/
def wideNumbers (form : RelativeForm) : List Int :=
  [form.seconds, form.signed form.seconds]

/-- The numbers that are computed from the digits behind the point: the one that they are, the power
of ten that scales it to nanoseconds, and the product without and with the sign. -/
def narrowNumbers (form : RelativeForm) : List Int :=
  match form.fraction? with
  | none => []
  | some digits =>
    [Nat.ofDigitChars 10 digits 0, Nat.pow 10 (9 - digits.length),
      NanoTime.fractionNanoseconds digits, form.signed (NanoTime.fractionNanoseconds digits)]

/-! ### Cutting a literal -/

variable {form : RelativeForm}

theorem splitFirst_body (literal : form.IsLiteral) :
    splitFirst '.' form.body = (form.whole, form.fraction?) := by
  have absent : '.' ∉ form.whole := fun member => absurd (literal.whole '.' member) (by decide)
  unfold body
  cases form.fraction? with
  | none => exact splitFirst_of_absent absent
  | some digits => exact splitFirst_of_not_mem absent digits

/-- Behind the sign, a literal begins with a digit or with the point. -/
theorem head?_body_ne (literal : form.IsLiteral) : form.body.head? ≠ some '-' := by
  unfold body
  cases digits : form.whole with
  | nil =>
    cases fraction : form.fraction? with
    | none => cases fraction.symm.trans (Option.eq_some_of_isSome (literal.notEmpty digits))
    | some digits => simp
  | cons digit rest =>
    have decimal := literal.whole digit (digits ▸ List.mem_cons_self)
    have other : digit ≠ '-' := by
      rintro rfl
      cases decimal
    cases form.fraction? <;> simpa using other

end RelativeForm

namespace NanoTime

theorem splitMinus_of_head?_ne {letters : List Char} (other : letters.head? ≠ some '-') :
    splitMinus letters = (false, letters) := by
  unfold splitMinus
  split
  · cases other rfl
  · rfl

/-- Cutting the sign off loses nothing. -/
theorem splitMinus_eq {letters body : List Char} {negative : Bool}
    (cut : splitMinus letters = (negative, body)) :
    letters = if negative then '-' :: body else body := by
  unfold splitMinus at cut
  split at cut <;> cases cut <;> rfl

theorem splitMinus_letters {form : RelativeForm} (literal : form.IsLiteral) :
    splitMinus form.letters = (form.negative, form.body) := by
  unfold RelativeForm.letters
  cases form.negative with
  | true => rfl
  | false => exact splitMinus_of_head?_ne (RelativeForm.head?_body_ne literal)

/-! ### The parts of a literal -/

theorem lt_pow_iff_le_maxValue {seconds : Nat} :
    seconds < Nat.pow 2 63 ↔ (seconds : Int) ≤ Int64.maxValue.toInt := by
  rw [Int64.toInt_maxValue, show Nat.pow 2 63 = 9223372036854775808 by decide]
  omega

/-- Seconds are read from digits if they are in range, and need not be there in front of a point. -/
theorem readSeconds?_eq_some_iff {hasPoint : Bool} {digits : List Char} {seconds : Nat} :
    readSeconds? hasPoint digits = some seconds ↔
      (∀ letter ∈ digits, isDecimal letter = true) ∧ (digits = [] → hasPoint = true) ∧
        seconds = Nat.ofDigitChars 10 digits 0 ∧ (seconds : Int) ≤ Int64.maxValue.toInt := by
  unfold readSeconds?
  by_cases missing : digits = []
  · subst missing
    cases hasPoint with
    | false => exact iff_of_false nofun fun read => nomatch read.2.1 rfl
    | true =>
      constructor
      · rintro ⟨⟩
        exact ⟨nofun, fun _ => rfl, rfl, by decide⟩
      · rintro ⟨-, -, rfl, -⟩
        rfl
  · rw [if_neg (by simpa using missing), Option.filter_eq_some_iff, natOfDigits?_eq_some_iff,
      decide_eq_true_eq, lt_pow_iff_le_maxValue]
    constructor
    · rintro ⟨⟨-, decimal, same⟩, inRange⟩
      exact ⟨decimal, fun nothing => absurd nothing missing, same, inRange⟩
    · rintro ⟨decimal, -, same, inRange⟩
      exact ⟨⟨missing, decimal, same⟩, inRange⟩

/-- Nanoseconds are read from up to nine digits, and are zero without any. -/
theorem readOptionalFraction?_eq_some_iff {fraction? : Option (List Char)} {nanoseconds : Nat} :
    readOptionalFraction? fraction? = some nanoseconds ↔
      (∀ digits, fraction? = some digits →
        digits.length ≤ 9 ∧ ∀ letter ∈ digits, isDecimal letter = true) ∧
      nanoseconds = (fraction?.map fractionNanoseconds).getD 0 := by
  match fraction? with
  | none =>
    exact ⟨fun read => ⟨nofun, (Option.some.inj read).symm⟩, fun read => congrArg some read.2.symm⟩
  | some [] =>
    constructor
    · rintro ⟨⟩
      refine ⟨?_, rfl⟩
      rintro digits ⟨⟩
      exact ⟨by decide, nofun⟩
    · rintro ⟨-, rfl⟩
      rfl
  | some (digit :: rest) =>
    refine readFraction?_eq_some_iff.trans (and_congr_left fun _ => ?_)
    constructor
    · rintro ⟨-, short, decimal⟩ digits ⟨⟩
      exact ⟨short, decimal⟩
    · intro each
      obtain ⟨short, decimal⟩ := each _ rfl
      exact ⟨Nat.succ_le_of_lt (Nat.succ_pos _), short, decimal⟩

/-- The relative times that a text denotes are those of its literal forms. -/
theorem ofRelativeText?_eq_some_iff {text : String} {time : NanoTime} :
    ofRelativeText? text = some time ↔
      ∃ form : RelativeForm, form.IsLiteral ∧ form.letters = text.toList ∧
        time = ofParts form.negative form.seconds form.nanoseconds := by
  constructor
  · intro read
    unfold ofRelativeText? at read
    rcases sign : splitMinus text.toList with ⟨negative, body⟩
    rcases cut : splitFirst '.' body with ⟨whole, fraction?⟩
    simp only [sign, cut, Option.bind_eq_bind, Option.pure_def, Option.bind_eq_some_iff,
      Option.some.injEq, readSeconds?_eq_some_iff, readOptionalFraction?_eq_some_iff] at read
    obtain ⟨_, ⟨wholeDecimal, notEmpty, rfl, inRange⟩, _, ⟨fractionDecimal, rfl⟩, rfl⟩ := read
    refine ⟨⟨negative, whole, fraction?⟩,
      ⟨wholeDecimal, fractionDecimal, notEmpty, inRange⟩, ?_, rfl⟩
    have whole := splitFirst_append '.' body
    rw [cut] at whole
    rw [splitMinus_eq sign, ← whole]
    cases fraction? <;> rfl
  · rintro ⟨form, literal, letters, rfl⟩
    have seconds : readSeconds? form.fraction?.isSome form.whole = some form.seconds :=
      readSeconds?_eq_some_iff.mpr ⟨literal.whole, literal.notEmpty, rfl, literal.seconds_le⟩
    have nanoseconds : readOptionalFraction? form.fraction? = some form.nanoseconds :=
      readOptionalFraction?_eq_some_iff.mpr ⟨literal.fraction, rfl⟩
    unfold ofRelativeText?
    simp only [← letters, splitMinus_letters literal, RelativeForm.splitFirst_body literal, seconds,
      nanoseconds, Option.bind_eq_bind, Option.bind_some, Option.pure_def]

/-! ### Ranges -/

/-- The parts of a time carry its sign, if they are in range without it. -/
theorem toInt_ofParts_of_le (negative : Bool) {seconds nanoseconds : Nat}
    (inRange : (seconds : Int) ≤ Int64.maxValue.toInt) (small : nanoseconds < 1000000000) :
    (ofParts negative seconds nanoseconds).seconds.toInt =
        (if negative then -(seconds : Int) else seconds) ∧
      (ofParts negative seconds nanoseconds).nanoseconds.toInt =
        if negative then -(nanoseconds : Int) else nanoseconds := by
  rw [Int64.toInt_maxValue] at inRange
  unfold ofParts
  cases negative with
  | false =>
    exact ⟨Int64.toInt_ofNat_of_lt (by omega), Int32.toInt_ofNat_of_lt (by omega)⟩
  | true =>
    rw [if_pos rfl, Int64.neg_ofNat, Int32.neg_ofNat]
    exact ⟨Int64.toInt_ofInt_of_le (by omega) (by omega),
      Int32.toInt_ofInt_of_le (by omega) (by omega)⟩

section

variable {form : RelativeForm} (literal : form.IsLiteral)

include literal

theorem nanoseconds_lt : form.nanoseconds < 1000000000 :=
  optionalNanoseconds_lt literal.fraction

/-- The numbers that are computed from the seconds are within the range of seconds. -/
theorem wideNumbers_inRange : ∀ number ∈ form.wideNumbers,
    Int64.minValue.toInt ≤ number ∧ number ≤ Int64.maxValue.toInt := by
  have atMost := literal.seconds_le
  rw [Int64.toInt_minValue]
  rw [Int64.toInt_maxValue] at *
  simp only [RelativeForm.wideNumbers, RelativeForm.signed, List.forall_mem_cons]
  refine ⟨by omega, ?_, nofun⟩
  split <;> omega

/-- The numbers that are computed from the digits behind the point are within the range of
nanoseconds. -/
theorem narrowNumbers_inRange : ∀ number ∈ form.narrowNumbers,
    Int32.minValue.toInt ≤ number ∧ number ≤ Int32.maxValue.toInt := by
  rw [Int32.toInt_minValue, Int32.toInt_maxValue]
  unfold RelativeForm.narrowNumbers
  cases fraction : form.fraction? with
  | none => exact nofun
  | some digits =>
    obtain ⟨short, decimal⟩ := literal.fraction digits fraction
    have product := fractionNanoseconds_lt short decimal
    have scale : Nat.pow 10 (9 - digits.length) ≤ Nat.pow 10 9 :=
      Nat.pow_le_pow_right (by decide) (Nat.sub_le ..)
    have greatest : Nat.pow 10 9 = 1000000000 := by decide
    have number : Nat.ofDigitChars 10 digits 0 ≤ fractionNanoseconds digits :=
      Nat.le_mul_of_pos_right _ (Nat.pow_pos (by decide))
    simp only [RelativeForm.signed, List.forall_mem_cons]
    refine ⟨by omega, by omega, by omega, ?_, nofun⟩
    split <;> omega

/-- The parts of the time carry the sign of the form. -/
theorem toInt_ofParts :
    (ofParts form.negative form.seconds form.nanoseconds).seconds.toInt =
        form.signed form.seconds ∧
      (ofParts form.negative form.seconds form.nanoseconds).nanoseconds.toInt =
        form.signed form.nanoseconds :=
  toInt_ofParts_of_le form.negative literal.seconds_le (nanoseconds_lt literal)

end

/-! ### What is read -/

section

variable {text : String}

theorem readRelative_eq_ok_iff {time : NanoTime} :
    readRelative text = .ok time ↔ ofRelativeText? text = some time := by
  unfold readRelative
  cases ofRelativeText? text <;> simp

theorem readRelative_of_forall_ne (other : ∀ time, readRelative text ≠ .ok time) :
    readRelative text = .error (.invalidRelativeTime text) := by
  simp only [ne_eq, readRelative_eq_ok_iff, ← Option.eq_none_iff_forall_ne_some] at other
  rw [readRelative, other]

end

/-- A text is a relative time exactly if it has the form of one, and is blamed otherwise. The time
has the seconds in front of the point and the nanoseconds behind it, both with the sign, and nothing
that is computed on the way leaves its range. -/
theorem readRelative_exact (text : String) :
    ((∃ time, readRelative text = .ok time) ↔
      ∃ form : RelativeForm, form.IsLiteral ∧ form.letters = text.toList) ∧
    ((¬∃ form : RelativeForm, form.IsLiteral ∧ form.letters = text.toList) →
      readRelative text = .error (.invalidRelativeTime text)) ∧
    ∀ form : RelativeForm, form.IsLiteral → form.letters = text.toList →
      (∃ time, readRelative text = .ok time ∧ time.seconds.toInt = form.signed form.seconds ∧
        time.nanoseconds.toInt = form.signed form.nanoseconds) ∧
      form.nanoseconds < 1000000000 ∧
      (∀ number ∈ form.wideNumbers,
        Int64.minValue.toInt ≤ number ∧ number ≤ Int64.maxValue.toInt) ∧
      ∀ number ∈ form.narrowNumbers,
        Int32.minValue.toInt ≤ number ∧ number ≤ Int32.maxValue.toInt := by
  have reads (time : NanoTime) : readRelative text = .ok time ↔ _ :=
    readRelative_eq_ok_iff.trans ofRelativeText?_eq_some_iff
  refine ⟨?_, fun other => readRelative_of_forall_ne fun time read => ?_,
    fun form literal letters => ⟨?_, nanoseconds_lt literal, wideNumbers_inRange literal,
      narrowNumbers_inRange literal⟩⟩
  · constructor
    · rintro ⟨time, read⟩
      obtain ⟨form, literal, letters, -⟩ := (reads time).mp read
      exact ⟨form, literal, letters⟩
    · rintro ⟨form, literal, letters⟩
      exact ⟨_, (reads _).mpr ⟨form, literal, letters, rfl⟩⟩
  · obtain ⟨form, literal, letters, -⟩ := (reads time).mp read
    exact other ⟨form, literal, letters⟩
  · exact ⟨_, (reads _).mpr ⟨form, literal, letters, rfl⟩, toInt_ofParts literal⟩

/-- The parts of the least time that can be written. -/
def leastForm : RelativeForm :=
  ⟨true, "9223372036854775807".toList, some "999999999".toList⟩

theorem isLiteral_leastForm : leastForm.IsLiteral where
  whole := by decide
  fraction := by
    rintro digits ⟨⟩
    decide
  notEmpty := nofun
  seconds_le := by decide

/-- The least time that can be written has the sign on both of its parts. -/
theorem readRelative_exact_least :
    leastForm.IsLiteral ∧ leastForm.letters = "-9223372036854775807.999999999".toList ∧
      ∃ time, readRelative "-9223372036854775807.999999999" = .ok time ∧
        time.seconds.toInt = -9223372036854775807 ∧ time.nanoseconds.toInt = -999999999 := by
  have letters : leastForm.letters = "-9223372036854775807.999999999".toList := by decide
  obtain ⟨-, -, read⟩ := readRelative_exact "-9223372036854775807.999999999"
  obtain ⟨time, isRead, seconds, nanoseconds⟩ := (read leastForm isLiteral_leastForm letters).1
  have wholeSeconds : leastForm.signed leastForm.seconds = -9223372036854775807 := by decide
  have fraction : leastForm.signed leastForm.nanoseconds = -999999999 := by decide
  exact ⟨isLiteral_leastForm, letters, time, isRead, seconds.trans wholeSeconds,
    nanoseconds.trans fraction⟩

end NanoTime

end PacketFilter
