/-
This file describes absolute times as they are written: the name of a month, numbers of the right
count of digits, and what stands behind the point. The parts of a text of that form are read back
from it exactly if there is such a day, such a time of day and such a fraction.
-/

import PacketFilter.Proofs.Time.Fraction
import PacketFilter.Proofs.Time.WallClock
import PacketFilter.Time.Absolute

namespace PacketFilter

open Text

/-! ### The form of a literal -/

/-- A row of digits, one at least and at most as many as given. -/
structure IsNumeral (atMost : Nat) (digits : List Char) : Prop where
  nonempty : digits ≠ []
  decimal : ∀ letter ∈ digits, isDecimal letter = true
  fits : digits.length ≤ atMost

instance (atMost : Nat) (digits : List Char) : Decidable (IsNumeral atMost digits) :=
  decidable_of_iff
    (digits ≠ [] ∧ (∀ letter ∈ digits, isDecimal letter = true) ∧ digits.length ≤ atMost)
    ⟨fun ⟨nonempty, decimal, fits⟩ => ⟨nonempty, decimal, fits⟩,
      fun isNumeral => ⟨isNumeral.nonempty, isNumeral.decimal, isNumeral.fits⟩⟩

/-- The number that a row of digits denotes. -/
def numeral (digits : List Char) : Nat :=
  Nat.ofDigitChars 10 digits 0

theorem IsNumeral.reads {atMost : Nat} {digits : List Char} (isNumeral : IsNumeral atMost digits) :
    natOfDigits? 10 digits = some (numeral digits) :=
  natOfDigits?_of_isDecimal isNumeral.nonempty isNumeral.decimal

theorem IsNumeral.point_not_mem {atMost : Nat} {digits : List Char}
    (isNumeral : IsNumeral atMost digits) : '.' ∉ digits :=
  fun member => absurd (isNumeral.decimal '.' member) (by decide)

/-- A year as it is written: as digits only, or with a sign in front of them. -/
inductive YearForm where
  | unsigned (digits : List Char)
  | signed (negative : Bool) (digits : List Char)

namespace YearForm

def letters : YearForm → List Char
  | unsigned digits => digits
  | signed negative digits => (if negative then '-' else '+') :: digits

def number : YearForm → Int
  | unsigned digits => numeral digits
  | signed negative digits => if negative then -(numeral digits : Int) else numeral digits

/-- Without a sign there are one to four digits, and with one any count of them. -/
def IsSpelled : YearForm → Prop
  | unsigned digits => IsNumeral 4 digits
  | signed _ digits => IsNumeral digits.length digits

instance : DecidablePred IsSpelled
  | unsigned digits => inferInstanceAs (Decidable (IsNumeral 4 digits))
  | signed _ digits => inferInstanceAs (Decidable (IsNumeral digits.length digits))

variable {year : YearForm}

theorem point_not_mem_letters (spelled : year.IsSpelled) : '.' ∉ year.letters := by
  match year with
  | unsigned digits => exact IsNumeral.point_not_mem spelled
  | signed true digits => simpa [letters] using IsNumeral.point_not_mem spelled
  | signed false digits => simpa [letters] using IsNumeral.point_not_mem spelled

/-- A year is read after a blank, up to the next character that is no digit. -/
theorem readYear?_letters (spelled : year.IsSpelled) {rest : List Char}
    (stops : ∀ letter ∈ rest.head?, isDecimal letter = false) :
    WallClock.readYear? (' ' :: (year.letters ++ rest)) = some (year.number, rest) := by
  match year with
  | unsigned digits =>
    exact WallClock.readYear?_digits spelled.decimal spelled.reads stops spelled.fits
  | signed true digits => exact WallClock.readYear?_minus spelled.decimal spelled.reads stops
  | signed false digits => exact WallClock.readYear?_plus spelled.decimal spelled.reads stops

end YearForm

/-- The parts of an absolute time as it is written: the number of the month and its name, the year,
the digits of the other numbers, and what stands behind the point if there is one. -/
structure AbsoluteForm where
  month : Nat
  name : List Char
  day : List Char
  year : YearForm
  hour : List Char
  minute : List Char
  second : List Char
  fraction? : Option (List Char)

namespace AbsoluteForm

/-- The date and the time of day, up to the point. -/
def dateLetters (form : AbsoluteForm) : List Char :=
  form.name ++ ' ' :: (form.day ++ ',' :: ' ' :: (form.year.letters ++ ' ' ::
    (form.hour ++ ':' :: (form.minute ++ ':' :: form.second))))

def text (form : AbsoluteForm) : String :=
  String.ofList <| match form.fraction? with
    | none => form.dateLetters
    | some digits => form.dateLetters ++ '.' :: digits

/-- The numbers of the date and the time of day. -/
def clock (form : AbsoluteForm) : WallClock :=
  ⟨⟨form.year.number, form.month, numeral form.day⟩, numeral form.hour, numeral form.minute,
    numeral form.second⟩

/-- The nanoseconds that the digits behind the point denote, zero if there is none. -/
def nanoseconds (form : AbsoluteForm) : Nat :=
  (form.fraction?.map NanoTime.fractionNanoseconds).getD 0

/-- The month has its name, in either case, and the numbers have as many digits as they may. -/
structure IsSpelled (form : AbsoluteForm) : Prop where
  month : 1 ≤ form.month ∧ form.month ≤ 12
  name : form.name.map Char.toLower =
    (WallClock.monthNames.getD (form.month - 1) "").toList.map Char.toLower
  day : IsNumeral 2 form.day
  year : form.year.IsSpelled
  hour : IsNumeral 2 form.hour
  minute : IsNumeral 2 form.minute
  second : IsNumeral 2 form.second

/-- There is such a day, in a year that times may lie in, such a time of day, and such a
fraction. -/
structure IsInstant (form : AbsoluteForm) : Prop where
  isDate : Calendar.isDate form.clock.date = true
  year : -262143 ≤ form.clock.date.year ∧ form.clock.date.year ≤ 262142
  timeOfDay : form.clock.IsTimeOfDay
  fraction : ∀ digits, form.fraction? = some digits → NanoTime.IsFraction digits

variable {form : AbsoluteForm}

theorem isInstant_iff : form.IsInstant ↔ form.clock.isValid = true ∧
    ∀ digits, form.fraction? = some digits → NanoTime.IsFraction digits := by
  rw [WallClock.isValid_iff, Calendar.isCovered_iff]
  constructor
  · rintro ⟨isDay, year, timeOfDay, fraction⟩
    exact ⟨⟨isDay, year, timeOfDay⟩, fraction⟩
  · rintro ⟨⟨isDay, year, timeOfDay⟩, fraction⟩
    exact ⟨isDay, year, timeOfDay, fraction⟩

/-! ### Reading the parts -/

section

variable (spelled : form.IsSpelled)

include spelled

/-- No letter of the date is a point. -/
theorem point_not_mem_dateLetters : '.' ∉ form.dateLetters := by
  have name : '.' ∉ form.name := by
    intro member
    have lower : '.' ∈ form.name.map Char.toLower := List.mem_map.mpr ⟨'.', member, rfl⟩
    have each : ∀ index < 12,
        '.' ∉ (WallClock.monthNames.getD index "").toList.map Char.toLower := by decide
    rw [spelled.name] at lower
    exact each (form.month - 1) (by have := spelled.month; omega) lower
  simp [dateLetters, name, spelled.day.point_not_mem, spelled.hour.point_not_mem,
    spelled.minute.point_not_mem, spelled.second.point_not_mem,
    YearForm.point_not_mem_letters spelled.year]

theorem splitFirst_text :
    splitFirst '.' form.text.toList = (form.dateLetters, form.fraction?) := by
  have absent := point_not_mem_dateLetters spelled
  rw [text, String.toList_ofList]
  cases form.fraction? with
  | none => exact splitFirst_of_absent absent
  | some digits => exact splitFirst_of_not_mem absent digits

/-- The numbers of the date are read one after the other, each up to the mark behind it. -/
theorem readParts?_dateLetters : WallClock.readParts? form.dateLetters = some form.clock := by
  have stops (mark : Char) (other : isDecimal mark = false) (rest : List Char) :
      ∀ letter ∈ (mark :: rest).head?, isDecimal letter = false := by
    rintro letter ⟨⟩
    exact other
  have blank : ∀ letter ∈ [' '], isWhiteSpace letter = true := List.forall_mem_singleton.mpr rfl
  have afterBlank {digits rest : List Char} (isNumeral : IsNumeral 2 digits)
      (ends : ∀ letter ∈ rest.head?, isDecimal letter = false) :
      WallClock.readTwoDigits? (' ' :: (digits ++ rest)) = some (numeral digits, rest) :=
    WallClock.readTwoDigits?_append blank isNumeral.decimal isNumeral.reads isNumeral.fits
      (.inr ends)
  have afterMark {digits rest : List Char} (isNumeral : IsNumeral 2 digits)
      (ends : ∀ letter ∈ rest.head?, isDecimal letter = false) :
      WallClock.readTwoDigits? (digits ++ rest) = some (numeral digits, rest) :=
    WallClock.readTwoDigits?_append (List.forall_mem_nil _) isNumeral.decimal isNumeral.reads
      isNumeral.fits (.inr ends)
  have last : WallClock.readTwoDigits? form.second = some (numeral form.second, []) := by
    have ends : ∀ letter ∈ ([] : List Char).head?, isDecimal letter = false := nofun
    simpa using afterMark spelled.second ends
  unfold WallClock.readParts? dateLetters
  rw [WallClock.readMonth?_name spelled.month.1 spelled.month.2 spelled.name]
  simp only [Option.bind_eq_bind, Option.bind_some,
    afterBlank spelled.day (stops ',' rfl _), WallClock.readMark?_cons,
    YearForm.readYear?_letters spelled.year (stops ' ' rfl _),
    afterBlank spelled.hour (stops ':' rfl _), afterMark spelled.minute (stops ':' rfl _), last]
  rfl

/-- The parts of a text are those of its form if there is such an instant. -/
theorem readAbsoluteParts?_text (isInstant : form.IsInstant) :
    NanoTime.readAbsoluteParts? form.text = some (form.clock, form.nanoseconds) := by
  obtain ⟨valid, isFraction⟩ := isInstant_iff.mp isInstant
  have clock : WallClock.read? form.dateLetters = some form.clock := by
    rw [WallClock.read?, readParts?_dateLetters spelled, Option.filter_some, if_pos valid]
  unfold NanoTime.readAbsoluteParts? nanoseconds
  simp only [splitFirst_text spelled, clock, Option.bind_eq_bind, Option.bind_some]
  cases fraction : form.fraction? with
  | none => rfl
  | some digits =>
    have read := NanoTime.readFraction?_eq_some_iff.mpr ⟨isFraction digits fraction, rfl⟩
    simp only [read, Option.bind_some, Option.pure_def, Option.map_some, Option.getD_some]

/-- A text has parts only if there is such an instant. -/
theorem isInstant_of_readAbsoluteParts? {parts : WallClock × Nat}
    (read : NanoTime.readAbsoluteParts? form.text = some parts) : form.IsInstant := by
  unfold NanoTime.readAbsoluteParts? WallClock.read? at read
  simp only [splitFirst_text spelled, readParts?_dateLetters spelled, Option.bind_eq_bind] at read
  obtain ⟨clock, isClock, read⟩ := Option.bind_eq_some_iff.mp read
  obtain ⟨same, valid⟩ := Option.filter_eq_some_iff.mp isClock
  cases same
  refine isInstant_iff.mpr ⟨valid, fun digits fraction => ?_⟩
  simp only [fraction] at read
  obtain ⟨nanoseconds, isFraction, -⟩ := Option.bind_eq_some_iff.mp read
  exact NanoTime.isFraction_of_readFraction? isFraction

end

end AbsoluteForm

end PacketFilter
