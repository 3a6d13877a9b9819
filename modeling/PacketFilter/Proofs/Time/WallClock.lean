/-
This file shows that what a clock on the wall shows is read back from its text: the parts of a
date are written in such a way that reading tells them apart, whether or not the year has a sign
in front of it and the day a blank. The clock of a count of seconds shows a valid time as long as
its year is covered, and counting the seconds of that clock gives the same count.
-/

import PacketFilter.Proofs.Text.Digits
import PacketFilter.Proofs.Time.Calendar
import PacketFilter.Time.WallClock

namespace PacketFilter

open Text

namespace WallClock

/-! ### Times of day -/

/-- The time of day is one of a day with twenty-four hours; a minute may have a second numbered
60. -/
structure IsTimeOfDay (clock : WallClock) : Prop where
  hour : clock.hour ≤ 23
  minute : clock.minute ≤ 59
  second : clock.second ≤ 60

theorem isValid_iff {clock : WallClock} : clock.isValid = true ↔
    Calendar.isDate clock.date = true ∧ Calendar.isCovered clock.date.year = true ∧
      clock.IsTimeOfDay := by
  simp only [isValid, Bool.and_eq_true, decide_eq_true_eq]
  constructor
  · rintro ⟨⟨⟨⟨isDay, covered⟩, hour⟩, minute⟩, second⟩
    exact ⟨isDay, covered, hour, minute, second⟩
  · rintro ⟨isDay, covered, hour, minute, second⟩
    exact ⟨⟨⟨⟨isDay, covered⟩, hour⟩, minute⟩, second⟩

/-! ### Counting -/

@[simp] theorem seconds_ofSeconds (count : Int) : (ofSeconds count).seconds = count := by
  simp only [seconds, ofSeconds, Calendar.dayNumber_dateOfDay]
  omega

theorem isValid_ofSeconds {count : Int}
    (covered : Calendar.isCovered (Calendar.yearOfDay (count / 86400)) = true) :
    (ofSeconds count).isValid = true := by
  refine isValid_iff.mpr ⟨Calendar.isDate_dateOfDay _, covered, ?_, ?_, ?_⟩
  · simp only [ofSeconds]
    omega
  · simp only [ofSeconds]
    omega
  · simp only [ofSeconds]
    omega

theorem second_ofSeconds_lt (count : Int) : (ofSeconds count).second < 60 :=
  Nat.mod_lt _ (by decide)

/-! ### Reading numbers -/

theorem not_isWhiteSpace_of_isDecimal {letter : Char} (decimal : isDecimal letter = true) :
    isWhiteSpace letter = false := by
  simp only [isDecimal, Bool.and_eq_true, decide_eq_true_eq] at decimal
  have atLeast : 48 ≤ letter.toNat := decimal.1
  have atMost : letter.toNat ≤ 57 := decimal.2
  simp only [isWhiteSpace, Bool.or_eq_false_iff, Bool.and_eq_false_iff, decide_eq_false_iff_not]
  omega

/-- White space in front of a text that begins otherwise is skipped, and no more. -/
theorem skipWhiteSpace_append {blanks rest : List Char}
    (white : ∀ letter ∈ blanks, isWhiteSpace letter = true)
    (begins : ∀ letter ∈ rest.head?, isWhiteSpace letter = false) :
    skipWhiteSpace (blanks ++ rest) = rest :=
  (takeWhile_append_of_head? white begins).2

/-- Digits are read up to the end that their greatest count or another character sets them. -/
theorem readDigits?_append {atMost number : Nat} {digits rest : List Char}
    (decimal : ∀ letter ∈ digits, isDecimal letter = true)
    (reads : natOfDigits? 10 digits = some number) (fits : digits.length ≤ atMost)
    (ends : digits.length = atMost ∨ ∀ letter ∈ rest.head?, isDecimal letter = false) :
    readDigits? atMost (digits ++ rest) = some (number, rest) := by
  have stops : ∀ letter ∈ (rest.take (atMost - digits.length)).head?, isDecimal letter = false := by
    rcases ends with full | stops
    · rw [full, Nat.sub_self]
      exact nofun
    · intro letter first
      rw [List.head?_take] at first
      split at first
      · cases first
      · exact stops letter first
  have taken : ((digits ++ rest).take atMost).takeWhile isDecimal = digits := by
    rw [List.take_append, List.take_of_length_le fits]
    exact (takeWhile_append_of_head? decimal stops).1
  simp only [readDigits?, taken, reads, Option.map_some, List.drop_left]

/-- A number of two digits, or of one digit after a blank, is read back. -/
theorem readTwoDigits?_append {number : Nat} {blanks digits rest : List Char}
    (white : ∀ letter ∈ blanks, isWhiteSpace letter = true)
    (decimal : ∀ letter ∈ digits, isDecimal letter = true)
    (reads : natOfDigits? 10 digits = some number) (fits : digits.length ≤ 2)
    (ends : digits.length = 2 ∨ ∀ letter ∈ rest.head?, isDecimal letter = false) :
    readTwoDigits? (blanks ++ (digits ++ rest)) = some (number, rest) := by
  have begins : ∀ letter ∈ (digits ++ rest).head?, isWhiteSpace letter = false := by
    cases digits with
    | nil => cases reads
    | cons digit others =>
      intro letter first
      cases first
      exact not_isWhiteSpace_of_isDecimal (decimal digit List.mem_cons_self)
  unfold readTwoDigits?
  rw [skipWhiteSpace_append white begins, readDigits?_append decimal reads fits ends]

theorem readTwoDigits?_paddedDigits {blanks : List Char}
    (white : ∀ letter ∈ blanks, isWhiteSpace letter = true) {number : Nat} (small : number < 100)
    (rest : List Char) :
    readTwoDigits? (blanks ++ (paddedDigits 2 number ++ rest)) = some (number, rest) :=
  have length : (paddedDigits 2 number).length = 2 := length_paddedDigits (by decide) small
  readTwoDigits?_append white (fun _ => isDecimal_of_mem_paddedDigits)
    (natOfDigits?_paddedDigits 2 number) (Nat.le_of_eq length) (.inl length)

/-! ### Reading the parts of a date -/

/-- The name of a month is read, in either case. -/
theorem readMonth?_name {month : Nat} (atLeast : 1 ≤ month) (atMost : month ≤ 12)
    {name : List Char}
    (named : name.map Char.toLower = (monthNames.getD (month - 1) "").toList.map Char.toLower)
    (rest : List Char) : readMonth? (name ++ rest) = some (month, rest) := by
  have threeLetters : ∀ index < 12, (monthNames.getD index "").toList.length = 3 := by decide
  have place : ∀ index < 12, (monthNames.findIdx fun other =>
      other.toList.map Char.toLower = (monthNames.getD index "").toList.map Char.toLower) =
        index := by decide
  have inYear : month - 1 < 12 := by omega
  have length : name.length = 3 := by
    rw [← List.length_map Char.toLower, named, List.length_map, threeLetters _ inYear]
  unfold readMonth?
  simp only [List.take_left' length, List.drop_left' length, named, place _ inYear, if_pos inYear,
    Nat.sub_add_cancel atLeast]

section

variable {number : Nat} {digits rest : List Char}
  (decimal : ∀ letter ∈ digits, isDecimal letter = true)
  (reads : natOfDigits? 10 digits = some number)
  (stops : ∀ letter ∈ rest.head?, isDecimal letter = false)

include decimal reads stops

/-- After a sign, as many digits are read as there are. -/
theorem readDigits?_length_append :
    readDigits? (digits ++ rest).length (digits ++ rest) = some (number, rest) :=
  have fits : digits.length ≤ (digits ++ rest).length := by simp
  readDigits?_append decimal reads fits (.inr stops)

theorem readYear?_minus :
    readYear? (' ' :: '-' :: (digits ++ rest)) = some (-(number : Int), rest) := by
  show (readDigits? (digits ++ rest).length (digits ++ rest)).map _ = _
  rw [readDigits?_length_append decimal reads stops, Option.map_some]

theorem readYear?_plus :
    readYear? (' ' :: '+' :: (digits ++ rest)) = some ((number : Int), rest) := by
  show (readDigits? (digits ++ rest).length (digits ++ rest)).map _ = _
  rw [readDigits?_length_append decimal reads stops, Option.map_some]

/-- Without a sign, a year has up to four digits. -/
theorem readYear?_digits (fits : digits.length ≤ 4) :
    readYear? (' ' :: (digits ++ rest)) = some ((number : Int), rest) := by
  have read := readDigits?_append decimal reads fits (.inr stops)
  cases digits with
  | nil => cases reads
  | cons digit others =>
    have isDigit : isDecimal digit = true := decimal digit List.mem_cons_self
    rw [List.cons_append] at read ⊢
    have skipped : skipWhiteSpace (' ' :: digit :: (others ++ rest)) =
        digit :: (others ++ rest) := by
      have blank : ∀ letter ∈ [' '], isWhiteSpace letter = true :=
        List.forall_mem_singleton.mpr rfl
      refine skipWhiteSpace_append blank ?_
      rintro letter ⟨⟩
      exact not_isWhiteSpace_of_isDecimal isDigit
    unfold readYear?
    rw [skipped]
    split
    · rename_i same
      cases same
      cases isDigit
    · rename_i same
      cases same
      cases isDigit
    · rw [read, Option.map_some]

end

/-- A year is read back, with its sign or without one. -/
theorem readYear?_append (year : Int) (rest : List Char) :
    readYear? (' ' :: ((yearText year).toList ++ ' ' :: rest)) = some (year, ' ' :: rest) := by
  have decimal : ∀ letter ∈ paddedDigits 4 year.natAbs, isDecimal letter = true :=
    fun _ => isDecimal_of_mem_paddedDigits
  have reads := natOfDigits?_paddedDigits 4 year.natAbs
  have stops : ∀ letter ∈ (' ' :: rest).head?, isDecimal letter = false := by
    rintro letter ⟨⟩
    rfl
  unfold yearText
  by_cases fourDigits : 0 ≤ year ∧ year ≤ 9999
  · have length : (paddedDigits 4 year.natAbs).length = 4 :=
      length_paddedDigits (by decide) (show year.natAbs < 10000 by omega)
    rw [if_pos fourDigits, paddedText, String.toList_ofList,
      readYear?_digits decimal reads stops (Nat.le_of_eq length),
      Int.natAbs_of_nonneg fourDigits.1]
  · rw [if_neg fourDigits]
    by_cases negative : year < 0
    · rw [if_pos negative]
      simp only [paddedText, String.toList_append, String.toList_ofList]
      show readYear? (' ' :: '-' :: (paddedDigits 4 year.natAbs ++ ' ' :: rest)) = _
      rw [readYear?_minus decimal reads stops, Int.ofNat_natAbs_of_nonpos (Int.le_of_lt negative),
        Int.neg_neg]
    · rw [if_neg negative]
      simp only [paddedText, String.toList_append, String.toList_ofList]
      show readYear? (' ' :: '+' :: (paddedDigits 4 year.natAbs ++ ' ' :: rest)) = _
      rw [readYear?_plus decimal reads stops, Int.natAbs_of_nonneg (Int.not_lt.mp negative)]

/-- A day of the month is read back, with the blank in front of it or without one. -/
theorem readDay?_append {day : Nat} (small : day < 100) (rest : List Char) :
    readTwoDigits? (' ' :: (List.leftpad 2 ' ' (decimalDigits day) ++ ',' :: rest)) =
      some (day, ',' :: rest) := by
  have white : ∀ letter ∈ ' ' :: List.replicate (2 - (decimalDigits day).length) ' ',
      isWhiteSpace letter = true := by
    intro letter member
    rw [← List.replicate_succ] at member
    rw [(List.mem_replicate.mp member).2]
    rfl
  have fits : (decimalDigits day).length ≤ 2 :=
    (Nat.length_toDigits_le_iff (by decide) (by decide)).mpr small
  have stops : ∀ letter ∈ (',' :: rest).head?, isDecimal letter = false := by
    rintro letter ⟨⟩
    rfl
  have read := readTwoDigits?_append white (fun _ => isDecimal_of_mem_decimalDigits)
    (natOfDigits?_decimalDigits day) fits (.inr stops)
  rwa [List.cons_append, ← List.append_assoc] at read

theorem readMark?_cons (mark : Char) (rest : List Char) :
    readMark? mark (mark :: rest) = some rest :=
  if_pos rfl

/-! ### Reading what is written -/

/-- The text of a date and a time of day, letter by letter. -/
theorem toList_text (clock : WallClock) :
    clock.text.toList =
      (monthNames.getD (clock.date.month - 1) "").toList ++
        (' ' :: (List.leftpad 2 ' ' (decimalDigits clock.date.day) ++
          (',' :: ' ' :: ((yearText clock.date.year).toList ++
            (' ' :: (paddedDigits 2 clock.hour ++ (':' :: (paddedDigits 2 clock.minute ++
              (':' :: (paddedDigits 2 clock.second ++ [])))))))))) := by
  simp [text, paddedText]

/-- There is no point in the text, so the point that follows it ends it. -/
theorem point_not_mem_text (clock : WallClock) : '.' ∉ clock.text.toList := by
  have notDecimal {digits : List Char} (decimal : ∀ letter ∈ digits, isDecimal letter = true) :
      '.' ∉ digits := fun member => absurd (decimal '.' member) (by decide)
  have padded (width number : Nat) : '.' ∉ paddedDigits width number :=
    notDecimal fun _ => isDecimal_of_mem_paddedDigits
  have day : '.' ∉ decimalDigits clock.date.day :=
    notDecimal fun _ => isDecimal_of_mem_decimalDigits
  have name : '.' ∉ (monthNames[clock.date.month - 1]?.getD "").toList := by
    have each : ∀ name ∈ monthNames, '.' ∉ name.toList := by decide
    cases found : monthNames[clock.date.month - 1]? with
    | none => simp
    | some name => exact each name (List.mem_of_getElem? found)
  have year : '.' ∉ (yearText clock.date.year).toList := by
    unfold yearText
    split
    · simp [paddedText, padded]
    · split <;> simp [paddedText, padded]
  rw [toList_text]
  simp [List.leftpad, padded, day, name, year]

/-- What is written is read back. -/
theorem read?_text {clock : WallClock} (valid : clock.isValid = true) :
    read? clock.text.toList = some clock := by
  obtain ⟨isDay, -, hour, minute, second⟩ := isValid_iff.mp valid
  obtain ⟨firstMonth, lastMonth, -, lastDay⟩ := Calendar.isDate_iff.mp isDay
  have monthLength := Calendar.getD_monthLengths_le clock.date.year (clock.date.month - 1)
  have blank : ∀ letter ∈ [' '], isWhiteSpace letter = true :=
    List.forall_mem_singleton.mpr rfl
  have noBlank : ∀ letter ∈ ([] : List Char), isWhiteSpace letter = true :=
    List.forall_mem_nil _
  have read : readParts? clock.text.toList = some clock := by
    rw [toList_text, readParts?, readMonth?_name firstMonth lastMonth rfl]
    simp only [Option.bind_eq_bind, Option.bind_some]
    rw [readDay?_append (by omega)]
    simp only [Option.bind_some, readMark?_cons, readYear?_append]
    rw [← List.singleton_append, readTwoDigits?_paddedDigits blank (by omega)]
    simp only [Option.bind_some, readMark?_cons]
    rw [← List.nil_append (paddedDigits 2 clock.minute ++ _),
      readTwoDigits?_paddedDigits noBlank (by omega)]
    simp only [Option.bind_some, readMark?_cons]
    rw [← List.nil_append (paddedDigits 2 clock.second ++ _),
      readTwoDigits?_paddedDigits noBlank (by omega)]
    rfl
  unfold read?
  rw [read, Option.filter_some, if_pos valid]

end WallClock

end PacketFilter
