/-
This file reads the texts by which an environment names its zone: a name and an offset, such as
`EST5`, and for a zone with summer time also a second name and the two days on which the clocks
change, such as `EST5EDT,M3.2.0/2,M11.1.0/2`. Offsets in these texts count to the west. A text with
a rule, an offset or a time that there is not names no zone.
-/

import PacketFilter.Time.Zone

namespace PacketFilter

open Text

namespace Zone

/-- Whether a zone may have the name: three to seven letters, digits and signs. -/
def isName (name : List Char) : Bool :=
  3 ≤ name.length && name.length ≤ 7
    && name.all fun letter => letter.isAlphanum || letter = '+' || letter = '-'

/-- What follows a zone name: a row of letters, or what stands between angle brackets. -/
def skipName? : List Char → Option (List Char)
  | '<' :: rest =>
    let (name, behind) := rest.span (· ≠ '>')
    if isName name then behind.tail? else none
  | letters =>
    let (name, behind) := letters.span Char.isAlpha
    if isName name then some behind else none

/-- A number at the beginning of a text and what follows it. -/
def readNumber? (letters : List Char) : Option (Nat × List Char) :=
  WallClock.readDigits? letters.length letters

/-- A part of a clock time after a colon, zero if there is none. -/
def readClockPart? : List Char → Option (Nat × List Char)
  | ':' :: rest => readNumber? rest
  | letters => some (0, letters)

/-- Hours, up to twenty-four, with minutes and seconds if there are any, as seconds. -/
def readClock? (letters : List Char) : Option (Nat × List Char) := do
  let (hours, letters) ← readNumber? letters
  let (minutes, letters) ← readClockPart? letters
  let (seconds, letters) ← readClockPart? letters
  if hours ≤ 24 ∧ minutes ≤ 59 ∧ seconds ≤ 59 then
    some ((hours * 60 + minutes) * 60 + seconds, letters)
  else none

/-- An offset: a clock time with an optional sign. It counts to the west. -/
def readOffset? : List Char → Option (Int × List Char)
  | '-' :: rest => (readClock? rest).map fun (west, rest) => ((west : Int), rest)
  | '+' :: rest => (readClock? rest).map fun (west, rest) => (-(west : Int), rest)
  | letters => (readClock? letters).map fun (west, rest) => (-(west : Int), rest)

/-- A day of every year: `M` with a month, a week and a weekday, `J` with a day of a common year, or
a day of the year alone. -/
def readDay? : List Char → Option (YearlyDay × List Char)
  | 'M' :: letters => do
    let (month, letters) ← readNumber? letters
    let letters ← WallClock.readMark? '.' letters
    let (week, letters) ← readNumber? letters
    let letters ← WallClock.readMark? '.' letters
    let (weekday, letters) ← readNumber? letters
    return (.inWeek month week weekday, letters)
  | 'J' :: letters => (readNumber? letters).map fun (number, rest) => (.inCommonYear number, rest)
  | letters => (readNumber? letters).map fun (number, rest) => (.inYear number, rest)

/-- A day on which the clocks change, after its comma. The time is two o'clock if none is
given. -/
def readChange? (letters : List Char) : Option (YearlyChange × List Char) := do
  let letters ← WallClock.readMark? ',' letters
  let (rule, letters) ← (readDay? letters).filter fun (rule, _) => rule.isValid
  match letters with
  | '/' :: rest => (readClock? rest).map fun (timeOfDay, rest) => (⟨rule, timeOfDay⟩, rest)
  | _ => return (⟨rule, 7200⟩, letters)

/-- The offset of summer time, one hour more than that of standard time if it is not given. -/
def readSummerOffset? (standard : Int) (letters : List Char) : Option (Int × List Char) :=
  if letters.head? = some ',' then some (standard + 3600, letters) else readOffset? letters

/-- The zone that a text names. -/
def ofText? (text : String) : Option Zone := do
  let letters ← skipName? text.toList
  let (standard, letters) ← readOffset? letters
  if letters.isEmpty then return .fixed standard
  let letters ← skipName? letters
  let (summer, letters) ← readSummerOffset? standard letters
  let (starts, letters) ← readChange? letters
  let (ends, letters) ← readChange? letters
  if letters.isEmpty then some (.daylight standard summer starts ends) else none

end Zone

end PacketFilter
