/-
This file holds what a calendar and a clock on the wall show: a date and a time of day without
a zone. It is read from texts such as `Nov 12, 1999 08:55:44` and written in the same form.
Reading is lenient about white space in front of a number and about the number of digits; it is
strict about everything else.
-/

import PacketFilter.Text.Digits
import PacketFilter.Time.Calendar

namespace PacketFilter

namespace Text

/-- Whether a character is white space, by the Unicode property of that name. The no-break space and
the line separators are. -/
def isWhiteSpace (letter : Char) : Bool :=
  let code := letter.toNat
  (0x09 ≤ code && code ≤ 0x0D) || code = 0x20 || code = 0x85 || code = 0xA0 || code = 0x1680
    || (0x2000 ≤ code && code ≤ 0x200A) || code = 0x2028 || code = 0x2029 || code = 0x202F
    || code = 0x205F || code = 0x3000

/-- What is left of a text after the white space in front of it. -/
def skipWhiteSpace (letters : List Char) : List Char :=
  letters.dropWhile isWhiteSpace

end Text

open Text

/-- A date and a time of day. A second numbered 60 can be read, for the one that is added to a
minute now and then. -/
structure WallClock where
  date : Date
  hour : Nat
  minute : Nat
  second : Nat
  deriving DecidableEq

namespace WallClock

/-! ### Seconds -/

/-- The seconds from the beginning of 1970 on the same clock. -/
def seconds (clock : WallClock) : Int :=
  86400 * Calendar.dayNumber clock.date
    + (3600 * clock.hour + 60 * clock.minute + clock.second : Nat)

/-- What the clock shows when some seconds have passed since the beginning of 1970. -/
def ofSeconds (seconds : Int) : WallClock :=
  let timeOfDay := (seconds % 86400).toNat
  { date := Calendar.dateOfDay (seconds / 86400)
    hour := timeOfDay / 3600
    minute := timeOfDay / 60 % 60
    second := timeOfDay % 60 }

/-- Whether there is such a day, in a year that times may lie in, and such a time of day. -/
def isValid (clock : WallClock) : Bool :=
  Calendar.isDate clock.date && Calendar.isCovered clock.date.year
    && clock.hour ≤ 23 && clock.minute ≤ 59 && clock.second ≤ 60

/-! ### Reading -/

/-- The names of the months. -/
def monthNames : List String :=
  ["Jan", "Feb", "Mar", "Apr", "May", "Jun", "Jul", "Aug", "Sep", "Oct", "Nov", "Dec"]

/-- The month that the first three letters of a text name, in either case, and what follows. -/
def readMonth? (letters : List Char) : Option (Nat × List Char) :=
  let name := (letters.take 3).map Char.toLower
  let place := monthNames.findIdx fun month => month.toList.map Char.toLower = name
  if place < 12 then some (place + 1, letters.drop 3) else none

/-- The number at the beginning of a text, of at most the given count of digits, and what
follows it. -/
def readDigits? (atMost : Nat) (letters : List Char) : Option (Nat × List Char) :=
  let digits := (letters.take atMost).takeWhile isDecimal
  (natOfDigits? 10 digits).map fun number => (number, letters.drop digits.length)

/-- A number of one or two digits, after any white space. -/
def readTwoDigits? (letters : List Char) : Option (Nat × List Char) :=
  readDigits? 2 (skipWhiteSpace letters)

/-- A year, after any white space: one to four digits, or a sign and any count of digits. -/
def readYear? (letters : List Char) : Option (Int × List Char) :=
  match skipWhiteSpace letters with
  | '-' :: rest => (readDigits? rest.length rest).map fun (year, rest) => (-(year : Int), rest)
  | '+' :: rest => (readDigits? rest.length rest).map fun (year, rest) => ((year : Int), rest)
  | rest => (readDigits? 4 rest).map fun (year, rest) => ((year : Int), rest)

/-- What follows a character that has to be there. -/
def readMark? (mark : Char) : List Char → Option (List Char)
  | letter :: rest => if letter = mark then some rest else none
  | [] => none

/-- The parts of a date and a time of day, whether or not there is such a day. -/
def readParts? (letters : List Char) : Option WallClock := do
  let (month, letters) ← readMonth? letters
  let (day, letters) ← readTwoDigits? letters
  let letters ← readMark? ',' letters
  let (year, letters) ← readYear? letters
  let (hour, letters) ← readTwoDigits? letters
  let letters ← readMark? ':' letters
  let (minute, letters) ← readTwoDigits? letters
  let letters ← readMark? ':' letters
  let (second, letters) ← readTwoDigits? letters
  if letters.isEmpty then some ⟨⟨year, month, day⟩, hour, minute, second⟩ else none

/-- The date and time of day that a text denotes. -/
def read? (letters : List Char) : Option WallClock :=
  (readParts? letters).filter isValid

/-! ### Writing -/

/-- A year: four digits, and outside the years 0 to 9999 a sign in front of them. -/
def yearText (year : Int) : String :=
  if 0 ≤ year ∧ year ≤ 9999 then paddedText 4 year.natAbs
  else (if year < 0 then "-" else "+") ++ paddedText 4 year.natAbs

/-- The text of a date and a time of day. The day of the month takes two places. -/
def text (clock : WallClock) : String :=
  monthNames.getD (clock.date.month - 1) "" ++ " "
    ++ String.ofList (List.leftpad 2 ' ' (decimalDigits clock.date.day)) ++ ", "
    ++ yearText clock.date.year ++ " " ++ paddedText 2 clock.hour ++ ":"
    ++ paddedText 2 clock.minute ++ ":" ++ paddedText 2 clock.second

end WallClock

end PacketFilter
