/-
This file holds the digits that numbers are read from and written with: the value of a digit
character in a base up to sixteen, the value of a row of digits, and the padded decimal forms.
Only ASCII characters are digits.
-/

namespace PacketFilter.Text

/-! ### Reading -/

/-- The value of a digit: `0` to `9`, then `a` to `f` in either case. -/
def digitValue? (letter : Char) : Option Nat :=
  if '0' ≤ letter ∧ letter ≤ '9' then some (letter.toNat - '0'.toNat)
  else if 'a' ≤ letter ∧ letter ≤ 'f' then some (letter.toNat - 'a'.toNat + 10)
  else if 'A' ≤ letter ∧ letter ≤ 'F' then some (letter.toNat - 'A'.toNat + 10)
  else none

/-- The value of a digit of the given base. -/
def digitIn? (base : Nat) (letter : Char) : Option Nat :=
  (digitValue? letter).filter (· < base)

theorem digitIn?_lt {base digit : Nat} {letter : Char} (read : digitIn? base letter = some digit) :
    digit < base := by
  simp only [digitIn?, Option.filter_eq_some_iff, decide_eq_true_eq] at read
  exact read.2

/-- The number that a row of digit values denotes, the most significant one first. -/
def numberOfDigits (base : Nat) (digits : List Nat) : Nat :=
  digits.foldl (fun number digit => number * base + digit) 0

/-- The number that a row of digit characters denotes. An empty row denotes none. -/
def natOfDigits? (base : Nat) (letters : List Char) : Option Nat :=
  if letters.isEmpty then none
  else (letters.mapM (digitIn? base)).map (numberOfDigits base)

/-- Whether a character is a decimal digit. -/
def isDecimal (letter : Char) : Bool :=
  '0' ≤ letter && letter ≤ '9'

/-! ### Writing -/

/-- A number in decimal digits. -/
def decimalDigits (number : Nat) : List Char :=
  Nat.toDigits 10 number

/-- A number in decimal digits, with zeros in front up to the given width. -/
def paddedDigits (width number : Nat) : List Char :=
  List.leftpad width '0' (decimalDigits number)

/-- A number in decimal text. -/
def natText (number : Nat) : String :=
  String.ofList (decimalDigits number)

/-- An integer in decimal text, with a sign only in front of a negative one. -/
def intText (number : Int) : String :=
  if number < 0 then "-" ++ natText number.natAbs else natText number.natAbs

/-- A number in decimal text, with zeros in front up to the given width. -/
def paddedText (width number : Nat) : String :=
  String.ofList (paddedDigits width number)

/-- An integer padded with zeros to the given width, of which a minus sign takes one place. -/
def paddedIntText (width : Nat) (number : Int) : String :=
  if number < 0 then "-" ++ paddedText (width - 1) number.natAbs
  else paddedText width number.natAbs

/-- A digit value below sixteen as a lower-case hexadecimal digit. -/
def hexDigit (value : Nat) : Char :=
  Nat.digitChar value

end PacketFilter.Text
