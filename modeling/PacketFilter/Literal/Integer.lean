/-
This file reads unsigned integer literals. A literal is hexadecimal after `0x`, octal after a
leading `0` and decimal otherwise; signs, blanks and anything after the digits are refused, and
a number of more than 32 bits has a diagnostic of its own.
-/

import PacketFilter.Text.WholeNumber
import PacketFilter.ValueError

namespace PacketFilter.Literal

open Text

/-- The base of an integer literal and the characters that have to be its digits. -/
def integerParts : List Char → Nat × List Char
  | '0' :: 'x' :: digits => (16, digits)
  | '0' :: 'X' :: digits => (16, digits)
  | '0' :: digit :: digits => (8, digit :: digits)
  | digits => (10, digits)

/-- The value of an integer literal. Whether all of it is digits is settled before its size is. -/
def readInteger (text : String) : Except ValueError UInt32 :=
  let (base, digits) := integerParts text.toList
  if digits.isEmpty || !digits.all fun digit => (digitIn? base digit).isSome then
    .error (.invalidNumber text)
  else
    match readNatural base (Nat.pow 2 32 - 1) digits with
    | .ok number => .ok (UInt32.ofNat number)
    | .error .tooLarge => .error (.integerOverflow text)
    | .error _ => .error (.invalidNumber text)

end PacketFilter.Literal
