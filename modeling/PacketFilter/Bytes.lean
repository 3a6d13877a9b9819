/-
This file holds byte strings: their order, by length first and then byte by byte, and their
text, two hexadecimal digits a byte. Bytes are written with colons between them; hyphens and
points are read as well.
-/

import PacketFilter.Fault
import PacketFilter.Text.Utf8
import PacketFilter.Text.WholeNumber
import PacketFilter.ValueError

namespace PacketFilter

open Text

/-- A string of bytes. -/
abbrev Bytes := List UInt8

namespace Bytes

/-- The order of byte strings: a shorter one comes first, and of two equally long ones the first
byte in which they differ decides. -/
def order (left right : Bytes) : Ordering :=
  (compare left.length right.length).then (List.compareLex compare left right)

/-- The bytes from one position up to another one, which both have to lie in the data. -/
def between (data : Bytes) (start stop : Nat) : Except Fault Bytes :=
  if start ≤ stop ∧ stop ≤ data.length then .ok ((data.drop start).take (stop - start))
  else .error (.outOfBounds start stop data.length)

/-- A byte as two lower-case hexadecimal digits. -/
def byteDigits (byte : UInt8) : List Char :=
  [hexDigit (byte.toNat / 16), hexDigit (byte.toNat % 16)]

/-- The digits of some bytes, with nothing between them. -/
def hexDigits (bytes : Bytes) : List Char :=
  bytes.flatMap byteDigits

/-- The text of a byte string: its bytes with colons between them. -/
def text (bytes : Bytes) : String :=
  String.ofList (List.intercalate [':'] (bytes.map byteDigits))

/-- Whether a character may stand between two bytes. -/
def isSeparator (letter : Char) : Bool :=
  letter = ':' || letter = '-' || letter = '.'

/-- Whether a byte is a hexadecimal digit of ASCII. -/
def isHexDigit (byte : UInt8) : Bool :=
  (0x30 ≤ byte && byte ≤ 0x39) || (0x61 ≤ byte && byte ≤ 0x66) || (0x41 ≤ byte && byte ≤ 0x46)

/-- The byte that a group of two hexadecimal digits denotes. The group is measured in bytes. -/
def readByte? (group : List Char) : Option UInt8 :=
  let encoded := group.flatMap encodeCharacter
  if encoded.length = 2 && encoded.all isHexDigit then
    match readNatural 16 (Nat.pow 2 8 - 1) group with
    | .ok number => some (UInt8.ofNat number)
    | .error _ => none
  else none

/-- The byte string that a literal denotes: groups of two digits, one separator between any two
of them and none at either end. -/
def read (text : String) : Except ValueError Bytes :=
  match (text.toList.splitOnP isSeparator).mapM readByte? with
  | some bytes => .ok bytes
  | none => .error (.invalidBytes text)

end Bytes

end PacketFilter
