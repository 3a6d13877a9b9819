/-
This file writes a text between quotation marks so that it can be told where it ends and what
is in it: the quotation mark and the backslash are escaped, the common control characters have
names of one letter, and every other character that cannot be shown as it is stands as its
code point.
-/

import PacketFilter.Text.Digits
import PacketFilter.Text.Printable

namespace PacketFilter.Text

/-- A character as its code point in hexadecimal digits. -/
def codePointEscape (letter : Char) : List Char :=
  "\\u\x7b".toList ++ Nat.toDigits 16 letter.toNat ++ "\x7d".toList

/-- A character as it stands between quotation marks. -/
def quotedCharacter (letter : Char) : List Char :=
  if letter = '\x00' then ['\\', '0']
  else if letter = '\t' then ['\\', 't']
  else if letter = '\r' then ['\\', 'r']
  else if letter = '\n' then ['\\', 'n']
  else if letter = '\\' then ['\\', '\\']
  else if letter = '"' then ['\\', '"']
  else if extendsGrapheme letter || isUnprintable letter then codePointEscape letter
  else [letter]

/-- A text between quotation marks. -/
def quoted (text : String) : String :=
  "\"" ++ String.ofList (text.toList.flatMap quotedCharacter) ++ "\""

end PacketFilter.Text
