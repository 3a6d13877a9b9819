/-
This file holds JSON documents as the output of the library uses them, and their two texts: in
one line, and spread over lines with an indentation of two spaces a level.
-/

import PacketFilter.Binary64.Shortest
import PacketFilter.Text.Digits

namespace PacketFilter

open Text

/-- A JSON document. The members of an object keep their order. -/
inductive Json where
  | null
  | bool (value : Bool)
  | integer (value : Int)
  | double (value : Binary64)
  | string (text : String)
  | array (items : List Json)
  | object (members : List (String × Json))

namespace Json

/-! ### Scalars -/

/-- How numbers with a fraction are laid out: without a power of ten from `10^(-5)` up to sixteen
digits before the point, with a point in whole numbers, and with the even one of two equally
near decimals. -/
def doubleLayout : NumberLayout :=
  { halfway := .even
    positional := fun leading => -5 ≤ leading && leading ≤ 15
    marksWhole := true }

/-- The text of a floating-point number. Numbers that are not finite have none. -/
def doubleText (number : Binary64) : String :=
  if number.isNaN || number.isInfinite then "null"
  else Binary64.finiteText doubleLayout number

/-- A character inside a string. Quotation marks, backslashes and control characters are escaped,
nothing else is. -/
def stringCharacter (letter : Char) : List Char :=
  if letter = '"' then ['\\', '"']
  else if letter = '\\' then ['\\', '\\']
  else if letter = '\x08' then ['\\', 'b']
  else if letter = '\x0C' then ['\\', 'f']
  else if letter = '\n' then ['\\', 'n']
  else if letter = '\r' then ['\\', 'r']
  else if letter = '\t' then ['\\', 't']
  else if letter.toNat < 0x20 then
    ['\\', 'u', '0', '0', hexDigit (letter.toNat / 16), hexDigit (letter.toNat % 16)]
  else [letter]

/-- The text of a string. -/
def stringText (text : String) : String :=
  "\"" ++ String.ofList (text.toList.flatMap stringCharacter) ++ "\""

/-! ### The text in one line -/

mutual

/-- The text of a document in one line, without blanks. -/
def compactText : Json → String
  | .null => "null"
  | .bool value => if value then "true" else "false"
  | .integer value => intText value
  | .double value => doubleText value
  | .string text => stringText text
  | .array items => "[" ++ compactItems items ++ "]"
  | .object members => "\x7b" ++ compactMembers members ++ "\x7d"

/-- The items of an array with commas between them. -/
def compactItems : List Json → String
  | [] => ""
  | [item] => compactText item
  | item :: rest => compactText item ++ "," ++ compactItems rest

/-- The members of an object with commas between them. -/
def compactMembers : List (String × Json) → String
  | [] => ""
  | [member] => compactMember member
  | member :: rest => compactMember member ++ "," ++ compactMembers rest

/-- A member of an object. -/
def compactMember : String × Json → String
  | (name, value) => stringText name ++ ":" ++ compactText value

end

/-! ### The text over several lines -/

/-- A new line at the given level. -/
def newLine (level : Nat) : String :=
  String.ofList ('\n' :: List.replicate (2 * level) ' ')

mutual

/-- The text of a document over several lines, each item and each member on one of its own. What
is empty stays on its line. -/
def prettyText (level : Nat) : Json → String
  | .array [] => "[]"
  | .array items => "[" ++ prettyItems (level + 1) items ++ newLine level ++ "]"
  | .object [] => "\x7b\x7d"
  | .object members =>
    "\x7b" ++ prettyMembers (level + 1) members ++ newLine level ++ "\x7d"
  | .null => "null"
  | .bool value => if value then "true" else "false"
  | .integer value => intText value
  | .double value => doubleText value
  | .string text => stringText text

/-- The items of an array, each on its line. -/
def prettyItems (level : Nat) : List Json → String
  | [] => ""
  | [item] => newLine level ++ prettyText level item
  | item :: rest => newLine level ++ prettyText level item ++ "," ++ prettyItems level rest

/-- The members of an object, each on its line. -/
def prettyMembers (level : Nat) : List (String × Json) → String
  | [] => ""
  | [member] => newLine level ++ prettyMember level member
  | member :: rest =>
    newLine level ++ prettyMember level member ++ "," ++ prettyMembers level rest

/-- A member of an object. -/
def prettyMember (level : Nat) : String × Json → String
  | (name, value) => stringText name ++ ": " ++ prettyText level value

end

end Json

end PacketFilter
