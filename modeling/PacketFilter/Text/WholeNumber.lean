/-
This file reads whole numbers in a base and up to a limit. The digits are taken one after the
other, and the first one that is no digit or makes the number too large decides what is wrong
with it.
-/

import PacketFilter.Text.Digits

namespace PacketFilter

/-- What is wrong with a whole number. -/
inductive NumberError where
  | empty
  | invalidDigit
  | tooLarge
  | tooSmall
  deriving DecidableEq

/-- What is wrong with a whole number, in words. -/
def NumberError.message : NumberError → String
  | .empty => "cannot parse integer from empty string"
  | .invalidDigit => "invalid digit found in string"
  | .tooLarge => "number too large to fit in target type"
  | .tooSmall => "number too small to fit in target type"

namespace Text

/-- The number that some digits denote, continuing a number that is read so far. It must not
exceed the limit at any digit. -/
def readDigitsUpTo (base limit : Nat) (excess : NumberError) (number : Nat) :
    List Char → Except NumberError Nat
  | [] => .ok number
  | letter :: rest =>
    match digitIn? base letter with
    | none => .error .invalidDigit
    | some digit =>
      if limit < number * base + digit then .error excess
      else readDigitsUpTo base limit excess (number * base + digit) rest

/-- The number that one or more digits denote. -/
def readMagnitude (base limit : Nat) (excess : NumberError) :
    List Char → Except NumberError Nat
  | [] => .error .invalidDigit
  | letters => readDigitsUpTo base limit excess 0 letters

/-- A number without a minus sign, up to the given limit. -/
def readNatural (base limit : Nat) : List Char → Except NumberError Nat
  | [] => .error .empty
  | '+' :: rest => readMagnitude base limit .tooLarge rest
  | letters => readMagnitude base limit .tooLarge letters

end Text

end PacketFilter
