/-
This file reads floating-point literals. The text is read into the number that it writes down,
which is exact, and the number is then rounded. A literal whose number is lost in rounding is
refused: a diagnostic each for what becomes infinite, what becomes zero and what keeps only part
of its precision. Whether a number was lost or is infinite or zero as it is written is told from the
text alone.
-/

import PacketFilter.Binary64.Rounding
import PacketFilter.Text.Digits
import PacketFilter.ValueError

namespace PacketFilter

open Text

/-- What a floating-point literal writes down. -/
inductive DoubleLiteral where
  | infinity (negative : Bool)
  | notANumber (negative : Bool)
  /-- The mantissa, read without its point, times a power of ten. -/
  | decimal (negative : Bool) (mantissa : Nat) (power : Int)
  deriving DecidableEq

namespace DoubleLiteral

/-- The sign in front of a text, and the text after it. -/
def splitSign : List Char → Bool × List Char
  | '-' :: rest => (true, rest)
  | '+' :: rest => (false, rest)
  | letters => (false, letters)

/-- The power of ten that the end of a literal gives: none, or a letter `e` with an integer. -/
def readPower? : List Char → Option Int
  | [] => some 0
  | marker :: rest =>
    if marker = 'e' || marker = 'E' then
      let (negative, digits) := splitSign rest
      (natOfDigits? 10 digits).map fun (number : Nat) =>
        if negative then -(number : Int) else number
    else none

/-- The digits after a decimal point, and what follows them. Without a point there are none. -/
def splitFraction : List Char → List Char × List Char
  | '.' :: rest => (rest.takeWhile isDecimal, rest.dropWhile isDecimal)
  | letters => ([], letters)

/-- The mantissa and the power of ten of a decimal without its sign. Digits may be missing on
one side of the point, not on both. -/
def readDecimal? (letters : List Char) : Option (Nat × Int) := do
  let whole := letters.takeWhile isDecimal
  let (fraction, tail) := splitFraction (letters.dropWhile isDecimal)
  let mantissa ← natOfDigits? 10 (whole ++ fraction)
  let power ← readPower? tail
  return (mantissa, power - fraction.length)

/-- What a text writes down, if it is a floating-point literal at all. The three names count in
either case of their letters. -/
def ofText? (text : String) : Option DoubleLiteral :=
  let (negative, letters) := splitSign text.toList
  match readDecimal? letters with
  | some (mantissa, power) => some (.decimal negative mantissa power)
  | none =>
    match String.ofList (letters.map Char.toLower) with
    | "inf" | "infinity" => some (.infinity negative)
    | "nan" => some (.notANumber negative)
    | _ => none

end DoubleLiteral

namespace Binary64

/-- The number nearest to a decimal. -/
def ofDecimal (negative : Bool) (mantissa : Nat) (power : Int) : Binary64 :=
  ofMagnitude negative (decimalMagnitude mantissa power)

/-- The value nearest to what a literal writes down. -/
def ofLiteral : DoubleLiteral → Binary64
  | .infinity negative => infinity negative
  | .notANumber negative => ofMagnitude negative notANumber.magnitude
  | .decimal negative mantissa power => ofDecimal negative mantissa power

/-- Whether a text names infinity, behind any signs. -/
def namesInfinity (text : String) : Bool :=
  let unsigned := text.toList.dropWhile fun letter => letter = '+' || letter = '-'
  ['i', 'n', 'f'].isPrefixOf (unsigned.map Char.toLower)

/-- Whether a text has a digit other than zero in front of its power of ten. -/
def hasNonzeroMantissa (text : String) : Bool :=
  let mantissa := text.toList.takeWhile fun letter => letter ≠ 'e' && letter ≠ 'E'
  mantissa.any fun letter => '1' ≤ letter && letter ≤ '9'

/-- The value of a floating-point literal. -/
def read (text : String) : Except ValueError Binary64 :=
  match DoubleLiteral.ofText? text with
  | none => .error (.invalidNumber text)
  | some literal =>
    let value := ofLiteral literal
    if value.isInfinite && !namesInfinity text then .error (.floatOverflow text)
    else if value.isZero && hasNonzeroMantissa text then .error (.floatUnderflow text)
    else if value.isSubnormal then .error (.invalidFloat text)
    else .ok value

end Binary64

end PacketFilter
