/-
This file writes floating-point numbers with the fewest digits that read back as the same
number. The numbers that are rounded to a given magnitude form an interval, whose ends belong
to it when the significand is even. The coarsest decimal grid with a point in that interval is
the one of the fewest digits, and a grid that has a point there has one next to the number
itself. A layout then says how the digits are laid out.
-/

import PacketFilter.Binary64.Basic
import PacketFilter.Text.Digits

namespace PacketFilter

open Text

/-- A decimal number, `digits · 10^power`. -/
structure ShortDecimal where
  digits : Nat
  power : Int
  deriving DecidableEq

/-- Which of two equally near decimals is taken. -/
inductive HalfwayRule where
  | up
  | even

/-- How digits are laid out. -/
structure NumberLayout where
  /-- Which of two equally near decimals is taken. -/
  halfway : HalfwayRule
  /-- Whether a number is written without a power of ten, by the place of its first digit. -/
  positional : Int → Bool
  /-- Whether a whole number is written with a point and a zero. -/
  marksWhole : Bool

namespace Binary64

/-! ### The shortest decimal -/

/-- The magnitude, in quarters of its last place, with the ends of the interval that is rounded
to it. Below a power of two the magnitudes lie closer together. -/
def roundingInterval (magnitude : Nat) : Nat × Nat × Nat :=
  let middle := 4 * significand magnitude
  let gapBelow := if magnitude % Nat.pow 2 52 = 0 ∧ Nat.pow 2 53 ≤ magnitude then 1 else 2
  (middle - gapBelow, middle, middle + 2)

/-- The point of a decimal grid that is nearest to a magnitude among those that read back as it.
All is measured in a unit in which both the grid and the quarters of the last place are whole. -/
def gridPoint? (rule : HalfwayRule) (magnitude : Nat) (grid : Int) : Option ShortDecimal :=
  let (low, middle, high) := roundingInterval magnitude
  let binary := exponent magnitude - 2
  let quarter := Nat.pow 2 binary.toNat * Nat.pow 10 (-grid).toNat
  let step := Nat.pow 2 (-binary).toNat * Nat.pow 10 grid.toNat
  let readsBack (digits : Nat) : Bool :=
    if significand magnitude % 2 = 0 then
      low * quarter ≤ digits * step && digits * step ≤ high * quarter
    else
      low * quarter < digits * step && digits * step < high * quarter
  let below := middle * quarter / step
  let rest := middle * quarter % step
  let prefersBelow := match compare (2 * rest) step, rule with
    | .lt, _ => true
    | .gt, _ => false
    | .eq, .up => false
    | .eq, .even => below % 2 = 0
  if readsBack below && (prefersBelow || !readsBack (below + 1)) then some ⟨below, grid⟩
  else if readsBack (below + 1) then some ⟨below + 1, grid⟩
  else none

/-- The power of ten of a grid that is coarser than any finite magnitude needs: the decimal
logarithm of the number, from its binary one, and a little more. -/
def coarsestGrid (magnitude : Nat) : Int :=
  ((significand magnitude).log2 + exponent magnitude) * 30103 / 100000 + 2

/-- The shortest decimal that reads back as a finite magnitude, the nearest one of that length.
Seventeen digits always do, so the search ends within the grids that are tried. -/
def shortest (rule : HalfwayRule) (magnitude : Nat) : ShortDecimal :=
  let grids := (List.range 24).map fun (finer : Nat) => coarsestGrid magnitude - (finer : Int)
  (grids.findSome? (gridPoint? rule magnitude)).getD ⟨0, 0⟩

/-! ### Layout -/

/-- Digits with the point where their power of ten puts it. -/
def positionalText (layout : NumberLayout) (decimal : ShortDecimal) : String :=
  let digits := decimalDigits decimal.digits
  let places := digits.length + decimal.power
  if 0 ≤ decimal.power then
    String.ofList (digits ++ List.replicate decimal.power.toNat '0')
      ++ (if layout.marksWhole then ".0" else "")
  else if 0 < places then
    String.ofList (digits.take places.toNat ++ '.' :: digits.drop places.toNat)
  else
    "0." ++ String.ofList (List.replicate (-places).toNat '0' ++ digits)

/-- Digits with a point after the first one, and a power of ten with its sign. -/
def scientificText (decimal : ShortDecimal) : String :=
  let digits := decimalDigits decimal.digits
  let leading := digits.length - 1 + decimal.power
  let point := if digits.length = 1 then digits else digits.take 1 ++ '.' :: digits.drop 1
  String.ofList point ++ "e" ++ (if leading < 0 then "-" else "+") ++ natText leading.natAbs

/-- The text of a finite magnitude. -/
def magnitudeText (layout : NumberLayout) (magnitude : Nat) : String :=
  if magnitude = 0 then
    if layout.marksWhole then "0.0" else "0"
  else
    let decimal := shortest layout.halfway magnitude
    let leading := (decimalDigits decimal.digits).length - 1 + decimal.power
    if layout.positional leading then positionalText layout decimal else scientificText decimal

/-- The text of a finite number. -/
def finiteText (layout : NumberLayout) (value : Binary64) : String :=
  (if value.negative then "-" else "") ++ magnitudeText layout value.magnitude

end Binary64

end PacketFilter
