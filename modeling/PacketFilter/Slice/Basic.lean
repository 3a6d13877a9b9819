/-
This file holds a slice: the part of a byte string from a start offset on, up to a length, up
to an end offset that is included, or up to the end. Negative offsets count back from the end of
the data. A slice remembers what was set before its present ending; nothing reads it, but two
slices are only equal if it is equal as well.
-/

import PacketFilter.Fault
import PacketFilter.Text.Digits

namespace PacketFilter

open Text

/-- A part of a byte string. -/
structure Slice where
  start : Int32
  /-- The count of bytes, where the slice ends by its length. -/
  length : Int32
  /-- The offset of the last byte, where the slice ends by an offset. -/
  endOffset : Int32
  ending : Ending
  deriving DecidableEq

namespace Slice

/-! ### Setting -/

/-- A slice with nothing set. -/
def blank : Slice :=
  ⟨0, 0, 0, .unset⟩

/-- Sets the start offset, whatever the ending is. -/
def setStart (slice : Slice) (offset : Int32) : Slice :=
  { slice with start := offset }

/-- Makes the slice end by its length. -/
def setLength (slice : Slice) (length : Int32) : Slice :=
  { slice with length := length, ending := .length }

/-- Makes the slice end by an offset. -/
def setEndOffset (slice : Slice) (offset : Int32) : Slice :=
  { slice with endOffset := offset, ending := .offset }

/-- Makes the slice run to the end. -/
def setToTheEnd (slice : Slice) : Slice :=
  { slice with ending := .toEnd }

/-- The slice `start:length`. -/
def withLength (start length : Int32) : Slice :=
  (blank.setStart start).setLength length

/-- The slice `start-end`. -/
def withEndOffset (start endOffset : Int32) : Slice :=
  (blank.setStart start).setEndOffset endOffset

/-- The slice `start:`. -/
def toTheEnd (start : Int32) : Slice :=
  (blank.setStart start).setToTheEnd

/-! ### Reading -/

/-- The start offset of a slice whose ending is set. -/
def readStart (slice : Slice) : Except Fault Int32 :=
  if slice.ending = .unset then .error .unsetStart else .ok slice.start

/-- The ending of a slice, if it is set. -/
def readEnding (slice : Slice) : Except Fault Ending :=
  if slice.ending = .unset then .error .unsetEnding else .ok slice.ending

/-- The length of a slice that ends by its length. -/
def readLength (slice : Slice) : Except Fault Int32 :=
  if slice.ending = .length then .ok slice.length else .error (.noLength slice.ending)

/-- The end offset of a slice that ends by an offset. -/
def readEndOffset (slice : Slice) : Except Fault Int32 :=
  if slice.ending = .offset then .ok slice.endOffset else .error (.noEndOffset slice.ending)

/-- How many bytes the slice covers, where that is known without the data. The end offset is
included, so `2-5` covers four bytes; a count that leaves the range of offsets stays at its
end. -/
def span (slice : Slice) : Except Fault (Option Int32) :=
  match slice.ending with
  | .unset => .error .unsetEnding
  | .length => .ok (some slice.length)
  | .offset =>
    let distance := Int32.ofIntClamp (slice.endOffset.toInt - slice.start.toInt)
    .ok (some (Int32.ofIntClamp (distance.toInt + 1)))
  | .toEnd => .ok none

/-! ### The bytes that a slice selects -/

/-- The position of an offset in data of a given size. -/
def position (size : Nat) (offset : Int32) : Int :=
  if offset < 0 then size + offset.toInt else offset.toInt

/-- The position behind the last byte of a slice that begins at the given position. -/
def stop? (slice : Slice) (size : Nat) (start : Int) : Option Int :=
  match slice.ending with
  | .unset => none
  | .length => if slice.length < 0 then none else some (start + slice.length.toInt)
  | .offset => some (position size slice.endOffset + 1)
  | .toEnd => some size

/-- The position of the first byte that the slice selects from data of the given size, and the
position behind the last one, if all of them lie in the data. Sizes are below `2^63`. -/
def resolve (slice : Slice) (size : Nat) : Except Fault (Option (Nat × Nat)) :=
  if Nat.pow 2 63 ≤ size then .ok none
  else if slice.ending = .unset then .error .unsetStart
  else
    let start := position size slice.start
    if start < 0 ∨ (size : Int) < start then .ok none
    else
      match slice.stop? size start with
      | none => .ok none
      | some stop =>
        if stop < start ∨ (size : Int) < stop then .ok none
        else .ok (some (start.toNat, stop.toNat))

/-! ### Text -/

/-- The text of an offset. -/
def offsetText (offset : Int32) : String :=
  intText offset.toInt

/-- The text of a slice. -/
def text (slice : Slice) : String :=
  match slice.ending with
  | .unset => "?"
  | .length => offsetText slice.start ++ ":" ++ offsetText slice.length
  | .offset => offsetText slice.start ++ "-" ++ offsetText slice.endOffset
  | .toEnd => offsetText slice.start ++ ":"

end Slice

end PacketFilter
